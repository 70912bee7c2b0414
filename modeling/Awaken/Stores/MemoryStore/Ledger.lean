import Awaken.Stores.MemoryStore.Queue

/-! Delivery of pending messages. A ledger records what happened to the ids of one thread; the last
event of an id says where its message is. -/

namespace Awaken.Stores.MemoryStore

open Awaken.Lib Awaken.Contract Awaken.Contract.Storage Awaken.Contract.MessageAppend
open InMemoryStore

variable {J C : Type}

inductive PendingEvent where
  | accepted (id : String)
  | retracted (id : String)
  | frozen (id : String)
deriving DecidableEq

def PendingEvent.id : PendingEvent → String
  | .accepted id => id
  | .retracted id => id
  | .frozen id => id

def lastEvent (ledger : List PendingEvent) (id : String) : Option PendingEvent :=
  ledger.reverse.find? (fun event => event.id = id)

section LastEvent

variable {ledger events : List PendingEvent} {id : String}

lemma lastEvent_append : lastEvent (ledger ++ events) id =
    (lastEvent events id).or (lastEvent ledger id) := by
  rw [lastEvent, List.reverse_append, List.find?_append]
  rfl

lemma lastEvent_eq_none (h : ∀ event ∈ events, event.id ≠ id) : lastEvent events id = none := by
  refine List.find?_eq_none.mpr (fun event hmem => ?_)
  simpa using h event (List.mem_reverse.mp hmem)

lemma mem_of_lastEvent {event : PendingEvent} (h : lastEvent ledger id = some event) :
    event ∈ ledger ∧ event.id = id :=
  ⟨List.mem_reverse.mp (List.mem_of_find?_eq_some h), by simpa using List.find?_some h⟩

lemma lastEvent_map {kind : String → PendingEvent} (hk : ∀ x, (kind x).id = x) {ids : List String}
    (h : id ∈ ids) : lastEvent (ids.map kind) id = some (kind id) := by
  cases hlast : lastEvent (ids.map kind) id with
  | none =>
    have hnone := List.find?_eq_none.mp hlast (kind id)
      (List.mem_reverse.mpr (List.mem_map.mpr ⟨id, h, rfl⟩))
    simp [hk] at hnone
  | some event =>
    obtain ⟨hmem, hid⟩ := mem_of_lastEvent hlast
    obtain ⟨x, -, rfl⟩ := List.mem_map.mp hmem
    rw [hk] at hid
    rw [hid]

lemma lastEvent_map_of_not_mem {kind : String → PendingEvent} (hk : ∀ x, (kind x).id = x)
    {ids : List String} (h : id ∉ ids) : lastEvent (ids.map kind) id = none := by
  refine lastEvent_eq_none (fun event hmem heq => ?_)
  obtain ⟨x, hx, rfl⟩ := List.mem_map.mp hmem
  rw [hk] at heq
  exact h (heq ▸ hx)

lemma lastEvent_map_singleton {kind : String → PendingEvent} (hk : ∀ x, (kind x).id = x)
    {x : String} (h : id ≠ x) : lastEvent [kind x] id = none := by
  refine lastEvent_eq_none (fun event hmem heq => h ?_)
  rw [← heq, List.mem_singleton.mp hmem, hk]

end LastEvent

def Placed (v : ThreadView J C) (id : String) : Option PendingEvent → Prop
  | none => id ∉ pendingIds v.pending
  | some (.accepted _) => id ∈ pendingIds v.pending
  | some (.frozen _) => id ∈ messageIds v.committed
  | some (.retracted _) => id ∉ pendingIds v.pending ∧ id ∉ messageIds v.committed

structure Ledgered (v : ThreadView J C) (ledger : List PendingEvent) : Prop where
  queue : WellQueued v.pending
  log : validateCommittedMessages v.committed = .ok ()
  apart : ∀ id ∈ pendingIds v.pending, id ∉ messageIds v.committed
  place : ∀ id, Placed v id (lastEvent ledger id)
  known : ∀ event ∈ ledger, .accepted event.id ∈ ledger

lemma Placed.congr {v v' : ThreadView J C} {id : String} {event : Option PendingEvent}
    (hp : id ∈ pendingIds v'.pending ↔ id ∈ pendingIds v.pending)
    (hc : id ∈ messageIds v'.committed ↔ id ∈ messageIds v.committed) (h : Placed v id event) :
    Placed v' id event := by
  cases event with
  | none => exact fun hid => h (hp.mp hid)
  | some event =>
    cases event with
    | accepted x => exact hp.mpr h
    | frozen x => exact hc.mpr h
    | retracted x => exact ⟨fun hid => h.1 (hp.mp hid), fun hid => h.2 (hc.mp hid)⟩

namespace Ledgered

variable {v v' : ThreadView J C} {ledger : List PendingEvent} {id : String}

lemma accepted_of_mem (h : Ledgered v ledger) (hid : id ∈ pendingIds v.pending) :
    .accepted id ∈ ledger := by
  have hplace := h.place id
  cases hlast : lastEvent ledger id with
  | none =>
    rw [hlast] at hplace
    exact absurd hid hplace
  | some event =>
    obtain ⟨hmem, heq⟩ := mem_of_lastEvent hlast
    exact heq ▸ h.known event hmem

lemma messageIds_append (log delta : List (Message J C)) :
    messageIds (log ++ delta) = messageIds log ++ messageIds delta := List.filterMap_append

theorem accept (h : Ledgered v ledger) {records : List (PendingMessageRecord J C)}
    (ha : Accepts v records v') :
    Ledgered v' (ledger ++ (pendingIds records).map .accepted) := by
  have hids : pendingIds v'.pending = pendingIds v.pending ++ pendingIds records := by
    rw [ha.pending, pendingIds, List.map_append]
    rfl
  refine ⟨⟨?_, ?_, ?_⟩, ?_, ?_, ?_, ?_⟩
  · rw [ha.pending]
    exact h.queue.carries.append ha.carries
  · rw [hids]
    refine List.nodup_append.mpr ⟨h.queue.nodup, ha.nodup, fun a hmem b hb hab => ?_⟩
    exact (ha.fresh b hb).1 (hab ▸ hmem)
  · rw [ha.pending]
    exact h.queue.numbered.append ha.positions
  · rw [ha.committed]
    exact h.log
  · intro id hid
    rw [ha.committed]
    rcases List.mem_append.mp (hids ▸ hid) with hid | hid
    · exact h.apart id hid
    · exact (ha.fresh id hid).2
  · intro id
    rw [lastEvent_append]
    by_cases hid : id ∈ pendingIds records
    · rw [lastEvent_map (fun _ => rfl) hid, Option.some_or]
      change id ∈ pendingIds v'.pending
      rw [hids]
      exact List.mem_append_right _ hid
    · rw [lastEvent_map_of_not_mem (fun _ => rfl) hid, Option.none_or]
      refine (h.place id).congr ?_ (by rw [ha.committed])
      rw [hids, List.mem_append]
      exact or_iff_left hid
  · intro event hmem
    rcases List.mem_append.mp hmem with hmem | hmem
    · exact List.mem_append_left _ (h.known event hmem)
    · obtain ⟨x, hx, rfl⟩ := List.mem_map.mp hmem
      exact List.mem_append_right _ (List.mem_map.mpr ⟨x, hx, rfl⟩)

lemma ids_freeze {indexes : List Nat} (hf : Freezes v indexes v') :
    (pendingIds (picked v.pending indexes) ++ pendingIds (unpicked v.pending indexes)).Perm
      (pendingIds v.pending) := by
  rw [pendingIds, pendingIds, ← List.map_append]
  exact (picked_append_unpicked hf.increasing hf.bounded).map _

theorem freeze (h : Ledgered v ledger) {indexes : List Nat} (hf : Freezes v indexes v') :
    Ledgered v' (ledger ++ (pendingIds (picked v.pending indexes)).map .frozen) := by
  have hperm := ids_freeze hf
  have hnodup := hperm.nodup_iff.mpr h.queue.nodup
  obtain ⟨-, hleft, hdisjoint⟩ := List.nodup_append.mp hnodup
  have hpicked : CarriesIds (picked v.pending indexes) := by
    refine h.queue.carries.subset (fun r hr => ?_)
    exact (picked_append_unpicked hf.increasing hf.bounded).mem_iff.mp
      (List.mem_append_left _ hr)
  have hunpicked : CarriesIds (unpicked v.pending indexes) :=
    h.queue.carries.subset (fun r hr => (unpicked_sublist v.pending indexes).subset hr)
  have hpending : pendingIds v'.pending = pendingIds (unpicked v.pending indexes) := by
    rw [hf.pending, pendingIds_normalize]
  have hcommitted : messageIds v'.committed =
      messageIds v.committed ++ pendingIds (picked v.pending indexes) := by
    rw [hf.committed, messageIds_append, messageIds_of_carriesIds hpicked]
  refine ⟨⟨?_, ?_, ?_⟩, ?_, ?_, ?_, ?_⟩
  · rw [hf.pending]
    exact hunpicked.normalize
  · rw [hpending]
    exact hleft
  · rw [hf.pending]
    exact numbered_normalize _
  · rw [hf.committed]
    exact validateCommittedMessages_append.mpr ⟨h.log, hf.accepted⟩
  · intro id hid
    rw [hpending] at hid
    rw [hcommitted, List.mem_append]
    rintro (hin | hin)
    · exact h.apart id (hperm.mem_iff.mp (List.mem_append_right _ hid)) hin
    · exact hdisjoint id hin id hid rfl
  · intro id
    rw [lastEvent_append]
    by_cases hid : id ∈ pendingIds (picked v.pending indexes)
    · rw [lastEvent_map (fun _ => rfl) hid, Option.some_or]
      change id ∈ messageIds v'.committed
      rw [hcommitted]
      exact List.mem_append_right _ hid
    · rw [lastEvent_map_of_not_mem (fun _ => rfl) hid, Option.none_or]
      refine (h.place id).congr ?_ ?_
      · rw [hpending, ← hperm.mem_iff, List.mem_append]
        exact (or_iff_right hid).symm
      · rw [hcommitted, List.mem_append]
        exact or_iff_left hid
  · intro event hmem
    rcases List.mem_append.mp hmem with hmem | hmem
    · exact List.mem_append_left _ (h.known event hmem)
    · obtain ⟨x, hx, rfl⟩ := List.mem_map.mp hmem
      exact List.mem_append_left _
        (h.accepted_of_mem (hperm.mem_iff.mp (List.mem_append_left _ hx)))

theorem retract (h : Ledgered v ledger) {i : Nat} (hi : i < v.pending.length) :
    Ledgered ⟨normalizePendingPositions (v.pending.eraseIdx i), v.committed⟩
      (ledger ++ [.retracted v.pending[i].pendingId]) := by
  have hperm : (v.pending[i].pendingId :: pendingIds (v.pending.eraseIdx i)).Perm
      (pendingIds v.pending) :=
    (List.getElem_cons_eraseIdx_perm hi).map PendingMessageRecord.pendingId
  obtain ⟨hnot, hnodup⟩ := List.nodup_cons.mp (hperm.nodup_iff.mpr h.queue.nodup)
  have hmem : v.pending[i].pendingId ∈ pendingIds v.pending :=
    hperm.mem_iff.mp List.mem_cons_self
  refine ⟨⟨?_, ?_, numbered_normalize _⟩, h.log, ?_, ?_, ?_⟩
  · exact (h.queue.carries.subset
      (fun r hr => (List.eraseIdx_sublist v.pending i).subset hr)).normalize
  · rw [pendingIds_normalize]
    exact hnodup
  · intro id hid
    rw [pendingIds_normalize] at hid
    exact h.apart id (hperm.mem_iff.mp (List.mem_cons_of_mem _ hid))
  · intro id
    rw [lastEvent_append]
    by_cases hid : id = v.pending[i].pendingId
    · have hlast : lastEvent [.retracted v.pending[i].pendingId] id =
          some (.retracted v.pending[i].pendingId) :=
        hid ▸ lastEvent_map (fun _ => rfl) (List.mem_singleton_self id)
      rw [hlast, Option.some_or]
      change id ∉ pendingIds (normalizePendingPositions _) ∧ _
      rw [pendingIds_normalize, hid]
      exact ⟨hnot, h.apart _ hmem⟩
    · have hlast : lastEvent [.retracted v.pending[i].pendingId] id = none :=
        lastEvent_map_singleton (fun _ => rfl) hid
      rw [hlast, Option.none_or]
      refine Placed.congr (v := v) ?_ Iff.rfl (h.place id)
      rw [pendingIds_normalize, ← hperm.mem_iff, List.mem_cons]
      exact (or_iff_right hid).symm
  · intro event hin
    rcases List.mem_append.mp hin with hin | hin
    · exact List.mem_append_left _ (h.known event hin)
    · rw [List.mem_singleton.mp hin]
      exact List.mem_append_left _ (h.accepted_of_mem hmem)

theorem commit (h : Ledgered v ledger) {delta : List (Message J C)}
    (hdelta : validateAppendOnlyDelta v.committed delta = .ok ())
    (hfresh : ∀ id ∈ messageIds delta, .accepted id ∉ ledger) :
    Ledgered ⟨v.pending, v.committed ++ delta⟩ ledger := by
  refine ⟨h.queue, validateCommittedMessages_append.mpr ⟨h.log, hdelta⟩, ?_, ?_, h.known⟩
  · intro id hid
    rw [messageIds_append, List.mem_append]
    rintro (hin | hin)
    · exact h.apart id hid hin
    · exact hfresh id hin (h.accepted_of_mem hid)
  · intro id
    have hplace := h.place id
    cases hlast : lastEvent ledger id with
    | none =>
      rw [hlast] at hplace
      exact hplace
    | some event =>
      obtain ⟨hmem, heq⟩ := mem_of_lastEvent hlast
      have hout : id ∉ messageIds delta := fun hin => hfresh id hin (heq ▸ h.known event hmem)
      rw [hlast] at hplace
      refine Placed.congr (v := v) Iff.rfl ?_ hplace
      rw [messageIds_append, List.mem_append]
      exact or_iff_left hout

theorem edit (h : Ledgered v ledger) {queue : List (PendingMessageRecord J C)}
    (hq : WellQueued queue) (hids : ∀ id, id ∈ pendingIds queue ↔ id ∈ pendingIds v.pending) :
    Ledgered ⟨queue, v.committed⟩ ledger :=
  ⟨hq, h.log, fun id hid => h.apart id ((hids id).mp hid),
    fun id => Placed.congr (v := v) (hids id) Iff.rfl (h.place id), h.known⟩

end Ledgered

section Events

def acceptedIds (draw : Draw) (s : InMemoryStore J C) (threadId : String)
    (messages : List (Message J C)) (mode : DeliveryMode) : List String :=
  match (s.appendPendingMessageRecords draw.gen draw.now threadId messages mode).1 with
  | .ok records => pendingIds records
  | .error _ => []

def frozenIds (value : Except StorageError (List (MessageRecord J C))) : List String :=
  match value with
  | .ok records => records.map (·.messageId)
  | .error _ => []

def retractedIds (value : Except StorageError (PendingMessageRecord J C)) : List String :=
  match value with
  | .ok record => [record.pendingId]
  | .error _ => []

variable [DecidableEq J]

def callEvents (draw : Draw) (s : InMemoryStore J C) : StoreCall J C → List PendingEvent
  | .appendPending threadId messages mode => (acceptedIds draw s threadId messages mode).map .accepted
  | .retractPending threadId pendingId expectedRevision =>
    (retractedIds (s.retractPendingMessageRecordChecked threadId pendingId
      expectedRevision).1).map .retracted
  | .freezePending threadId boundary expected =>
    (frozenIds (s.freezePendingMessageRecords draw.gen threadId boundary expected).1).map .frozen
  | .freezePendingWithRun threadId boundary expected ids run =>
    (frozenIds (s.freezePendingMessageRecordsWithRun draw.gen draw.now threadId boundary expected
      ids run).1).map .frozen
  | .appendAndFreezePendingWithRun threadId messages mode boundary expected ids run =>
    match s.checkFreeze threadId expected run with
    | .error _ => []
    | .ok () => (acceptedIds draw s threadId messages mode).map .accepted ++
      (frozenIds (s.appendAndFreezePendingMessageRecordsWithRun draw.gen draw.now threadId messages
        mode boundary expected ids run).1).map .frozen
  | _ => []

def StoreCall.threadId : StoreCall J C → Option String
  | .saveThread _ | .saveThreadValidated _ | .saveThreadState .. | .updateThreadMetadata ..
  | .createRun _ => none
  | .deleteThread threadId | .saveMessages threadId _ | .appendMessageRecords threadId _
  | .deleteMessages threadId | .checkpoint threadId .. | .checkpointAppend threadId ..
  | .appendPending threadId .. | .updatePending threadId .. | .retractPending threadId ..
  | .reorderPending threadId .. | .freezePending threadId .. | .freezePendingWithRun threadId ..
  | .appendAndFreezePendingWithRun threadId .. => some threadId

def pendingEvents (draw : Draw) (s : InMemoryStore J C) (threadId : String)
    (call : StoreCall J C) : List PendingEvent :=
  if call.threadId = some threadId then callEvents draw s call else []

def Delivers (ledger : List PendingEvent) (threadId : String) (call : StoreCall J C) : Prop :=
  call.threadId = some threadId →
    match call with
    | .deleteThread _ | .saveMessages .. | .deleteMessages _ | .checkpoint .. => False
    | .appendMessageRecords _ messages | .checkpointAppend _ messages .. =>
      ∀ id ∈ messageIds messages, .accepted id ∉ ledger
    | _ => True

end Events

structure Tracked (J C : Type) where
  store : InMemoryStore J C
  ledger : List PendingEvent

def DeliveryStep [DecidableEq J] (threadId : String) (d : Tracked J C) (call : StoreCall J C)
    (d' : Tracked J C) : Prop :=
  Delivers d.ledger threadId call ∧ ∃ draw, d' =
    ⟨(d.store.exec draw call).2, d.ledger ++ pendingEvents draw d.store threadId call⟩

section Steps

variable {s : InMemoryStore J C} {ledger : List PendingEvent} {threadId : String}

lemma ids_frozenRecords {gen : Nat → String} {v : ThreadView J C} {indexes : List Nat}
    (h : CarriesIds (picked v.pending indexes)) :
    (frozenRecords gen threadId v indexes).map (·.messageId) =
      pendingIds (picked v.pending indexes) := by
  refine List.ext_getElem (by simp [frozenRecords, recordsFrom, pendingIds]) (fun i h₁ h₂ => ?_)
  have hi : i < (picked v.pending indexes).length := by simpa [pendingIds] using h₂
  have hid := h _ (List.getElem_mem hi)
  simp [frozenRecords, recordsFrom, MessageRecord.fromMessage, pendingIds, hid]

lemma Ledgered.freezesOnly (h : Ledgered (s.view threadId) ledger) {gen : Nat → String}
    {boundary : DeliveryBoundary} {currentRunId : Option String}
    {reply : Reply J C (List (MessageRecord J C))}
    (hf : FreezesOnly gen threadId boundary currentRunId s reply) :
    Ledgered (reply.2.view threadId) (ledger ++ (frozenIds reply.1).map .frozen) := by
  obtain ⟨result, s'⟩ := reply
  obtain ⟨hresult, -⟩ := hf
  cases result with
  | error e =>
    dsimp only at hresult
    rw [hresult, frozenIds, List.map_nil, List.append_nil]
    exact h
  | ok records =>
    obtain ⟨rfl, hfreezes⟩ := hresult
    have hcarries : CarriesIds (picked (s.view threadId).pending
        (selectPendingForFreezeForRun (s.pending threadId) boundary currentRunId)) :=
      h.queue.carries.subset (fun r hr =>
        (picked_append_unpicked hfreezes.increasing hfreezes.bounded).mem_iff.mp
          (List.mem_append_left _ hr))
    have hids : frozenIds (.ok (frozenRecords gen threadId (s.view threadId)
        (selectPendingForFreezeForRun (s.pending threadId) boundary currentRunId))) =
        pendingIds (picked (s.view threadId).pending
          (selectPendingForFreezeForRun (s.pending threadId) boundary currentRunId)) :=
      ids_frozenRecords hcarries
    rw [hids]
    exact h.freeze hfreezes

lemma Ledgered.appendPending (h : Ledgered (s.view threadId) ledger) (draw : Draw)
    (messages : List (Message J C)) (mode : DeliveryMode) :
    Ledgered ((s.appendPendingMessageRecords draw.gen draw.now threadId messages mode).2.view
      threadId) (ledger ++ (acceptedIds draw s threadId messages mode).map .accepted) := by
  unfold acceptedIds
  rcases hreply : s.appendPendingMessageRecords draw.gen draw.now threadId messages mode with
    ⟨result, s'⟩
  cases result with
  | error e =>
    rw [appendPending_error hreply, view_touchPending]
    dsimp only
    rw [List.map_nil, List.append_nil]
    exact h
  | ok records => exact h.accept (appendPending_ok hreply).2.1

lemma appendPending_elsewhere (s : InMemoryStore J C) (draw : Draw) (threadId : String)
    (messages : List (Message J C)) (mode : DeliveryMode) :
    Elsewhere threadId s
      (s.appendPendingMessageRecords draw.gen draw.now threadId messages mode).2 := by
  rcases hreply : s.appendPendingMessageRecords draw.gen draw.now threadId messages mode with
    ⟨result, s'⟩
  cases result with
  | error e =>
    rw [appendPending_error hreply]
    exact elsewhere_of_view (view_touchPending s threadId)
  | ok records => exact (appendPending_ok hreply).2.2

lemma Ledgered.retractPending (h : Ledgered (s.view threadId) ledger) (pendingId : String)
    (expected : Option Nat) :
    Ledgered ((s.retractPendingMessageRecordChecked threadId pendingId expected).2.view threadId)
      (ledger ++ (retractedIds (s.retractPendingMessageRecordChecked threadId pendingId
        expected).1).map .retracted) := by
  rcases hreply : s.retractPendingMessageRecordChecked threadId pendingId expected with
    ⟨result, s'⟩
  cases result with
  | error e =>
    rw [retractPending_error hreply, retractedIds, List.map_nil, List.append_nil]
    exact h
  | ok record =>
    obtain ⟨⟨i, hi, rfl, hview⟩, -⟩ := retractPending_ok hreply
    rw [hview]
    exact h.retract hi

lemma retractPending_elsewhere (s : InMemoryStore J C) (threadId pendingId : String)
    (expected : Option Nat) :
    Elsewhere threadId s (s.retractPendingMessageRecordChecked threadId pendingId expected).2 := by
  rcases hreply : s.retractPendingMessageRecordChecked threadId pendingId expected with
    ⟨result, s'⟩
  cases result with
  | error e =>
    rw [retractPending_error hreply]
    exact fun _ _ => rfl
  | ok record => exact (retractPending_ok hreply).2

lemma Ledgered.commitsOnly (h : Ledgered (s.view threadId) ledger) {s' : InMemoryStore J C}
    {messages : List (Message J C)} (hc : CommitsOnly threadId messages s s')
    (hfresh : ∀ id ∈ messageIds messages, .accepted id ∉ ledger) :
    Ledgered (s'.view threadId) ledger := by
  rcases hc.1 with hview | ⟨hdelta, hview⟩
  · rw [hview]
    exact h
  · rw [hview]
    exact h.commit hdelta hfresh

section WithRun

variable [DecidableEq J]

lemma freezePendingWithRun_freezes (s : InMemoryStore J C) (gen : Nat → String) (now : Nat)
    (threadId : String) (boundary : DeliveryBoundary) (expected : Option Nat) (ids : List String)
    (run : RunRecord J) :
    FreezesOnly gen threadId boundary (some run.runId) s
      (s.freezePendingMessageRecordsWithRun gen now threadId boundary expected ids run) := by
  unfold freezePendingMessageRecordsWithRun
  split
  · exact ⟨rfl, fun _ _ => rfl⟩
  · have h := freezeExpected_freezes (s.touchPending threadId) gen now threadId boundary ids run
    refine ⟨?_, (elsewhere_of_view (view_touchPending s threadId)).trans h.2⟩
    have h₁ := h.1
    rwa [view_touchPending, pending_touchPending] at h₁

lemma Ledgered.appendAndFreeze (h : Ledgered (s.view threadId) ledger) (draw : Draw)
    (messages : List (Message J C)) (mode : DeliveryMode) (boundary : DeliveryBoundary)
    (expected : Option Nat) (ids : List String) (run : RunRecord J) :
    Ledgered ((s.exec draw (.appendAndFreezePendingWithRun threadId messages mode boundary expected
        ids run)).2.view threadId)
      (ledger ++ callEvents draw s (.appendAndFreezePendingWithRun threadId messages mode boundary
        expected ids run)) := by
  rw [exec, callEvents]
  unfold appendAndFreezePendingMessageRecordsWithRun Reply.tag
  cases hcheck : s.checkFreeze threadId expected run with
  | error e =>
    rw [List.append_nil]
    exact h
  | ok u =>
    have happend := h.appendPending draw messages mode
    unfold acceptedIds at happend ⊢
    rcases hreply : s.appendPendingMessageRecords draw.gen draw.now threadId messages mode with
      ⟨result, s₁⟩
    rw [hreply] at happend
    cases result with
    | error e =>
      exact happend
    | ok records =>
      dsimp only at happend ⊢
      rw [← List.append_assoc]
      exact happend.freezesOnly
        (freezeExpected_freezes s₁ draw.gen draw.now threadId boundary ids run)

lemma appendAndFreeze_elsewhere (s : InMemoryStore J C) (draw : Draw) (threadId : String)
    (messages : List (Message J C)) (mode : DeliveryMode) (boundary : DeliveryBoundary)
    (expected : Option Nat) (ids : List String) (run : RunRecord J) :
    Elsewhere threadId s (s.appendAndFreezePendingMessageRecordsWithRun draw.gen draw.now threadId
      messages mode boundary expected ids run).2 := by
  unfold appendAndFreezePendingMessageRecordsWithRun
  split
  · exact fun _ _ => rfl
  · have happend := appendPending_elsewhere s draw threadId messages mode
    split
    · rename_i heq
      rwa [heq] at happend
    · rename_i s₁ heq
      rw [heq] at happend
      exact happend.trans
        (freezeExpected_freezes s₁ draw.gen draw.now threadId boundary ids run).2

lemma exec_elsewhere (draw : Draw) (s : InMemoryStore J C) (call : StoreCall J C) {t : String}
    (ht : call.threadId ≠ some t) :
    (s.exec draw call).2.view t = s.view t := by
  have hne : ∀ {threadId : String}, call.threadId = some threadId → t ≠ threadId := by
    rintro threadId hcall rfl
    exact ht hcall
  cases call with
  | saveThread thread =>
    refine view_congr (messages_saveThread s thread) ?_ t
    unfold saveThread
    dsimp only
    split <;> rfl
  | saveThreadValidated thread =>
    refine view_congr (messages_saveThreadValidated s thread) ?_ t
    unfold saveThreadValidated
    dsimp only
    split
    · rfl
    · split <;> rfl
  | deleteThread threadId =>
    have h : t ≠ threadId := hne rfl
    simp only [exec, view, pending, committed, deleteThread, Table.get_remove, if_neg h]
  | saveThreadState threadId state => rfl
  | updateThreadMetadata id metadata =>
    refine view_congr (messages_updateThreadMetadata s id metadata) ?_ t
    unfold updateThreadMetadata
    split <;> rfl
  | saveMessages threadId messages =>
    rw [exec]
    unfold saveMessages Reply.tag
    split
    · rfl
    · exact elsewhere_putMessages _ _ _ t (hne rfl)
  | appendMessageRecords threadId messages =>
    exact (appendMessageRecords_commits s draw.gen threadId messages).2 t (hne rfl)
  | deleteMessages threadId =>
    have h : t ≠ threadId := hne rfl
    rw [exec]
    unfold deleteMessages Reply.tag
    split
    · rfl
    · simp only [view, pending, committed, Table.get_remove, if_neg h]
  | createRun record =>
    refine view_congr (messages_createRun s record) ?_ t
    unfold createRun
    split
    · rfl
    · split <;> rfl
  | checkpoint threadId messages run =>
    rw [exec]
    unfold checkpoint Reply.tag
    split
    · rfl
    · exact elsewhere_putMessages s threadId messages t (hne rfl)
  | checkpointAppend threadId messages expectedVersion run =>
    exact (checkpointAppend_commits s draw.now threadId messages expectedVersion run).2 t (hne rfl)
  | appendPending threadId messages mode =>
    exact appendPending_elsewhere s draw threadId messages mode t (hne rfl)
  | updatePending threadId pendingId expectedRevision message =>
    exact updatePending_elsewhere s draw.now threadId pendingId expectedRevision message t (hne rfl)
  | retractPending threadId pendingId expectedRevision =>
    exact retractPending_elsewhere s threadId pendingId expectedRevision t (hne rfl)
  | reorderPending threadId expectedQueueRevision ids =>
    exact reorderPending_elsewhere s draw.now threadId expectedQueueRevision ids t (hne rfl)
  | freezePending threadId boundary expected =>
    exact freezePending_elsewhere s draw.gen threadId boundary expected t (hne rfl)
  | freezePendingWithRun threadId boundary expected ids run =>
    exact (freezePendingWithRun_freezes s draw.gen draw.now threadId boundary expected ids run).2 t
      (hne rfl)
  | appendAndFreezePendingWithRun threadId messages mode boundary expected ids run =>
    exact appendAndFreeze_elsewhere s draw threadId messages mode boundary expected ids run t
      (hne rfl)

end WithRun

section Run

variable [DecidableEq J]

lemma Ledgered.step {d d' : Tracked J C} {call : StoreCall J C}
    (h : Ledgered (d.store.view threadId) d.ledger) (hstep : DeliveryStep threadId d call d') :
    Ledgered (d'.store.view threadId) d'.ledger := by
  obtain ⟨hdelivers, draw, rfl⟩ := hstep
  dsimp only
  by_cases hcall : call.threadId = some threadId
  · rw [pendingEvents, if_pos hcall]
    have hallowed := hdelivers hcall
    cases call with
    | saveThread thread => cases hcall
    | saveThreadValidated thread => cases hcall
    | deleteThread id => exact hallowed.elim
    | saveThreadState id state => cases hcall
    | updateThreadMetadata id metadata => cases hcall
    | saveMessages id messages => exact hallowed.elim
    | appendMessageRecords id messages =>
      cases hcall
      refine (List.append_nil d.ledger).symm ▸ ?_
      exact h.commitsOnly (appendMessageRecords_commits d.store draw.gen threadId messages) hallowed
    | deleteMessages id => exact hallowed.elim
    | createRun record => cases hcall
    | checkpoint id messages run => exact hallowed.elim
    | checkpointAppend id messages expectedVersion run =>
      cases hcall
      refine (List.append_nil d.ledger).symm ▸ ?_
      exact h.commitsOnly
        (checkpointAppend_commits d.store draw.now threadId messages expectedVersion run) hallowed
    | appendPending id messages mode =>
      cases hcall
      exact h.appendPending draw messages mode
    | updatePending id pendingId expectedRevision message =>
      cases hcall
      obtain ⟨queue, hq, hids, hview⟩ :=
        updatePending_change h.queue draw.now pendingId expectedRevision message rfl
      refine (List.append_nil d.ledger).symm ▸ ?_
      exact hview ▸ h.edit hq (fun id => by rw [hids]; rfl)
    | retractPending id pendingId expectedRevision =>
      cases hcall
      exact h.retractPending pendingId expectedRevision
    | reorderPending id expectedQueueRevision ids =>
      cases hcall
      obtain ⟨queue, hq, hids, hview⟩ :=
        reorderPending_change h.queue draw.now expectedQueueRevision ids rfl
      refine (List.append_nil d.ledger).symm ▸ ?_
      exact hview ▸ h.edit hq hids
    | freezePending id boundary expected =>
      cases hcall
      exact h.freezesOnly (freezePending_freezes h.queue draw.gen boundary expected)
    | freezePendingWithRun id boundary expected ids run =>
      cases hcall
      exact h.freezesOnly
        (freezePendingWithRun_freezes d.store draw.gen draw.now threadId boundary expected ids run)
    | appendAndFreezePendingWithRun id messages mode boundary expected ids run =>
      cases hcall
      exact h.appendAndFreeze draw messages mode boundary expected ids run
  · rw [pendingEvents, if_neg hcall, List.append_nil, exec_elsewhere draw d.store call hcall]
    exact h

omit [DecidableEq J] in
lemma ledgered_new : Ledgered ((InMemoryStore.new : InMemoryStore J C).view threadId) [] := by
  refine ⟨⟨?_, List.nodup_nil, rfl⟩, rfl, ?_, ?_, ?_⟩
  · intro record hmem
    cases hmem
  · intro id hid
    cases hid
  · intro id hid
    cases hid
  · intro event hmem
    cases hmem

end Run

end Steps

section Freeze

def selection (draw : Draw) (s : InMemoryStore J C) : StoreCall J C →
    Option (List (PendingMessageRecord J C) × DeliveryBoundary × Option String)
  | .freezePending threadId boundary _ => some (s.pending threadId, boundary, none)
  | .freezePendingWithRun threadId boundary _ _ run =>
    some (s.pending threadId, boundary, some run.runId)
  | .appendAndFreezePendingWithRun threadId messages mode boundary _ _ run =>
    some (s.pending threadId ++ newPendingRecords draw.gen (draw.now / 1000) threadId
      ((s.pending threadId).length + 1) mode messages, boundary, some run.runId)
  | _ => none

/-- A freeze that succeeds appends the selected messages in queue order and leaves the others in
the queue. -/
def FreezesSelected [DecidableEq J] (s : InMemoryStore J C) (threadId : String) : Prop :=
  ∀ draw call queue boundary runId value s', call.threadId = some threadId →
    selection draw s call = some (queue, boundary, runId) → s.exec draw call = (.ok value, s') →
    let indexes := selectPendingForFreezeForRun queue boundary runId
    let selected := (picked queue indexes).map (·.message)
    indexes.Pairwise (· < ·) ∧ (∀ i ∈ indexes, i < queue.length) ∧
      value = .records (recordsFrom draw.gen threadId ((s.committed threadId).length + 1) selected) ∧
      s'.view threadId =
        ⟨normalizePendingPositions (unpicked queue indexes), s.committed threadId ++ selected⟩

variable {s s' : InMemoryStore J C} {threadId : String}

lemma selected_of_freezes {queue : List (PendingMessageRecord J C)} {indexes : List Nat}
    {v : ThreadView J C} (hv : v.pending = queue) (hf : Freezes v indexes (s'.view threadId)) :
    indexes.Pairwise (· < ·) ∧ (∀ i ∈ indexes, i < queue.length) ∧
      s'.view threadId = ⟨normalizePendingPositions (unpicked queue indexes),
        v.committed ++ (picked queue indexes).map (·.message)⟩ := by
  subst hv
  exact ⟨hf.increasing, hf.bounded, ThreadView.ext hf.pending hf.committed⟩

lemma tag_ok {α : Type} {tag : α → StoreValue J C} {reply : Reply J C α} {value : StoreValue J C}
    (h : reply.tag tag = (.ok value, s')) : ∃ a, reply = (.ok a, s') ∧ value = tag a := by
  obtain ⟨result, u⟩ := reply
  obtain ⟨hresult, rfl⟩ := Prod.mk.inj h
  cases result with
  | error e => cases hresult
  | ok a => exact ⟨a, rfl, (Except.ok.inj hresult).symm⟩

lemma FreezesOnly.of_ok {gen : Nat → String} {boundary : DeliveryBoundary} {runId : Option String}
    {records : List (MessageRecord J C)}
    (h : FreezesOnly gen threadId boundary runId s (.ok records, s')) :
    records = frozenRecords gen threadId (s.view threadId)
        (selectPendingForFreezeForRun (s.pending threadId) boundary runId) ∧
      Freezes (s.view threadId)
        (selectPendingForFreezeForRun (s.pending threadId) boundary runId) (s'.view threadId) :=
  h.1

variable [DecidableEq J]

lemma appendAndFreeze_ok {draw : Draw} {messages : List (Message J C)} {mode : DeliveryMode}
    {boundary : DeliveryBoundary} {expected : Option Nat} {ids : List String} {run : RunRecord J}
    {records : List (MessageRecord J C)}
    (h : s.appendAndFreezePendingMessageRecordsWithRun draw.gen draw.now threadId messages mode
      boundary expected ids run = (.ok records, s')) :
    ∃ s₁ added, s.appendPendingMessageRecords draw.gen draw.now threadId messages mode =
        (.ok added, s₁) ∧
      FreezesOnly draw.gen threadId boundary (some run.runId) s₁ (.ok records, s') := by
  unfold appendAndFreezePendingMessageRecordsWithRun at h
  split at h
  · cases (Prod.mk.inj h).1
  · split at h
    · cases (Prod.mk.inj h).1
    · rename_i added s₁ heq
      refine ⟨s₁, added, heq, ?_⟩
      rw [← h]
      exact freezeExpected_freezes s₁ draw.gen draw.now threadId boundary ids run

theorem freezesSelected (hq : WellQueued (s.pending threadId)) : FreezesSelected s threadId := by
  intro draw call queue boundary runId value s' hcall hselection hexec
  cases call with
  | freezePending id boundary' expected =>
    cases hcall
    cases hselection
    obtain ⟨records, hreply, rfl⟩ := tag_ok hexec
    have hf := freezePending_freezes hq draw.gen boundary expected
    rw [hreply] at hf
    obtain ⟨rfl, hfreezes⟩ := hf.of_ok
    obtain ⟨hs, hb, hview⟩ := selected_of_freezes rfl hfreezes
    exact ⟨hs, hb, rfl, hview⟩
  | freezePendingWithRun id boundary' expected ids run =>
    cases hcall
    cases hselection
    obtain ⟨records, hreply, rfl⟩ := tag_ok hexec
    have hf := freezePendingWithRun_freezes s draw.gen draw.now threadId boundary expected ids run
    rw [hreply] at hf
    obtain ⟨rfl, hfreezes⟩ := hf.of_ok
    obtain ⟨hs, hb, hview⟩ := selected_of_freezes rfl hfreezes
    exact ⟨hs, hb, rfl, hview⟩
  | appendAndFreezePendingWithRun id messages mode boundary' expected ids run =>
    cases hcall
    cases hselection
    obtain ⟨records, hreply, rfl⟩ := tag_ok hexec
    obtain ⟨s₁, added, happend, hf⟩ := appendAndFreeze_ok hreply
    obtain ⟨rfl, haccepts, -⟩ := appendPending_ok happend
    obtain ⟨rfl, hfreezes⟩ := hf.of_ok
    have hpending := haccepts.pending
    have hcommitted : s₁.committed threadId = s.committed threadId := haccepts.committed
    have hqueue : s₁.pending threadId = s.pending threadId ++ newPendingRecords draw.gen
      (draw.now / 1000) threadId ((s.pending threadId).length + 1) mode messages := hpending
    rw [hqueue] at hfreezes
    obtain ⟨hs, hb, hview⟩ := selected_of_freezes hqueue hfreezes
    refine ⟨hs, hb, ?_, ?_⟩
    · simp only [frozenRecords, view, hqueue, hcommitted]
    · rw [hview]
      simp only [view, hcommitted]
  | _ => cases hselection

end Freeze

def ExactlyOne (a b c : Prop) : Prop := (a ∧ ¬b ∧ ¬c) ∨ (¬a ∧ b ∧ ¬c) ∨ (¬a ∧ ¬b ∧ c)

lemma Ledgered.exactlyOne {v : ThreadView J C} {ledger : List PendingEvent}
    (h : Ledgered v ledger) {id : String} (hid : .accepted id ∈ ledger) :
    ExactlyOne (id ∈ pendingIds v.pending) ((messageIds v.committed).count id = 1)
      (lastEvent ledger id = some (.retracted id) ∧ id ∉ messageIds v.committed) := by
  have hnodup := (validateCommittedMessages_ids h.log).2
  have hcount : (messageIds v.committed).count id = 1 ↔ id ∈ messageIds v.committed := by
    constructor
    · intro hc
      exact List.count_pos_iff.mp (by omega)
    · exact List.count_eq_one_of_mem hnodup
  rw [hcount]
  have hplace := h.place id
  cases hlast : lastEvent ledger id with
  | none =>
    have hnone := List.find?_eq_none.mp hlast (.accepted id) (List.mem_reverse.mpr hid)
    simp [PendingEvent.id] at hnone
  | some event =>
    obtain ⟨-, heq⟩ := mem_of_lastEvent hlast
    rw [hlast] at hplace
    cases event with
    | accepted x =>
      exact Or.inl ⟨hplace, h.apart id hplace, fun hr => by cases hr.1⟩
    | frozen x =>
      exact Or.inr (Or.inl ⟨fun hq => h.apart id hq hplace, hplace, fun hr => by cases hr.1⟩)
    | retracted x =>
      have hx : x = id := heq
      rw [hx]
      exact Or.inr (Or.inr ⟨hplace.1, hplace.2, rfl, hplace.2⟩)

/-- Over every run of calls on a new store that overwrites no log of the thread, each accepted id
is in exactly one place, the ids and the positions of the queue are right, no id is committed
twice, and a freeze appends what it selects. -/
theorem delivered_exactly_once [DecidableEq J] {threadId : String} {d : Tracked J C}
    (h : Reachable (DeliveryStep threadId) ⟨.new, []⟩ d) :
    (∀ id, .accepted id ∈ d.ledger →
      ExactlyOne (id ∈ pendingIds (d.store.pending threadId))
        ((messageIds (d.store.committed threadId)).count id = 1)
        (lastEvent d.ledger id = some (.retracted id) ∧
          id ∉ messageIds (d.store.committed threadId))) ∧
      (pendingIds (d.store.pending threadId)).Nodup ∧ Numbered (d.store.pending threadId) ∧
      (messageIds (d.store.committed threadId)).Nodup ∧ FreezesSelected d.store threadId := by
  have hl : Ledgered (d.store.view threadId) d.ledger :=
    h.invariant (I := fun d => Ledgered (d.store.view threadId) d.ledger) ledgered_new
      (fun _ _ _ hstep hd => hd.step hstep)
  exact ⟨fun id hid => hl.exactlyOne hid, hl.queue.nodup, hl.queue.numbered,
    (validateCommittedMessages_ids hl.log).2, freezesSelected hl.queue⟩

def note (id : String) : Message Unit Unit := ⟨some id, .user, [], none, none, .all, none⟩

def batchMode (boundary : DeliveryBoundary) : DeliveryMode := ⟨boundary, .batch, false, none, false⟩

def deliveryCalls : List (StoreCall Unit Unit) :=
  [.appendPending "t1" [note "m1", note "m2"] (batchMode .nextStep),
    .retractPending "t1" "m2" none, .appendPending "t1" [note "m3"] (batchMode .newRun),
    .freezePending "t1" .nextStep none]

def deliver (d : Tracked Unit Unit) (call : StoreCall Unit Unit) : Tracked Unit Unit :=
  let draw : Draw := ⟨0, fun _ => "m"⟩
  ⟨(d.store.exec draw call).2, d.ledger ++ pendingEvents draw d.store "t1" call⟩

lemma reachable_delivered :
    Reachable (DeliveryStep "t1") ⟨.new, []⟩ (deliveryCalls.foldl deliver ⟨.new, []⟩) :=
  ⟨_, .cons ⟨fun _ => trivial, _, rfl⟩ (.cons ⟨fun _ => trivial, _, rfl⟩
    (.cons ⟨fun _ => trivial, _, rfl⟩ (.cons ⟨fun _ => trivial, _, rfl⟩ (.nil _))))⟩

theorem delivered_exactly_once_frozen :
    let d := deliveryCalls.foldl deliver ⟨.new, []⟩
    (∀ id ∈ ["m1", "m2", "m3"],
      ExactlyOne (id ∈ pendingIds (d.store.pending "t1"))
        ((messageIds (d.store.committed "t1")).count id = 1)
        (lastEvent d.ledger id = some (.retracted id) ∧
          id ∉ messageIds (d.store.committed "t1"))) ∧
    messageIds (d.store.committed "t1") = ["m1"] ∧ pendingIds (d.store.pending "t1") = ["m3"] ∧
    d.ledger = [.accepted "m1", .accepted "m2", .retracted "m2", .accepted "m3", .frozen "m1"] ∧
    Numbered (d.store.pending "t1") := by
  have h := delivered_exactly_once reachable_delivered
  have haccepted : ∀ id ∈ ["m1", "m2", "m3"],
      .accepted id ∈ (deliveryCalls.foldl deliver ⟨.new, []⟩).ledger := by decide
  exact ⟨fun id hid => h.1 id (haccepted id hid), by decide, by decide, by decide, h.2.2.1⟩

end Awaken.Stores.MemoryStore
