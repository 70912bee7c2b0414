import Awaken.Lib.Filtered
import Awaken.Stores.MemoryStore.Calls

namespace Awaken.Stores.MemoryStore

open Awaken.Lib Awaken.Contract Awaken.Contract.Storage Awaken.Contract.MessageAppend
open InMemoryStore

variable {J C : Type}

section Queues

variable {pending records : List (PendingMessageRecord J C)}

/-- The positions count from one in queue order. -/
def Numbered (pending : List (PendingMessageRecord J C)) : Prop :=
  pending.map (·.position) = List.range' 1 pending.length

def CarriesIds (pending : List (PendingMessageRecord J C)) : Prop :=
  ∀ record ∈ pending, record.message.id = some record.pendingId

lemma map_mapIdx_of_eq {α β γ : Type} {g : Nat → α → β} {f : β → γ} {h : α → γ}
    (hf : ∀ i a, f (g i a) = h a) (l : List α) : (l.mapIdx g).map f = l.map h := by
  refine List.ext_getElem (by simp) (fun i h₁ h₂ => ?_)
  rw [List.getElem_map, List.getElem_map, List.getElem_mapIdx, hf]

@[simp] lemma pendingIds_normalize (pending : List (PendingMessageRecord J C)) :
    pendingIds (normalizePendingPositions pending) = pendingIds pending := by
  unfold pendingIds normalizePendingPositions renumberFrom
  exact map_mapIdx_of_eq (by intro i record; rfl) pending

lemma numbered_normalize (pending : List (PendingMessageRecord J C)) :
    Numbered (normalizePendingPositions pending) := by
  unfold Numbered normalizePendingPositions renumberFrom
  refine List.ext_getElem (by simp) (fun i h₁ h₂ => ?_)
  simp
  omega

lemma carriesIds_iff : CarriesIds pending ↔
    pending.map (·.message.id) = (pendingIds pending).map some := by
  simp [CarriesIds, pendingIds, List.map_inj_left]

lemma CarriesIds.normalize (h : CarriesIds pending) :
    CarriesIds (normalizePendingPositions pending) := by
  rw [carriesIds_iff] at h ⊢
  rw [pendingIds_normalize, ← h]
  unfold normalizePendingPositions renumberFrom
  exact map_mapIdx_of_eq (by intro i record; rfl) pending

lemma Numbered.normalize (h : Numbered pending) : normalizePendingPositions pending = pending := by
  unfold normalizePendingPositions renumberFrom
  refine List.ext_getElem (by simp) (fun i h₁ h₂ => ?_)
  have hget := congrArg (fun l => l[i]?) h
  simp only [List.getElem?_map, List.getElem?_eq_getElem h₂, Option.map_some,
    List.getElem?_range' h₂] at hget
  have hpos : 0 + i + 1 = pending[i].position := by
    have := Option.some.inj hget
    omega
  rw [List.getElem_mapIdx, hpos]

lemma messageIds_of_carriesIds (h : CarriesIds pending) :
    messageIds (pending.map (·.message)) = pendingIds pending := by
  induction pending with
  | nil => rfl
  | cons record pending ih =>
    have hid := h record List.mem_cons_self
    have htail := ih (fun r hr => h r (List.mem_cons_of_mem _ hr))
    rw [List.map_cons, messageIds_cons (by rw [hid]; rfl), htail, hid]
    rfl

lemma CarriesIds.append (h : CarriesIds pending) (h' : CarriesIds records) :
    CarriesIds (pending ++ records) := by
  intro record hmem
  rcases List.mem_append.mp hmem with hmem | hmem
  · exact h record hmem
  · exact h' record hmem

lemma CarriesIds.subset (h : CarriesIds pending) (hs : ∀ r ∈ records, r ∈ pending) :
    CarriesIds records := fun record hmem => h record (hs record hmem)

lemma Numbered.append (h : Numbered pending)
    (h' : records.map (·.position) = List.range' (pending.length + 1) records.length) :
    Numbered (pending ++ records) := by
  rw [Numbered, List.map_append, List.length_append, h, h', Nat.add_comm pending.length 1,
    List.range'_append_1]

lemma positions_newPendingRecords (gen : Nat → String) (now : Nat) (threadId : String)
    (start : Nat) (mode : DeliveryMode) (messages : List (Message J C)) :
    (newPendingRecords gen now threadId start mode messages).map (·.position) =
      List.range' start (newPendingRecords gen now threadId start mode messages).length := by
  unfold newPendingRecords
  refine List.ext_getElem (by simp) (fun i h₁ h₂ => ?_)
  simp [PendingMessageRecord.fromMessage]

lemma checkNewPending_ok {s : InMemoryStore J C} {threadId : String} {seen : List String}
    (h : s.checkNewPending threadId seen records = .ok ()) :
    CarriesIds records ∧ (pendingIds records).Nodup ∧
      ∀ id ∈ pendingIds records, id ∉ seen ∧ id ∉ messageIds (s.committed threadId) := by
  induction records generalizing seen with
  | nil => exact ⟨fun record hr => (List.not_mem_nil hr).elim, List.nodup_nil, by simp [pendingIds]⟩
  | cons record records ih =>
    obtain ⟨_, hvalid, h⟩ := bind_ok h
    split at h
    · cases h
    · rename_i hseen
      split at h
      · cases h
      · rename_i hcommitted
        obtain ⟨hcarries, hnodup, hnew⟩ := ih h
        have hid := validatePendingMessageRecord_ok hvalid
        have hfresh : record.pendingId ∉ messageIds (s.committed threadId) := by
          intro hin
          obtain ⟨message, hmem, hmid⟩ := List.mem_filterMap.mp hin
          refine hcommitted (List.any_eq_true.mpr ⟨message, hmem, ?_⟩)
          exact decide_eq_true hmid
        refine ⟨?_, ?_, ?_⟩
        · intro r hr
          rcases List.mem_cons.mp hr with rfl | hr
          · exact hid
          · exact hcarries r hr
        · refine List.nodup_cons.mpr ⟨fun hin => ?_, hnodup⟩
          exact (hnew _ hin).1 List.mem_cons_self
        · intro id hin
          rcases List.mem_cons.mp hin with rfl | hin
          · exact ⟨hseen, hfresh⟩
          · obtain ⟨h₁, h₂⟩ := hnew id hin
            exact ⟨fun hs => h₁ (List.mem_cons_of_mem _ hs), h₂⟩

lemma lastById_of_nodup (h : (pendingIds pending).Nodup) : lastById pending = pending := by
  induction pending with
  | nil => rfl
  | cons record pending ih =>
    obtain ⟨hnot, hnodup⟩ := List.nodup_cons.mp h
    have hnot' : record.pendingId ∉ pendingIds pending := hnot
    rw [lastById, if_neg hnot', ih hnodup]

lemma takeInOrder_ok {byId : List (PendingMessageRecord J C)} {ids : List String}
    (h : takeInOrder byId ids = .ok records) :
    pendingIds records = ids ∧ ids.Nodup ∧ ∀ r ∈ records, r ∈ byId := by
  induction ids generalizing byId records with
  | nil =>
    obtain rfl := Except.ok.inj h
    exact ⟨rfl, List.nodup_nil, by simp⟩
  | cons pendingId ids ih =>
    rw [takeInOrder] at h
    split at h
    · cases h
    · rename_i record hfind
      obtain ⟨rest, hrest, hret⟩ := bind_ok h
      obtain rfl := Except.ok.inj hret
      obtain ⟨hids, hnodup, hmem⟩ := ih hrest
      have hid : record.pendingId = pendingId := by
        simpa using List.find?_some hfind
      refine ⟨?_, ?_, ?_⟩
      · rw [pendingIds, List.map_cons, hid, ← hids]
        rfl
      · refine List.nodup_cons.mpr ⟨fun hin => ?_, hnodup⟩
        rw [← hids] at hin
        obtain ⟨r, hr, heq⟩ := List.mem_map.mp hin
        have := List.of_mem_filter (hmem r hr)
        simp [heq] at this
      · intro r hr
        rcases List.mem_cons.mp hr with rfl | hr
        · exact List.mem_of_find?_eq_some hfind
        · exact List.mem_of_mem_filter (hmem r hr)

lemma reorderedQueue_ok {threadId : String} {ids : List String} (hn : (pendingIds pending).Nodup)
    (h : reorderedQueue threadId pending ids = .ok records) :
    (pendingIds records).Nodup ∧ (∀ r ∈ records, r ∈ pending) ∧
      ∀ id ∈ pendingIds pending, id ∈ pendingIds records := by
  unfold reorderedQueue at h
  split at h
  · cases h
  · obtain ⟨reordered, htake, h⟩ := bind_ok h
    rw [lastById_of_nodup hn] at htake h
    split at h
    · cases h
    · rename_i hall
      obtain rfl := Except.ok.inj h
      obtain ⟨hids, hnodup, hmem⟩ := takeInOrder_ok htake
      refine ⟨hids ▸ hnodup, hmem, fun id hid => ?_⟩
      obtain ⟨record, hrecord, rfl⟩ := List.mem_map.mp hid
      rw [hids]
      by_contra hnot
      exact hall (List.any_eq_true.mpr ⟨record, hrecord, decide_eq_true hnot⟩)

end Queues

@[ext]
structure ThreadView (J C : Type) where
  pending : List (PendingMessageRecord J C)
  committed : List (Message J C)

namespace InMemoryStore

def view (self : InMemoryStore J C) (threadId : String) : ThreadView J C :=
  ⟨self.pending threadId, self.committed threadId⟩

def Elsewhere (threadId : String) (s s' : InMemoryStore J C) : Prop :=
  ∀ t, t ≠ threadId → s'.view t = s.view t

section View

variable {s s' u : InMemoryStore J C} {threadId t : String}

lemma Elsewhere.trans (h : Elsewhere threadId s s') (h' : Elsewhere threadId s' u) :
    Elsewhere threadId s u := fun t ht => (h' t ht).trans (h t ht)

lemma elsewhere_of_view (h : ∀ t, s'.view t = s.view t) : Elsewhere threadId s s' :=
  fun t _ => h t

lemma view_congr (hm : s'.messages = s.messages) (hp : s'.pendingMessages = s.pendingMessages)
    (t : String) : s'.view t = s.view t := by
  simp only [view, pending, committed, hm, hp]

@[simp] lemma view_putMessages_self (log : List (Message J C)) :
    (s.putMessages threadId log).view threadId = ⟨s.pending threadId, log⟩ := by
  rw [view, committed_putMessages]
  rfl

@[simp] lemma view_putPending_self (queue : List (PendingMessageRecord J C)) :
    (s.putPending threadId queue).view threadId = ⟨queue, s.committed threadId⟩ := by
  have h : (s.putPending threadId queue).pending threadId = queue := by
    rw [pending, putPending, Table.get_insert, if_pos rfl, Option.getD_some]
  rw [view, h]
  rfl

lemma elsewhere_putMessages (s : InMemoryStore J C) (threadId : String)
    (log : List (Message J C)) : Elsewhere threadId s (s.putMessages threadId log) := by
  intro t ht
  have h : (s.putMessages threadId log).committed t = s.committed t := by
    rw [committed_eq, get_putMessages, if_neg ht, committed_eq]
  rw [view, h]
  rfl

lemma elsewhere_putPending (s : InMemoryStore J C) (threadId : String)
    (queue : List (PendingMessageRecord J C)) :
    Elsewhere threadId s (s.putPending threadId queue) := by
  intro t ht
  have h : (s.putPending threadId queue).pending t = s.pending t := by
    rw [pending, putPending, Table.get_insert, if_neg ht, pending]
  rw [view, h]
  rfl

@[simp] lemma view_touchMessages (s : InMemoryStore J C) (threadId t : String) :
    (s.touchMessages threadId).view t = s.view t := by
  by_cases ht : t = threadId
  · rw [ht, view, committed_touchMessages, view, pending, pendingMessages_touchMessages, pending]
  · unfold touchMessages
    split
    · rfl
    · exact elsewhere_putMessages s threadId [] t ht

@[simp] lemma view_touchPending (s : InMemoryStore J C) (threadId t : String) :
    (s.touchPending threadId).view t = s.view t := by
  unfold touchPending
  split
  · rfl
  · rename_i h
    by_cases ht : t = threadId
    · rw [ht, view_putPending_self, view, pending, Option.not_isSome_iff_eq_none.mp h,
        Option.getD_none]
    · exact elsewhere_putPending s threadId [] t ht

@[simp] lemma pending_touchMessages (s : InMemoryStore J C) (threadId t : String) :
    (s.touchMessages threadId).pending t = s.pending t :=
  congrArg ThreadView.pending (view_touchMessages s threadId t)

@[simp] lemma pending_touchPending (s : InMemoryStore J C) (threadId t : String) :
    (s.touchPending threadId).pending t = s.pending t :=
  congrArg ThreadView.pending (view_touchPending s threadId t)

@[simp] lemma committed_touchPending (s : InMemoryStore J C) (threadId t : String) :
    (s.touchPending threadId).committed t = s.committed t :=
  congrArg ThreadView.committed (view_touchPending s threadId t)

end View

end InMemoryStore

structure Accepts (v : ThreadView J C) (records : List (PendingMessageRecord J C))
    (v' : ThreadView J C) : Prop where
  carries : CarriesIds records
  nodup : (pendingIds records).Nodup
  fresh : ∀ id ∈ pendingIds records, id ∉ pendingIds v.pending ∧ id ∉ messageIds v.committed
  positions : records.map (·.position) = List.range' (v.pending.length + 1) records.length
  pending : v'.pending = v.pending ++ records
  committed : v'.committed = v.committed

/-- The messages at the indexes move, in queue order, to the end of the log. -/
structure Freezes (v : ThreadView J C) (indexes : List Nat) (v' : ThreadView J C) : Prop where
  increasing : indexes.Pairwise (· < ·)
  bounded : ∀ i ∈ indexes, i < v.pending.length
  accepted : validateAppendOnlyDelta v.committed ((picked v.pending indexes).map (·.message)) =
    .ok ()
  pending : v'.pending = normalizePendingPositions (unpicked v.pending indexes)
  committed : v'.committed = v.committed ++ (picked v.pending indexes).map (·.message)

section Calls

variable {s s' : InMemoryStore J C} {draw : Draw} {threadId : String}

structure WellQueued (queue : List (PendingMessageRecord J C)) : Prop where
  carries : CarriesIds queue
  nodup : (pendingIds queue).Nodup
  numbered : Numbered queue

lemma appendPending_error {gen : Nat → String} {now : Nat} {messages : List (Message J C)}
    {mode : DeliveryMode} {e : StorageError}
    (h : s.appendPendingMessageRecords gen now threadId messages mode = (.error e, s')) :
    s' = s.touchPending threadId := by
  unfold appendPendingMessageRecords at h
  dsimp only at h
  split at h
  · exact (Prod.mk.inj h).2.symm
  · cases (Prod.mk.inj h).1

lemma appendPending_ok {gen : Nat → String} {now : Nat} {messages : List (Message J C)}
    {mode : DeliveryMode} {records : List (PendingMessageRecord J C)}
    (h : s.appendPendingMessageRecords gen now threadId messages mode = (.ok records, s')) :
    records = newPendingRecords gen (now / 1000) threadId ((s.pending threadId).length + 1) mode
        messages ∧
      Accepts (s.view threadId) records (s'.view threadId) ∧ Elsewhere threadId s s' := by
  unfold appendPendingMessageRecords at h
  dsimp only at h
  rw [pending_touchPending] at h
  split at h
  · cases (Prod.mk.inj h).1
  · rename_i hcheck
    obtain ⟨hrecords, rfl⟩ := Prod.mk.inj h
    obtain rfl := Except.ok.inj hrecords
    obtain ⟨hcarries, hnodup, hfresh⟩ := checkNewPending_ok hcheck
    rw [committed_touchPending] at hfresh
    refine ⟨rfl, ⟨hcarries, hnodup, hfresh, positions_newPendingRecords .., ?_, ?_⟩, ?_⟩
    · rw [view_putPending_self]
      rfl
    · rw [view_putPending_self, committed_touchPending]
      rfl
    · exact (elsewhere_of_view (view_touchPending s threadId)).trans (elsewhere_putPending _ _ _)

lemma freezeSelected_error {gen : Nat → String} {indexes : List Nat} {e : StorageError}
    (h : s.freezeSelected gen threadId indexes = (.error e, s')) :
    s' = s.touchMessages threadId := by
  unfold freezeSelected at h
  dsimp only at h
  split at h
  · exact (Prod.mk.inj h).2.symm
  · cases (Prod.mk.inj h).1

def frozenRecords (gen : Nat → String) (threadId : String) (v : ThreadView J C)
    (indexes : List Nat) : List (MessageRecord J C) :=
  recordsFrom gen threadId (v.committed.length + 1) ((picked v.pending indexes).map (·.message))

lemma freezeSelected_ok {gen : Nat → String} {boundary : DeliveryBoundary}
    {currentRunId : Option String} {records : List (MessageRecord J C)}
    (h : s.freezeSelected gen threadId
      (selectPendingForFreezeForRun (s.pending threadId) boundary currentRunId) =
        (.ok records, s')) :
    records = frozenRecords gen threadId (s.view threadId)
        (selectPendingForFreezeForRun (s.pending threadId) boundary currentRunId) ∧
      Freezes (s.view threadId)
        (selectPendingForFreezeForRun (s.pending threadId) boundary currentRunId)
        (s'.view threadId) ∧
      Elsewhere threadId s s' := by
  obtain ⟨hincreasing, hbounded⟩ :=
    selectPendingForFreezeForRun_increasing (s.pending threadId) boundary currentRunId
  unfold freezeSelected at h
  dsimp only at h
  rw [committed_touchMessages, pending_touchMessages] at h
  split at h
  · cases (Prod.mk.inj h).1
  · rename_i haccepted
    obtain ⟨hrecords, rfl⟩ := Prod.mk.inj h
    obtain rfl := Except.ok.inj hrecords
    refine ⟨rfl, ⟨hincreasing, hbounded, haccepted, ?_, ?_⟩, ?_⟩
    · rw [consume, view_putMessages_self, pending_touchMessages]
      exact congrArg ThreadView.pending (view_putPending_self _)
    · rw [consume, view_putMessages_self, pending_touchMessages, committed_touchMessages]
      rfl
    · rw [consume]
      exact (elsewhere_of_view (view_touchMessages s threadId)).trans
        ((elsewhere_putPending _ _ _).trans (elsewhere_putMessages _ _ _))

section Edit

variable {queue : List (PendingMessageRecord J C)} {pendingId : String}

lemma findIdx_of_find? {record : PendingMessageRecord J C}
    (h : queue.find? (fun record => record.pendingId = pendingId) = some record) :
    ∃ hi : queue.findIdx (fun record => record.pendingId = pendingId) < queue.length,
      queue[queue.findIdx (fun record => record.pendingId = pendingId)] = record ∧
        record.pendingId = pendingId := by
  have hid : record.pendingId = pendingId := by simpa using List.find?_some h
  have hi : queue.findIdx (fun record => record.pendingId = pendingId) < queue.length :=
    List.findIdx_lt_length_of_exists ⟨record, List.mem_of_find?_eq_some h, by simpa using hid⟩
  refine ⟨hi, ?_, hid⟩
  rw [List.find?_eq_getElem?_findIdx, List.getElem?_eq_getElem hi] at h
  exact Option.some.inj h

lemma WellQueued.set (hq : WellQueued queue) {i : Nat} (hi : i < queue.length)
    {record : PendingMessageRecord J C} (hid : record.pendingId = queue[i].pendingId)
    (hpos : record.position = queue[i].position) (hmsg : record.message.id = some record.pendingId) :
    WellQueued (queue.set i record) ∧ pendingIds (queue.set i record) = pendingIds queue := by
  have hids : pendingIds (queue.set i record) = pendingIds queue := map_set_of_eq hi hid
  refine ⟨⟨?_, hids ▸ hq.nodup, ?_⟩, hids⟩
  · intro r hr
    rcases List.mem_or_eq_of_mem_set hr with hr | rfl
    · exact hq.carries r hr
    · exact hmsg
  · rw [Numbered, List.length_set, map_set_of_eq (f := fun r => r.position) hi hpos]
    exact hq.numbered

end Edit

lemma updatedRecord_ok {now : Nat} {expectedRevision : Option Nat} {message : Message J C}
    {record updated : PendingMessageRecord J C}
    (h : updatedRecord now expectedRevision message record = .ok updated) :
    updated.pendingId = record.pendingId ∧ updated.position = record.position ∧
      updated.message.id = some record.pendingId := by
  obtain ⟨_, -, h⟩ := bind_ok h
  obtain ⟨carried, -, h⟩ := bind_ok h
  obtain ⟨_, hvalid, h⟩ := bind_ok h
  have hid := validatePendingMessageRecord_ok hvalid
  obtain rfl := Except.ok.inj h
  exact ⟨rfl, rfl, hid⟩

lemma updatePending_change (hq : WellQueued (s.pending threadId)) (now : Nat) (pendingId : String)
    (expectedRevision : Option Nat) (message : Message J C)
    (hs : s' = (s.updatePendingMessageRecordChecked now threadId pendingId expectedRevision
      message).2) :
    ∃ queue, WellQueued queue ∧ pendingIds queue = pendingIds (s.pending threadId) ∧
      s'.view threadId = ⟨queue, s.committed threadId⟩ := by
  unfold updatePendingMessageRecordChecked at hs
  dsimp only at hs
  split at hs
  · rename_i record hfind
    obtain ⟨hi, hget, -⟩ := findIdx_of_find? hfind
    split at hs
    · rw [hs]
      exact ⟨_, hq, rfl, rfl⟩
    · rename_i updated hupdated
      obtain ⟨hid, hpos, hmsg⟩ := updatedRecord_ok hupdated
      rw [← hget] at hid hpos hmsg
      obtain ⟨hset, hids⟩ := hq.set hi hid hpos (hid ▸ hmsg)
      rw [hs]
      exact ⟨_, hset, hids, view_putPending_self _⟩
  · rw [hs]
    exact ⟨_, hq, rfl, rfl⟩

lemma updatePending_elsewhere (s : InMemoryStore J C) (now : Nat) (threadId pendingId : String)
    (expectedRevision : Option Nat) (message : Message J C) :
    Elsewhere threadId s (s.updatePendingMessageRecordChecked now threadId pendingId
      expectedRevision message).2 := by
  unfold updatePendingMessageRecordChecked
  dsimp only
  split
  · split
    · exact fun _ _ => rfl
    · exact elsewhere_putPending _ _ _
  · exact fun _ _ => rfl

lemma retractPending_error {pendingId : String} {expectedRevision : Option Nat} {e : StorageError}
    (h : s.retractPendingMessageRecordChecked threadId pendingId expectedRevision =
      (.error e, s')) : s' = s := by
  unfold retractPendingMessageRecordChecked at h
  dsimp only at h
  split at h
  · split at h
    · exact (Prod.mk.inj h).2.symm
    · cases (Prod.mk.inj h).1
  · exact (Prod.mk.inj h).2.symm

lemma retractPending_ok {pendingId : String} {expectedRevision : Option Nat}
    {record : PendingMessageRecord J C}
    (h : s.retractPendingMessageRecordChecked threadId pendingId expectedRevision =
      (.ok record, s')) :
    (∃ i, ∃ hi : i < (s.view threadId).pending.length, (s.view threadId).pending[i] = record ∧
      s'.view threadId =
        ⟨normalizePendingPositions ((s.pending threadId).eraseIdx i), s.committed threadId⟩) ∧
      Elsewhere threadId s s' := by
  unfold retractPendingMessageRecordChecked at h
  dsimp only at h
  split at h
  · rename_i found hfind
    obtain ⟨hi, hget, -⟩ := findIdx_of_find? hfind
    split at h
    · cases (Prod.mk.inj h).1
    · obtain ⟨hrecord, rfl⟩ := Prod.mk.inj h
      obtain rfl := Except.ok.inj hrecord
      exact ⟨⟨_, hi, hget, view_putPending_self _⟩, elsewhere_putPending _ _ _⟩
  · cases (Prod.mk.inj h).1

lemma reorderPending_change (hq : WellQueued (s.pending threadId)) (now : Nat)
    (expectedQueueRevision : Option Nat) (ids : List String)
    (hs : s' = (s.reorderPendingMessageRecordsChecked now threadId expectedQueueRevision ids).2) :
    ∃ queue, WellQueued queue ∧
      (∀ id, id ∈ pendingIds queue ↔ id ∈ pendingIds (s.pending threadId)) ∧
      s'.view threadId = ⟨queue, s.committed threadId⟩ := by
  have hsame : s' = s → ∃ queue, WellQueued queue ∧
      (∀ id, id ∈ pendingIds queue ↔ id ∈ pendingIds (s.pending threadId)) ∧
      s'.view threadId = ⟨queue, s.committed threadId⟩ := by
    rintro rfl
    exact ⟨_, hq, fun _ => Iff.rfl, rfl⟩
  unfold reorderPendingMessageRecordsChecked at hs
  split at hs
  · exact hsame hs
  · rename_i pending hpending
    have hget : s.pending threadId = pending := by
      rw [InMemoryStore.pending, hpending, Option.getD_some]
    split at hs
    · exact hsame hs
    · split at hs
      · exact hsame hs
      · split at hs
        · exact hsame hs
        · rename_i reordered hreordered
          rw [hget] at hq ⊢
          obtain ⟨hnodup, hsub, hall⟩ := reorderedQueue_ok hq.nodup hreordered
          have hids : pendingIds ((normalizePendingPositions reordered).map (fun record =>
              { record with revision := record.revision + 1, updatedAt := some (now / 1000) })) =
              pendingIds reordered := by
            rw [pendingIds, List.map_map, ← pendingIds_normalize]
            rfl
          rw [hs]
          refine ⟨_, ⟨?_, hids ▸ hnodup, ?_⟩, fun id => ?_, view_putPending_self _⟩
          · intro r hr
            obtain ⟨r', hr', rfl⟩ := List.mem_map.mp hr
            exact (hq.carries.subset hsub).normalize r' hr'
          · rw [Numbered, List.map_map, List.length_map]
            exact numbered_normalize reordered
          · rw [hids]
            refine ⟨fun hid => ?_, hall id⟩
            obtain ⟨r, hr, rfl⟩ := List.mem_map.mp hid
            exact List.mem_map.mpr ⟨r, hsub r hr, rfl⟩

lemma reorderPending_elsewhere (s : InMemoryStore J C) (now : Nat) (threadId : String)
    (expectedQueueRevision : Option Nat) (ids : List String) :
    Elsewhere threadId s (s.reorderPendingMessageRecordsChecked now threadId
      expectedQueueRevision ids).2 := by
  unfold reorderPendingMessageRecordsChecked
  split
  · exact fun _ _ => rfl
  · split
    · exact fun _ _ => rfl
    · split
      · exact fun _ _ => rfl
      · split
        · exact fun _ _ => rfl
        · exact elsewhere_putPending _ _ _

def CommitsOnly (threadId : String) (messages : List (Message J C)) (s s' : InMemoryStore J C) :
    Prop :=
  (s'.view threadId = s.view threadId ∨
    validateAppendOnlyDelta (s.committed threadId) messages = .ok () ∧
      s'.view threadId = ⟨s.pending threadId, s.committed threadId ++ messages⟩) ∧
    Elsewhere threadId s s'

lemma commitsOnly_of_view {messages : List (Message J C)} (h : ∀ t, s'.view t = s.view t) :
    CommitsOnly threadId messages s s' :=
  ⟨Or.inl (h threadId), fun t _ => h t⟩

lemma commitsOnly_put {messages : List (Message J C)}
    (h : validateAppendOnlyDelta (s.committed threadId) messages = .ok ())
    (hs : ∀ t, s'.view t =
      ((s.touchMessages threadId).putMessages threadId (s.committed threadId ++ messages)).view t) :
    CommitsOnly threadId messages s s' := by
  refine ⟨Or.inr ⟨h, ?_⟩, fun t ht => ?_⟩
  · rw [hs, view_putMessages_self, pending_touchMessages]
  · rw [hs, elsewhere_putMessages _ _ _ t ht, view_touchMessages]

lemma appendMessageRecords_commits (s : InMemoryStore J C) (gen : Nat → String)
    (threadId : String) (messages : List (Message J C)) :
    CommitsOnly threadId messages s (s.appendMessageRecords gen threadId messages).2 := by
  unfold appendMessageRecords
  dsimp only
  rw [committed_touchMessages]
  split
  · exact commitsOnly_of_view (view_touchMessages s threadId)
  · rename_i h
    exact commitsOnly_put h (fun _ => rfl)

lemma checkpointAppend_commits [DecidableEq J] (s : InMemoryStore J C) (now : Nat)
    (threadId : String) (messages : List (Message J C)) (expected : Option Nat)
    (run : RunRecord J) :
    CommitsOnly threadId messages s
      (s.checkpointAppend now threadId messages expected run).2 := by
  unfold checkpointAppend
  split
  · exact commitsOnly_of_view (fun _ => rfl)
  · split
    · exact commitsOnly_of_view (fun _ => rfl)
    · dsimp only
      rw [committed_touchMessages]
      split
      · exact commitsOnly_of_view (view_touchMessages s threadId)
      · rename_i h
        obtain ⟨_, hdelta, hmerged⟩ := bind_ok h
        obtain rfl := Except.ok.inj hmerged
        exact commitsOnly_put hdelta (fun _ => rfl)

def FreezesOnly (gen : Nat → String) (threadId : String) (boundary : DeliveryBoundary)
    (currentRunId : Option String) (s : InMemoryStore J C)
    (reply : Reply J C (List (MessageRecord J C))) : Prop :=
  (match reply.1 with
    | .ok records =>
      let indexes := selectPendingForFreezeForRun (s.pending threadId) boundary currentRunId
      records = frozenRecords gen threadId (s.view threadId) indexes ∧
        Freezes (s.view threadId) indexes (reply.2.view threadId)
    | .error _ => reply.2.view threadId = s.view threadId) ∧ Elsewhere threadId s reply.2

lemma freezeSelected_freezes (s : InMemoryStore J C) (gen : Nat → String) (threadId : String)
    (boundary : DeliveryBoundary) (currentRunId : Option String) :
    FreezesOnly gen threadId boundary currentRunId s
      (s.freezeSelected gen threadId
        (selectPendingForFreezeForRun (s.pending threadId) boundary currentRunId)) := by
  rcases h : s.freezeSelected gen threadId
    (selectPendingForFreezeForRun (s.pending threadId) boundary currentRunId) with ⟨result, s'⟩
  cases result with
  | error e =>
    rw [freezeSelected_error h]
    exact ⟨view_touchMessages s threadId threadId, elsewhere_of_view (view_touchMessages s threadId)⟩
  | ok records =>
    obtain ⟨hrecords, hfreezes, helse⟩ := freezeSelected_ok h
    exact ⟨⟨hrecords, hfreezes⟩, helse⟩

lemma freezes_nothing {v : ThreadView J C} (hq : WellQueued v.pending) : Freezes v [] v := by
  refine ⟨List.Pairwise.nil, by simp, rfl, ?_, ?_⟩
  · exact hq.numbered.normalize.symm
  · rw [picked, List.filterMap_nil, List.map_nil, List.append_nil]

lemma freezePending_freezes (hq : WellQueued (s.pending threadId)) (gen : Nat → String)
    (boundary : DeliveryBoundary) (expected : Option Nat) :
    FreezesOnly gen threadId boundary none s
      (s.freezePendingMessageRecords gen threadId boundary expected) := by
  have hview := view_touchMessages s threadId
  have hnone : selectPendingForFreezeForRun (s.pending threadId) boundary none = [] →
      FreezesOnly gen threadId boundary none s (.ok [], s.touchMessages threadId) := by
    intro hselect
    refine ⟨?_, elsewhere_of_view hview⟩
    dsimp only
    rw [hselect, hview]
    exact ⟨rfl, freezes_nothing hq⟩
  unfold freezePendingMessageRecords
  dsimp only
  split
  · exact ⟨hview threadId, elsewhere_of_view hview⟩
  · rw [pendingMessages_touchMessages]
    split
    · rename_i hget
      refine hnone ?_
      rw [InMemoryStore.pending, hget]
      rfl
    · rename_i pending hget
      have hpending : s.pending threadId = pending := by
        rw [InMemoryStore.pending, hget, Option.getD_some]
      rw [← hpending]
      split
      · rename_i hempty
        exact hnone (List.isEmpty_iff.mp hempty)
      · rw [freezeSelected_touchMessages]
        exact freezeSelected_freezes s gen threadId boundary none

lemma freezePending_elsewhere (s : InMemoryStore J C) (gen : Nat → String) (threadId : String)
    (boundary : DeliveryBoundary) (expected : Option Nat) :
    Elsewhere threadId s (s.freezePendingMessageRecords gen threadId boundary expected).2 := by
  have hview : Elsewhere threadId s (s.touchMessages threadId) :=
    elsewhere_of_view (view_touchMessages s threadId)
  unfold freezePendingMessageRecords
  dsimp only
  split
  · exact hview
  · split
    · exact hview
    · rename_i pending hget
      rw [pendingMessages_touchMessages] at hget
      have hpending : s.pending threadId = pending := by
        rw [InMemoryStore.pending, hget, Option.getD_some]
      rw [← hpending]
      split
      · exact hview
      · rw [freezeSelected_touchMessages]
        exact (freezeSelected_freezes s gen threadId boundary none).2

lemma freezeExpected_freezes (s : InMemoryStore J C) (gen : Nat → String) (now : Nat)
    (threadId : String) (boundary : DeliveryBoundary) (ids : List String) (run : RunRecord J) :
    FreezesOnly gen threadId boundary (some run.runId) s
      (s.freezeExpected gen now threadId boundary ids run) := by
  unfold freezeExpected
  dsimp only
  split
  · exact ⟨rfl, fun _ _ => rfl⟩
  · have h := freezeSelected_freezes s gen threadId boundary (some run.runId)
    split
    · rename_i heq
      rwa [heq] at h
    · rename_i heq
      rwa [heq] at h

end Calls

end Awaken.Stores.MemoryStore
