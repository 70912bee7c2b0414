import Awaken.Lib.Keyed
import Awaken.Lib.Run
import Awaken.Background.MessageDelivery

namespace Awaken.Background

open Awaken.Lib Awaken.State
open Awaken.Contract.Event (JsonReader)

variable {J U W : Type} {codecs : BackgroundCodecs J}

def requestOf (entry : OutboxEntry) : Option DurableMessageRequest :=
  match entry.route with
  | .durable request => some request
  | .childInbox .. => none

def acceptedOf : Call → Option DurableMessageRequest
  | (request, .ok _) => some request
  | (_, .error _) => none

def rejects (id : String) : Call → Bool
  | (request, .error _) => request.messageId = id
  | (_, .ok _) => false

structure Ledger where
  ids : List String
  sent : List DurableMessageRequest
  accepted : List DurableMessageRequest
  discarded : List DurableMessageRequest
  rejections : String → Nat

namespace Ledger

def renew (self : Ledger) (ids : List String) : Ledger :=
  { self with rejections := fun id => if id ∈ ids then 0 else self.rejections id }

def send (self : Ledger) (messageId : String) (request : Option DurableMessageRequest) : Ledger :=
  { self.renew [messageId] with
    ids := self.ids ++ [messageId]
    sent := self.sent ++ request.toList }

def asked (self : Ledger) (calls : List Call) : Ledger :=
  { self with rejections := fun id => self.rejections id + calls.countP (rejects id) }

def deliver (self : Ledger) (calls : List Call) : Ledger :=
  { self.asked calls with accepted := self.accepted ++ calls.filterMap acceptedOf }

def recover (self : Ledger) (action : String) (failed : List FailedDurableMessage) : Ledger :=
  if action = "replay" then self.renew (failed.map (·.request.messageId))
  else if action = "clear" then
    { self with discarded := self.discarded ++ failed.map (·.request) }
  else self

end Ledger

structure Thread (codecs : BackgroundCodecs J) where
  store : StateStore (backgroundKeys codecs)
  ledger : Ledger

def Thread.start (codecs : BackgroundCodecs J) : Thread codecs :=
  ⟨runStore codecs, ⟨[], [], [], [], fun _ => 0⟩⟩

def Thread.messages (self : Thread codecs) : Messages := messagesOf self.store.inner.ext

structure Caller where
  threadId : String
  agentId : String
  parentThreadId : Option String

def Caller.context (self : Caller) (store : StateStore (backgroundKeys codecs)) :
    ToolCallContext codecs :=
  ⟨self.threadId, self.agentId, self.parentThreadId, store.snapshot⟩

def requested (json : JsonReader U J) (messageId : String) (args : J) (caller : Caller) :
    Option DurableMessageRequest := do
  let recipient ← json.getField args "to"
  let relation ← json.getString recipient "relation"
  let message ← json.getString args "message"
  if relation = "agent" then
    let threadId ← json.getString recipient "thread_id"
    let agent := (json.getString recipient "agent_id").filter (· ≠ "")
    return ⟨messageId, threadId, agent, caller.agentId, message⟩
  else if relation = "parent" then
    let parent ← caller.parentThreadId
    return ⟨messageId, parent, none, caller.agentId, message⟩
  else none

inductive Action (J W : Type) where
  | send (messageId : String) (args : J) (caller : Caller)
  | stepEnd (hook : MessageDispatchHook W) (ambient : Option (DurableMessageSink W)) (world : W)
  | interrupted (hook : MessageDispatchHook W) (ambient : Option (DurableMessageSink W)) (world : W)
  | recover (args : J) (caller : Caller)
  | restart

def recoverAction (json : JsonReader U J) (args : J) : String :=
  (json.getString args "action").getD "list"

/-- A command is committed to the state that it was computed from. The ids of new messages are
fresh. An interrupted dispatch has asked the sink, but its command is lost; a restart writes the
keys of the thread out and reads them into the store of a new run. -/
inductive Step (json : JsonReader U J) : Thread codecs → Action J W → Thread codecs → Prop
  | send {thread store' messageId args caller output revision}
      (fresh : messageId ∉ thread.ledger.ids)
      (executed : SendMessageTool.execute json messageId args (caller.context thread.store) = .ok output)
      (committed : thread.store.commit output.command.patch = (.ok revision, store')) :
      Step json thread (.send messageId args caller)
        ⟨store', thread.ledger.send messageId (requested json messageId args caller)⟩
  | stepEnd {thread store' hook ambient world revision}
      (committed : thread.store.commit
        (hook.run ambient thread.store.snapshot world).1.patch = (.ok revision, store')) :
      Step json thread (.stepEnd hook ambient world)
        ⟨store', thread.ledger.deliver (hook.calls ambient thread.store.snapshot world)⟩
  | interrupted {thread hook ambient world} :
      Step json thread (.interrupted hook ambient world)
        ⟨thread.store, thread.ledger.asked (hook.calls ambient thread.store.snapshot world)⟩
  | recover {thread store' args caller output revision}
      (executed : RecoverFailedMessagesTool.execute json args (caller.context thread.store) = .ok output)
      (committed : thread.store.commit output.command.patch = (.ok revision, store')) :
      Step json thread (.recover args caller)
        ⟨store', thread.ledger.recover (recoverAction json args) thread.messages.failed⟩
  | restart {thread persisted policy store'}
      (saved : thread.store.exportThreadScoped = .ok persisted)
      (restored : (runStore codecs).restoreThreadScoped persisted policy = (.ok (), store')) :
      Step json thread .restart ⟨store', thread.ledger⟩

def Thread.perform (json : JsonReader U J) (thread : Thread codecs) :
    Action J W → Option (Thread codecs)
  | .send messageId args caller =>
    if messageId ∈ thread.ledger.ids then none
    else match SendMessageTool.execute json messageId args (caller.context thread.store) with
      | .ok output => match thread.store.commit output.command.patch with
        | (.ok _, store) =>
          some ⟨store, thread.ledger.send messageId (requested json messageId args caller)⟩
        | (.error _, _) => none
      | .error _ => none
  | .stepEnd hook ambient world =>
    match thread.store.commit (hook.run ambient thread.store.snapshot world).1.patch with
    | (.ok _, store) =>
      some ⟨store, thread.ledger.deliver (hook.calls ambient thread.store.snapshot world)⟩
    | (.error _, _) => none
  | .interrupted hook ambient world =>
    some ⟨thread.store, thread.ledger.asked (hook.calls ambient thread.store.snapshot world)⟩
  | .recover args caller =>
    match RecoverFailedMessagesTool.execute json args (caller.context thread.store) with
    | .ok output => match thread.store.commit output.command.patch with
      | (.ok _, store) =>
        some ⟨store, thread.ledger.recover (recoverAction json args) thread.messages.failed⟩
      | (.error _, _) => none
    | .error _ => none
  | .restart => match thread.store.exportThreadScoped with
    | .ok persisted => match (runStore codecs).restoreThreadScoped persisted .skip with
      | (.ok (), store) => some ⟨store, thread.ledger⟩
      | (.error _, _) => none
    | .error _ => none

lemma Thread.step_perform {json : JsonReader U J} {thread thread' : Thread codecs}
    {action : Action J W} (h : thread.perform json action = some thread') :
    Step json thread action thread' := by
  unfold Thread.perform at h
  split at h
  · split at h
    · cases h
    · next hfresh =>
      split at h
      · next hexecuted =>
        split at h
        · next hcommitted =>
          cases h
          exact .send hfresh hexecuted hcommitted
        · cases h
      · cases h
  · split at h
    · next hcommitted =>
      cases h
      exact .stepEnd hcommitted
    · cases h
  · cases h
    exact .interrupted
  · split at h
    · next hexecuted =>
      split at h
      · next hcommitted =>
        cases h
        exact .recover hexecuted hcommitted
      · cases h
    · cases h
  · split at h
    · next hsaved =>
      split at h
      · next hrestored =>
        cases h
        exact .restart hsaved hrestored
      · cases h
    · cases h

lemma run_perform {json : JsonReader U J} {thread thread' : Thread codecs}
    {actions : List (Action J W)} (h : actions.foldlM (Thread.perform json) thread = some thread') :
    ∃ tr : List (Transition (Thread codecs) (Action J W)), Run (Step json) thread tr thread' := by
  induction actions generalizing thread with
  | nil =>
    cases h
    exact ⟨[], .nil _⟩
  | cons action actions ih =>
    obtain ⟨next, hnext, hrest⟩ := Option.bind_eq_some_iff.mp h
    obtain ⟨tr, hrun⟩ := ih hrest
    exact ⟨_, .cons (Thread.step_perform hnext) hrun⟩

structure Booked (messages : Messages) (ledger : Ledger) : Prop where
  distinct : (messages.pending.map (·.id) ++
    messages.failed.map (·.request.messageId)).Nodup
  known : ∀ id ∈ messages.pending.map (·.id) ++ messages.failed.map (·.request.messageId),
    id ∈ ledger.ids
  keyed : ∀ entry ∈ messages.pending, ∀ request, requestOf entry = some request →
    request.messageId = entry.id
  sentKnown : ∀ request ∈ ledger.sent, request.messageId ∈ ledger.ids
  sentDistinct : (ledger.sent.map (·.messageId)).Nodup
  balance : ledger.sent.Perm (messages.pending.filterMap requestOf ++
    messages.failed.map (·.request) ++ ledger.accepted ++ ledger.discarded)
  budget : ∀ entry ∈ messages.pending, entry.attempts < maxDurableAttempts ∧
    ((requestOf entry).isSome → entry.attempts ≤ ledger.rejections entry.id)

namespace Booked

variable {messages : Messages} {ledger : Ledger}

lemma send (h : Booked messages ledger) {messageId : String} {entry : Option OutboxEntry}
    (hfresh : messageId ∉ ledger.ids) (hown : ∀ e ∈ entry, e.id = messageId ∧ e.attempts = 0)
    (hkeyed : ∀ request ∈ entry.bind requestOf, request.messageId = messageId) :
    Booked ⟨messages.pending ++ entry.toList, messages.failed⟩
      (ledger.send messageId (entry.bind requestOf)) := by
  have hnew : messageId ∉ messages.pending.map (·.id) ++
      messages.failed.map (·.request.messageId) := fun hmem => hfresh (h.known _ hmem)
  have hids : ∀ id ∈ entry.toList.map (·.id), id = messageId := by
    intro id hid
    obtain ⟨e, he, rfl⟩ := List.mem_map.mp hid
    exact (hown e (Option.mem_toList.mp he)).1
  have hmiddle : ((messages.pending ++ entry.toList).map (·.id) ++
      messages.failed.map (·.request.messageId)).Perm (entry.toList.map (·.id) ++
        (messages.pending.map (·.id) ++ messages.failed.map (·.request.messageId))) := by
    rw [List.map_append, ← List.append_assoc]
    exact List.perm_append_comm.append_right _
  have hsent : entry.toList.filterMap requestOf = (entry.bind requestOf).toList := by
    cases entry with
    | none => rfl
    | some e => cases hreq : requestOf e <;> simp [hreq]
  refine ⟨hmiddle.nodup_iff.mpr (List.nodup_append.mpr ⟨?_, h.distinct, ?_⟩), ?_, ?_, ?_, ?_, ?_,
    ?_⟩
  · cases entry <;> simp
  · intro id hid other hother heq
    exact hnew (hids id hid ▸ heq ▸ hother)
  · intro id hid
    refine List.mem_append.mpr ?_
    rcases List.mem_append.mp (hmiddle.mem_iff.mp hid) with hlast | hold
    · exact .inr (List.mem_singleton.mpr (hids id hlast))
    · exact .inl (h.known id hold)
  · intro other hother request hrequest
    rcases List.mem_append.mp hother with hold | hlast
    · exact h.keyed other hold request hrequest
    · have hother := Option.mem_toList.mp hlast
      rw [(hown other hother).1]
      exact hkeyed request (Option.mem_bind_iff.mpr ⟨other, hother, hrequest⟩)
  · intro request hrequest
    refine List.mem_append.mpr ?_
    rcases List.mem_append.mp hrequest with hold | hlast
    · exact .inl (h.sentKnown request hold)
    · exact .inr (List.mem_singleton.mpr (hkeyed request (Option.mem_toList.mp hlast)))
  · change ((ledger.sent ++ (entry.bind requestOf).toList).map (·.messageId)).Nodup
    rw [List.map_append]
    refine List.nodup_append.mpr ⟨h.sentDistinct, ?_, ?_⟩
    · cases entry.bind requestOf <;> simp
    · intro a ha b hb hab
      obtain ⟨old, hold, rfl⟩ := List.mem_map.mp ha
      obtain ⟨new, hnew, rfl⟩ := List.mem_map.mp hb
      refine hfresh ?_
      rw [← hkeyed new (Option.mem_toList.mp hnew), ← hab]
      exact h.sentKnown old hold
  · change (ledger.sent ++ (entry.bind requestOf).toList).Perm
      ((messages.pending ++ entry.toList).filterMap requestOf ++ messages.failed.map (·.request) ++
        ledger.accepted ++ ledger.discarded)
    refine List.perm_iff_count.mpr (fun request => ?_)
    have hbefore := List.perm_iff_count.mp h.balance request
    simp only [List.filterMap_append, List.count_append, hsent] at hbefore ⊢
    omega
  · intro other hother
    change _ ∧ (_ → _ ≤ (ledger.renew [messageId]).rejections other.id)
    rcases List.mem_append.mp hother with hold | hlast
    · refine ⟨(h.budget other hold).1, fun hdurable => ?_⟩
      have hne : other.id ∉ [messageId] := fun hmem => by
        refine hnew (List.mem_append_left _ ?_)
        rw [← List.mem_singleton.mp hmem]
        exact List.mem_map_of_mem hold
      simp only [Ledger.renew, hne, if_false]
      exact (h.budget other hold).2 hdurable
    · have hattempts := (hown other (Option.mem_toList.mp hlast)).2
      exact ⟨by rw [hattempts]; decide, fun _ => by omega⟩

lemma asked (h : Booked messages ledger) (calls : List Call) :
    Booked messages (ledger.asked calls) :=
  ⟨h.distinct, h.known, h.keyed, h.sentKnown, h.sentDistinct, h.balance, fun entry hentry =>
    ⟨(h.budget entry hentry).1, fun hdurable =>
      ((h.budget entry hentry).2 hdurable).trans (Nat.le_add_right _ _)⟩⟩

lemma answered_balance (answered : List Answered) :
    ((answered.map Prod.fst).filterMap requestOf).Perm
      ((answered.filterMap Answered.kept).filterMap requestOf ++
        (answered.filterMap Answered.dead).map (·.request) ++
        (answered.filterMap Answered.call).filterMap acceptedOf) := by
  induction answered with
  | nil => exact .refl _
  | cons a answered ih =>
    obtain ⟨⟨id, route, attempts⟩, answer⟩ := a
    cases route with
    | childInbox => exact ih
    | durable request =>
      have hhead : ∀ {l₁ l₂ l₃ : List DurableMessageRequest},
          ((answered.map Prod.fst).filterMap requestOf).Perm (l₁ ++ l₂ ++ l₃) →
          (request :: (answered.map Prod.fst).filterMap requestOf).Perm (l₁ ++ l₂ ++ request :: l₃) :=
        fun h => (h.cons _).trans List.perm_middle.symm
      cases answer with
      | none =>
        refine (ih.cons request).trans ?_
        change (request :: (_ ++ _ ++ _)).Perm (_ ++ (request :: _) ++ _)
        rw [List.append_assoc, List.append_assoc]
        exact List.perm_middle.symm
      | some answer =>
        cases answer with
        | ok dispatchId => exact hhead ih
        | error error =>
          by_cases hretry : attempts + 1 < maxDurableAttempts
          · simpa [Answered.kept, Answered.dead, Answered.call, acceptedOf, requestOf, hretry,
              List.filterMap_cons] using ih
          · refine (ih.cons request).trans ?_
            simp only [Answered.kept, Answered.dead, Answered.call, acceptedOf, hretry, if_false,
              List.filterMap_cons, List.map_cons]
            rw [List.append_assoc, List.append_assoc]
            exact List.perm_middle.symm

lemma kept_or_dead (answered : Answered) : answered.kept = none ∨ answered.dead = none := by
  obtain ⟨⟨id, route, attempts⟩, answer⟩ := answered
  cases route with
  | childInbox => exact .inl rfl
  | durable request =>
    cases answer with
    | none => exact .inl rfl
    | some answer =>
      cases answer with
      | ok dispatchId => exact .inl rfl
      | error error =>
        by_cases hretry : attempts + 1 < maxDurableAttempts
        · exact .inr (by simp [Answered.dead, hretry])
        · exact .inl (by simp [Answered.kept, hretry])

lemma keepsKey_kept (answered : List Answered) :
    KeepsKey Answered.kept (fun a => a.1.id) (·.id) answered :=
  fun _ _ _ hkept => (Answered.kept_id hkept).1

section Delivered

variable {answered : List Answered}

lemma keepsKey_dead (h : Booked messages ledger)
    (hentries : answered.map Prod.fst = messages.pending) :
    KeepsKey Answered.dead (fun a => a.1.id) (·.request.messageId) answered := by
  intro a ha failed hdead
  refine h.keyed a.1 (hentries ▸ List.mem_map_of_mem ha) failed.request ?_
  rw [requestOf, Answered.dead_request hdead]

lemma ids_eq (hentries : answered.map Prod.fst = messages.pending) :
    answered.map (fun a => a.1.id) = messages.pending.map (·.id) := by
  rw [← hentries, List.map_map]
  rfl

lemma delivered_subperm (h : Booked messages ledger)
    (hentries : answered.map Prod.fst = messages.pending) :
    ((answered.filterMap Answered.kept).map (·.id) ++
        (messages.failed ++ answered.filterMap Answered.dead).map (·.request.messageId)).Subperm
      (messages.pending.map (·.id) ++ messages.failed.map (·.request.messageId)) := by
  have hkeys := keys_subperm (keepsKey_kept answered) (h.keepsKey_dead hentries)
    (fun a _ => kept_or_dead a)
  rw [ids_eq hentries] at hkeys
  rw [List.map_append]
  have hcomm : ((answered.filterMap Answered.kept).map (·.id) ++
      (messages.failed.map (·.request.messageId) ++
        (answered.filterMap Answered.dead).map (·.request.messageId))).Perm
      ((answered.filterMap Answered.kept).map (·.id) ++
        (answered.filterMap Answered.dead).map (·.request.messageId) ++
        messages.failed.map (·.request.messageId)) := by
    rw [List.append_assoc]
    exact List.Perm.append_left _ List.perm_append_comm
  exact hcomm.subperm.trans ((List.subperm_append_right _).mpr hkeys)

lemma deliver (h : Booked messages ledger) (hentries : answered.map Prod.fst = messages.pending) :
    Booked ⟨answered.filterMap Answered.kept, messages.failed ++ answered.filterMap Answered.dead⟩
      (ledger.deliver (answered.filterMap Answered.call)) := by
  have hsub := h.delivered_subperm hentries
  refine ⟨nodup_of_subperm hsub h.distinct, fun id hid => h.known id (hsub.subset hid), ?_,
    h.sentKnown, h.sentDistinct, ?_, ?_⟩
  · intro entry hentry request hrequest
    obtain ⟨a, ha, hkept⟩ := List.mem_filterMap.mp hentry
    obtain ⟨hid, hroute, -⟩ := Answered.kept_id hkept
    rw [hid]
    refine h.keyed a.1 (hentries ▸ List.mem_map_of_mem ha) request ?_
    rw [requestOf, ← hroute]
    exact hrequest
  · have hbalance := h.balance
    have hanswered := answered_balance answered
    rw [hentries] at hanswered
    refine List.perm_iff_count.mpr (fun request => ?_)
    have hbefore := List.perm_iff_count.mp hbalance request
    have hmoved := List.perm_iff_count.mp hanswered request
    change List.count request ledger.sent = List.count request (_ ++ (messages.failed ++ _).map _ ++
      (ledger.accepted ++ _) ++ ledger.discarded)
    simp only [List.count_append, List.map_append] at hbefore hmoved ⊢
    omega
  · intro entry hentry
    obtain ⟨a, ha, hkept⟩ := List.mem_filterMap.mp hentry
    obtain ⟨hid, hroute, hattempts, hlimit, request, error, hrequest, hanswer⟩ :=
      Answered.kept_id hkept
    refine ⟨hlimit, fun _ => ?_⟩
    have hmem : a.1 ∈ messages.pending := hentries ▸ List.mem_map_of_mem ha
    have hreq : requestOf a.1 = some request := by rw [requestOf, hrequest]
    have hbefore := (h.budget a.1 hmem).2 (by rw [hreq]; rfl)
    have hcall : (request, Except.error error) ∈ answered.filterMap Answered.call := by
      refine List.mem_filterMap.mpr ⟨a, ha, ?_⟩
      obtain ⟨⟨id, route, attempts⟩, answer⟩ := a
      obtain rfl : route = .durable request := hrequest
      obtain rfl : answer = some (.error error) := hanswer
      rfl
    have hcount : 0 < (answered.filterMap Answered.call).countP (rejects entry.id) := by
      refine List.countP_pos_iff.mpr ⟨_, hcall, ?_⟩
      rw [rejects, decide_eq_true_eq, hid]
      exact h.keyed a.1 hmem request hreq
    change entry.attempts ≤ ledger.rejections entry.id +
      (answered.filterMap Answered.call).countP (rejects entry.id)
    rw [hattempts, hid] at *
    omega

end Delivered

def replayed (failed : FailedDurableMessage) : OutboxEntry :=
  ⟨failed.request.messageId, .durable failed.request, 0⟩

lemma replay (h : Booked messages ledger) :
    Booked ⟨messages.pending ++ messages.failed.map replayed, []⟩
      (ledger.renew (messages.failed.map (·.request.messageId))) := by
  have hids : (messages.pending ++ messages.failed.map replayed).map (·.id) =
      messages.pending.map (·.id) ++ messages.failed.map (·.request.messageId) := by
    rw [List.map_append, List.map_map]
    rfl
  refine ⟨?_, ?_, ?_, h.sentKnown, h.sentDistinct, ?_, ?_⟩
  · rw [List.map_nil, List.append_nil, hids]
    exact h.distinct
  · rw [List.map_nil, List.append_nil, hids]
    exact h.known
  · intro entry hentry request hrequest
    rcases List.mem_append.mp hentry with hold | hnew
    · exact h.keyed entry hold request hrequest
    · obtain ⟨failed, -, rfl⟩ := List.mem_map.mp hnew
      rw [← Option.some.inj hrequest]
      rfl
  · have hrequests : (messages.failed.map replayed).filterMap requestOf =
        messages.failed.map (·.request) := by
      rw [List.filterMap_map, ← List.filterMap_eq_map]
      rfl
    have hbalance := h.balance
    change ledger.sent.Perm ((messages.pending ++ messages.failed.map replayed).filterMap requestOf ++
      [] ++ ledger.accepted ++ ledger.discarded)
    rw [List.filterMap_append, hrequests, List.append_nil]
    exact hbalance
  · intro entry hentry
    rcases List.mem_append.mp hentry with hold | hnew
    · refine ⟨(h.budget entry hold).1, fun hdurable => ?_⟩
      have hapart : entry.id ∉ messages.failed.map (·.request.messageId) := fun hmem =>
        (List.nodup_append.mp h.distinct).2.2 _ (List.mem_map_of_mem hold) _ hmem rfl
      simp only [Ledger.renew, hapart, if_false]
      exact (h.budget entry hold).2 hdurable
    · obtain ⟨failed, -, rfl⟩ := List.mem_map.mp hnew
      exact ⟨Nat.zero_lt_of_lt (show 0 < maxDurableAttempts by decide), fun _ => Nat.zero_le _⟩

lemma clear (h : Booked messages ledger) :
    Booked ⟨messages.pending, []⟩
      { ledger with discarded := ledger.discarded ++ messages.failed.map (·.request) } := by
  refine ⟨?_, ?_, h.keyed, h.sentKnown, h.sentDistinct, ?_, h.budget⟩
  · rw [List.map_nil, List.append_nil]
    exact (List.nodup_append.mp h.distinct).1
  · intro id hid
    rw [List.map_nil, List.append_nil] at hid
    exact h.known id (List.mem_append_left _ hid)
  · refine List.perm_iff_count.mpr (fun request => ?_)
    have hbefore := List.perm_iff_count.mp h.balance request
    simp only [List.count_append, List.map_nil, List.count_nil] at hbefore ⊢
    omega

end Booked

section Tools

variable {json : JsonReader U J} {args : J} {ctx : ToolCallContext codecs} {output : ToolOutput codecs}

lemma required_ok {α : Type} {value : Option α} {text : String} {a : α}
    (h : required value text = .ok a) : value = some a := by
  cases value with
  | none => cases h
  | some b => rw [Except.ok.inj h]

lemma route_requested {messageId relation message : String} {recipient : J} {caller : Caller}
    {store : StateStore (backgroundKeys codecs)} {found : Except MessageError OutboxRoute}
    (hrecipient : json.getField args "to" = some recipient)
    (hrelation : json.getString recipient "relation" = some relation)
    (hmessage : json.getString args "message" = some message)
    (h : SendMessageTool.route json messageId recipient relation message (caller.context store) =
      .ok found) :
    requested json messageId args caller =
      found.toOption.bind (fun route => requestOf ⟨messageId, route, 0⟩) := by
  simp only [requested, hrecipient, hrelation, hmessage, Option.bind_eq_bind, Option.bind_some]
  unfold SendMessageTool.route at h
  split at h
  · next hchild =>
    rw [hchild, if_neg (by decide), if_neg (by decide)]
    obtain ⟨name, -, h⟩ := bind_eq_ok h
    split at h <;> cases h <;> rfl
  · split at h
    · next hparent =>
      rw [hparent, if_neg (by decide), if_pos rfl]
      have hcaller : (caller.context store).parentThreadId = caller.parentThreadId := rfl
      rw [hcaller] at h
      cases hthread : caller.parentThreadId <;> rw [hthread] at h <;> cases h <;> rfl
    · split at h
      · next hagent =>
        rw [if_pos hagent]
        obtain ⟨thread, hthread, h⟩ := bind_eq_ok h
        rw [required_ok hthread]
        cases h
        rfl
      · cases h

lemma requested_id {messageId : String} {caller : Caller} {request : DurableMessageRequest}
    (h : requested json messageId args caller = some request) : request.messageId = messageId := by
  simp only [requested, Option.bind_eq_bind, Option.bind_eq_some_iff] at h
  obtain ⟨recipient, -, relation, -, message, -, h⟩ := h
  split at h
  · obtain ⟨threadId, -, h⟩ := Option.bind_eq_some_iff.mp h
    cases h
    rfl
  · split at h
    · obtain ⟨parent, -, h⟩ := Option.bind_eq_some_iff.mp h
      cases h
      rfl
    · cases h

lemma send_spec {messageId : String} {caller : Caller} {store : StateStore (backgroundKeys codecs)}
    (h : SendMessageTool.execute json messageId args (caller.context store) = .ok output) :
    ∃ entry : Option OutboxEntry, (∀ e ∈ entry, e.id = messageId ∧ e.attempts = 0) ∧
      output.command.patch.ops =
        entry.toList.map (fun e => .keyPatch .messageOutbox (MessageOutboxUpdate.enqueue e)) ∧
      requested json messageId args caller = entry.bind requestOf := by
  unfold SendMessageTool.execute at h
  obtain ⟨-, -, h⟩ := bind_eq_ok h
  obtain ⟨recipient, hrecipient, h⟩ := bind_eq_ok h
  obtain ⟨relation, hrelation, h⟩ := bind_eq_ok h
  obtain ⟨message, hmessage, h⟩ := bind_eq_ok h
  obtain ⟨found, hroute, h⟩ := bind_eq_ok h
  have hrequested := route_requested (required_ok hrecipient) (required_ok hrelation)
    (required_ok hmessage) hroute
  cases found with
  | error code =>
    cases h
    exact ⟨none, nofun, rfl, hrequested⟩
  | ok route =>
    cases h
    refine ⟨some ⟨messageId, route, 0⟩, ?_, rfl, hrequested⟩
    rintro e ⟨⟩
    exact ⟨rfl, rfl⟩

lemma requeue_ops (failed : List FailedDurableMessage)
    (command : StateCommand (backgroundKeys codecs)) :
    (failed.foldl RecoverFailedMessagesTool.requeue command).patch.ops = command.patch.ops ++
      failed.map (fun message =>
        .keyPatch .messageOutbox (MessageOutboxUpdate.enqueue (Booked.replayed message))) := by
  induction failed generalizing command with
  | nil => simp
  | cons message failed ih =>
    rw [List.foldl_cons, ih, List.map_cons]
    simp [RecoverFailedMessagesTool.requeue, StateCommand.update, MutationBatch.update,
      MutationBatch.push, Booked.replayed]

lemma apply_requeued (failed : List FailedDurableMessage) (messages : Messages) :
    (failed.map (fun message => (.keyPatch .messageOutbox (MessageOutboxUpdate.enqueue
        (Booked.replayed message)) : MutationOp (backgroundKeys codecs)))).foldl Messages.apply
      messages = ⟨messages.pending ++ failed.map Booked.replayed, messages.failed⟩ := by
  induction failed generalizing messages with
  | nil => simp
  | cons message failed ih =>
    rw [List.map_cons, List.foldl_cons, ih]
    simp [Messages.apply, MessageOutbox.reduce]

lemma recover_spec (h : RecoverFailedMessagesTool.execute json args ctx = .ok output) :
    output.command.patch.ops.foldl Messages.apply (messagesOf ctx.snapshot.ext) =
      if recoverAction json args = "replay" then
        ⟨(messagesOf ctx.snapshot.ext).pending ++
          (messagesOf ctx.snapshot.ext).failed.map Booked.replayed, []⟩
      else if recoverAction json args = "clear" then ⟨(messagesOf ctx.snapshot.ext).pending, []⟩
      else messagesOf ctx.snapshot.ext := by
  unfold RecoverFailedMessagesTool.execute at h
  change (if recoverAction json args = "list" then _ else if recoverAction json args = "replay" then _
    else if recoverAction json args = "clear" then _ else _) = _ at h
  split at h
  · rename_i haction
    cases h
    rw [haction, if_neg (by decide), if_neg (by decide)]
    rfl
  · split at h
    · rename_i haction
      cases h
      rw [if_pos haction]
      change List.foldl Messages.apply _ ((List.foldl RecoverFailedMessagesTool.requeue .new
        (messagesOf ctx.snapshot.ext).failed).patch.ops ++ [_]) = _
      rw [requeue_ops, List.foldl_append]
      change List.foldl Messages.apply (List.foldl Messages.apply _ ([] ++ _)) _ = _
      rw [List.nil_append, apply_requeued]
      rfl
    · rename_i hreplay
      split at h
      · rename_i haction
        cases h
        rw [if_neg hreplay, if_pos haction]
        rfl
      · cases h

end Tools

section Steps

def Thread.calls (self : Thread codecs) : Action J W → List Call
  | .stepEnd hook ambient world | .interrupted hook ambient world =>
    hook.calls ambient self.store.snapshot world
  | _ => []

inductive Moves (json : JsonReader U J) (messages : Messages) (ledger : Ledger) (calls : List Call) :
    Action J W → Messages → Ledger → Prop
  | sent {messageId args caller} (entry : Option OutboxEntry) (fresh : messageId ∉ ledger.ids)
      (own : ∀ e ∈ entry, e.id = messageId ∧ e.attempts = 0)
      (keyed : ∀ request ∈ entry.bind requestOf, request.messageId = messageId) :
      Moves json messages ledger calls (.send messageId args caller)
        ⟨messages.pending ++ entry.toList, messages.failed⟩
        (ledger.send messageId (entry.bind requestOf))
  | delivered {hook ambient world} (answered : List Answered)
      (entries : answered.map Prod.fst = messages.pending)
      (asked : ∀ a ∈ answered, Answered.Asked (hook.durableSink.or ambient) a)
      (all : calls = answered.filterMap Answered.call) :
      Moves json messages ledger calls (.stepEnd hook ambient world)
        ⟨answered.filterMap Answered.kept, messages.failed ++ answered.filterMap Answered.dead⟩
        (ledger.deliver calls)
  | lost {hook ambient world} : Moves json messages ledger calls (.interrupted hook ambient world)
      messages (ledger.asked calls)
  | replayed {args caller} (replay : recoverAction json args = "replay") :
      Moves json messages ledger calls (.recover args caller)
        ⟨messages.pending ++ messages.failed.map Booked.replayed, []⟩
        (ledger.renew (messages.failed.map (·.request.messageId)))
  | cleared {args caller} (clear : recoverAction json args = "clear") :
      Moves json messages ledger calls (.recover args caller) ⟨messages.pending, []⟩
        { ledger with discarded := ledger.discarded ++ messages.failed.map (·.request) }
  | listed {args caller} : Moves json messages ledger calls (.recover args caller) messages ledger
  | restarted : Moves json messages ledger calls .restart messages ledger

lemma runStore_coherent : (runStore codecs).registry.Coherent (backgroundKeys codecs) :=
  coherent_installPlugin (coherent_installPlugin .empty _) _

lemma runStore_messageOutbox : (runStore codecs).registry.keysByType.get .messageOutbox =
    some (.new (backgroundKeys codecs) .messageOutbox threadOptions) := by
  with_unfolding_all rfl

lemma runStore_failedDurableMessages :
    (runStore codecs).registry.keysByType.get .failedDurableMessages =
      some (.new (backgroundKeys codecs) .failedDurableMessages threadOptions) := by
  with_unfolding_all rfl

lemma restart_read {store store' : StateStore (backgroundKeys codecs)} {k : BackgroundKey}
    {persisted : PersistedState J} {policy : UnknownKeyPolicy}
    (hregistry : store.registry = (runStore codecs).registry)
    (saved : store.exportThreadScoped = .ok persisted)
    (restored : (runStore codecs).restoreThreadScoped persisted policy = (.ok (), store'))
    (hkey : (runStore codecs).registry.keysByType.get k =
      some (.new (backgroundKeys codecs) k threadOptions))
    (hcodec : (backgroundKeys codecs k).codec.RoundTrips) :
    store'.inner.ext k = store.inner.ext k := by
  have hc : store.registry.Coherent (backgroundKeys codecs) := hregistry ▸ runStore_coherent
  have hread := restoreThreadScoped_export hc runStore_coherent saved (by rw [restored])
    (hregistry ▸ hkey) rfl rfl hkey rfl rfl hcodec
  rw [restored] at hread
  exact hread

lemma restart_messages {store store' : StateStore (backgroundKeys codecs)}
    {persisted : PersistedState J} {policy : UnknownKeyPolicy}
    (houtbox : codecs.messageOutbox.RoundTrips) (hfailed : codecs.failedDurableMessages.RoundTrips)
    (hregistry : store.registry = (runStore codecs).registry)
    (saved : store.exportThreadScoped = .ok persisted)
    (restored : (runStore codecs).restoreThreadScoped persisted policy = (.ok (), store')) :
    messagesOf store'.inner.ext = messagesOf store.inner.ext := by
  rw [messagesOf, messagesOf,
    restart_read hregistry saved restored runStore_messageOutbox houtbox,
    restart_read hregistry saved restored runStore_failedDurableMessages hfailed]

variable {json : JsonReader U J} {thread thread' : Thread codecs} {action : Action J W}

lemma Step.registry (h : Step json thread action thread')
    (hregistry : thread.store.registry = (runStore codecs).registry) :
    thread'.store.registry = (runStore codecs).registry := by
  cases h with
  | send fresh executed committed => rw [(messagesOf_commit committed).1, hregistry]
  | stepEnd committed => rw [(messagesOf_commit committed).1, hregistry]
  | interrupted => exact hregistry
  | recover executed committed => rw [(messagesOf_commit committed).1, hregistry]
  | @restart persisted policy store' saved restored =>
    have hstore : store' = ((runStore codecs).restoreThreadScoped persisted policy).2 := by
      rw [restored]
    rw [hstore, StateStore.restoreThreadScoped]

theorem Step.moves (houtbox : codecs.messageOutbox.RoundTrips)
    (hfailed : codecs.failedDurableMessages.RoundTrips)
    (hregistry : thread.store.registry = (runStore codecs).registry)
    (hbooked : Booked thread.messages thread.ledger) (h : Step json thread action thread') :
    Moves json thread.messages thread.ledger (thread.calls action) action thread'.messages
      thread'.ledger := by
  cases h with
  | send fresh executed committed =>
    have hcommit := (messagesOf_commit committed).2
    change Moves _ _ _ _ _ (messagesOf _) _
    obtain ⟨entry, hown, hops, hrequested⟩ := send_spec executed
    have hkeyed : ∀ request ∈ entry.bind requestOf, request.messageId = _ := fun request hrequest =>
      requested_id (hrequested.trans hrequest)
    rw [hcommit, hops, hrequested]
    cases entry with
    | none =>
      have hsame : messagesOf thread.store.inner.ext =
          ⟨thread.messages.pending ++ [], thread.messages.failed⟩ := by
        rw [List.append_nil]
        rfl
      change Moves _ _ _ _ _ (messagesOf thread.store.inner.ext) _
      rw [hsame]
      exact .sent none fresh hown hkeyed
    | some e => exact .sent (some e) fresh hown hkeyed
  | @stepEnd store' hook ambient world revision committed =>
    obtain ⟨answered, hentries, hasked, hops, hcalls⟩ :=
      hook.run_spec ambient thread.store.snapshot world
    have hentries : answered.map Prod.fst = thread.messages.pending := hentries
    have hcommit := (messagesOf_commit committed).2
    have hmessages : messagesOf store'.inner.ext = ⟨answered.filterMap Answered.kept,
        thread.messages.failed ++ answered.filterMap Answered.dead⟩ := by
      have hids := (List.nodup_append.mp hbooked.distinct).1
      rw [← Booked.ids_eq hentries] at hids
      have happly := @apply_answered J codecs answered [] thread.messages.failed hids (by simp)
      rw [List.append_nil, hentries, List.nil_append] at happly
      rw [hcommit, hops]
      exact happly
    change Moves _ _ _ _ _ (messagesOf _) _
    rw [hmessages]
    exact .delivered answered hentries hasked hcalls
  | interrupted => exact .lost
  | @recover store' args caller output revision executed committed =>
    have hcommit := (messagesOf_commit committed).2
    have hspec := recover_spec executed
    change Moves _ _ _ _ _ (messagesOf _) (thread.ledger.recover _ _)
    rw [hcommit]
    change List.foldl Messages.apply (messagesOf thread.store.inner.ext) _ = _ at hspec
    rw [hspec, Ledger.recover]
    split
    · rename_i hreplay
      exact .replayed hreplay
    · split
      · rename_i hclear
        exact .cleared hclear
      · exact .listed
  | restart saved restored =>
    change Moves _ _ _ _ _ (messagesOf _) _
    rw [restart_messages houtbox hfailed hregistry saved restored]
    exact .restarted

structure Sound (thread : Thread codecs) : Prop where
  registry : thread.store.registry = (runStore codecs).registry
  booked : Booked thread.messages thread.ledger

lemma Moves.booked {messages messages' : Messages} {ledger ledger' : Ledger} {calls : List Call}
    (h : Moves json messages ledger calls action messages' ledger') (hb : Booked messages ledger) :
    Booked messages' ledger' := by
  cases h with
  | listed | restarted => exact hb
  | sent entry fresh own keyed => exact hb.send fresh own keyed
  | delivered answered entries asked all =>
    rw [all]
    exact hb.deliver entries
  | lost => exact hb.asked calls
  | replayed => exact hb.replay
  | cleared => exact hb.clear

lemma start_sound : Sound (Thread.start codecs) :=
  ⟨rfl, ⟨.nil, fun _ hid => (nomatch hid), fun _ hentry => (nomatch hentry),
    fun _ hrequest => (nomatch hrequest), .nil, .nil, fun _ hentry => (nomatch hentry)⟩⟩

lemma Step.sound (houtbox : codecs.messageOutbox.RoundTrips)
    (hfailed : codecs.failedDurableMessages.RoundTrips) (h : Step json thread action thread')
    (hs : Sound thread) : Sound thread' :=
  ⟨h.registry hs.registry, (h.moves houtbox hfailed hs.registry hs.booked).booked hs.booked⟩

end Steps

section Conservation

def places (messages : Messages) (ledger : Ledger) (request : DurableMessageRequest) : Nat :=
  (messages.pending.filterMap requestOf).count request +
    (messages.failed.map (·.request)).count request + ledger.accepted.count request +
    ledger.discarded.count request

def Action.sinkless : Action J W → Prop
  | .stepEnd hook ambient _ => hook.durableSink.or ambient = none
  | _ => False

def Action.concerns (json : JsonReader U J) (messages : Messages) (id : String) :
    Action J W → Prop
  | .send messageId _ _ => id = messageId
  | .stepEnd .. => id ∈ messages.pending.map (·.id)
  | .recover args _ =>
    recoverAction json args ≠ "list" ∧ id ∈ messages.failed.map (·.request.messageId)
  | .interrupted .. | .restart => False

/-- A message leaves the outbox unaccepted only after its last attempt, or where no sink is. -/
def LeavesAtEnd (τ : Transition (Thread codecs) (Action J W)) : Prop :=
  ∀ request ∈ τ.pre.messages.pending.filterMap requestOf,
    request ∉ τ.post.messages.pending.filterMap requestOf →
    request ∈ τ.post.ledger.accepted ∨
      request ∈ τ.post.messages.failed.map (·.request) ∧
        (maxDurableAttempts ≤ τ.post.ledger.rejections request.messageId ∨ τ.label.sinkless)

/-- A step changes nothing of a message that it is not about, and the dispatch of a message leaves
of it what follows from its own entry and its own answer. -/
structure Apart (json : JsonReader U J) (τ : Transition (Thread codecs) (Action J W)) : Prop where
  others : ∀ id, ¬ τ.label.concerns json τ.pre.messages id →
    τ.post.messages.about id = τ.pre.messages.about id
  own : ∀ hook ambient world, τ.label = .stepEnd hook ambient world →
    ∀ entry ∈ τ.pre.messages.pending, ∃ answer,
      Answered.Asked (hook.durableSink.or ambient) (entry, answer) ∧
      (∀ call, Answered.call (entry, answer) = some call → call ∈ τ.pre.calls τ.label) ∧
      τ.post.messages.about entry.id =
        ((Answered.kept (entry, answer)).toList, (Answered.dead (entry, answer)).toList)

variable {json : JsonReader U J} {messages messages' : Messages} {ledger ledger' : Ledger}
  {calls : List Call} {action : Action J W} {answered : List Answered}

lemma Booked.places_eq_one (h : Booked messages ledger) {request : DurableMessageRequest}
    (hsent : request ∈ ledger.sent) : places messages ledger request = 1 := by
  have hcount := List.perm_iff_count.mp h.balance request
  rw [List.count_eq_one_of_mem (List.Nodup.of_map _ h.sentDistinct) hsent] at hcount
  simp only [List.count_append] at hcount
  exact hcount.symm

lemma Booked.about_dispatched (h : Booked messages ledger)
    (hentries : answered.map Prod.fst = messages.pending) {a : Answered} (ha : a ∈ answered) :
    Messages.about ⟨answered.filterMap Answered.kept,
        messages.failed ++ answered.filterMap Answered.dead⟩ a.1.id =
      (a.kept.toList, a.dead.toList) := by
  have hids : (answered.map (fun a => a.1.id)).Nodup := by
    rw [ids_eq hentries]
    exact (List.nodup_append.mp h.distinct).1
  have hold : messages.failed.filter (fun failed => failed.request.messageId = a.1.id) = [] := by
    refine List.filter_eq_nil_iff.mpr (fun failed hfailed => ?_)
    have hmem : a.1.id ∈ messages.pending.map (·.id) :=
      ids_eq hentries ▸ List.mem_map_of_mem (f := fun a => a.1.id) ha
    have hne := (List.nodup_append.mp h.distinct).2.2 _ hmem _
      (List.mem_map_of_mem (f := fun failed => failed.request.messageId) hfailed)
    simpa using hne.symm
  rw [Messages.about, List.filter_append, hold, List.nil_append,
    filter_filterMap_key (keepsKey_kept answered) hids ha,
    filter_filterMap_key (h.keepsKey_dead hentries) hids ha]

lemma Booked.about_untouched (h : Booked messages ledger)
    (hentries : answered.map Prod.fst = messages.pending) {id : String}
    (hid : id ∉ messages.pending.map (·.id)) :
    Messages.about ⟨answered.filterMap Answered.kept,
        messages.failed ++ answered.filterMap Answered.dead⟩ id = messages.about id := by
  have hkept : (answered.filterMap Answered.kept).filter (fun entry => entry.id = id) = [] := by
    refine List.filter_eq_nil_iff.mpr (fun entry hentry => ?_)
    have hmem := (keepsKey_kept answered).mem (List.mem_map_of_mem hentry)
    rw [ids_eq hentries] at hmem
    have hne : entry.id ≠ id := fun heq => hid (heq ▸ hmem)
    simpa using hne
  have hdead : (answered.filterMap Answered.dead).filter
      (fun failed => failed.request.messageId = id) = [] := by
    refine List.filter_eq_nil_iff.mpr (fun failed hfailed => ?_)
    have hmem := (h.keepsKey_dead hentries).mem (List.mem_map_of_mem hfailed)
    rw [ids_eq hentries] at hmem
    have hne : failed.request.messageId ≠ id := fun heq => hid (heq ▸ hmem)
    simpa using hne
  have hpending : messages.pending.filter (fun entry => entry.id = id) = [] := by
    refine List.filter_eq_nil_iff.mpr (fun entry hentry => ?_)
    have hne : entry.id ≠ id := fun heq => hid (heq ▸ List.mem_map_of_mem hentry)
    simpa using hne
  rw [Messages.about, Messages.about, List.filter_append, hkept, hdead, hpending, List.append_nil]

lemma Moves.others (h : Moves json messages ledger calls action messages' ledger')
    (hb : Booked messages ledger) {id : String} (hid : ¬ action.concerns json messages id) :
    messages'.about id = messages.about id := by
  cases h with
  | listed | restarted | lost => rfl
  | sent entry fresh own keyed =>
    cases entry with
    | none => simp [Messages.about]
    | some e =>
      have hne : e.id ≠ id := fun heq => hid (heq.symm.trans (own e rfl).1)
      simp [Messages.about, hne]
  | delivered answered entries asked all => exact hb.about_untouched entries hid
  | replayed replay =>
    have hfailed : id ∉ messages.failed.map (·.request.messageId) :=
      fun hmem => hid ⟨by rw [replay]; decide, hmem⟩
    have hnone : messages.failed.filter (fun failed => failed.request.messageId = id) = [] := by
      refine List.filter_eq_nil_iff.mpr (fun failed hmem => ?_)
      have hne : failed.request.messageId ≠ id :=
        fun heq => hfailed (heq ▸ List.mem_map_of_mem hmem)
      simpa using hne
    have hnew : (messages.failed.map Booked.replayed).filter (fun entry => entry.id = id) = [] := by
      rw [List.filter_map]
      exact List.map_eq_nil_iff.mpr hnone
    rw [Messages.about, Messages.about, List.filter_append, hnew, hnone, List.append_nil]
    rfl
  | cleared clear =>
    have hnone : messages.failed.filter (fun failed => failed.request.messageId = id) = [] := by
      refine List.filter_eq_nil_iff.mpr (fun failed hmem => ?_)
      have hne : failed.request.messageId ≠ id := fun heq =>
        hid ⟨by rw [clear]; decide, heq ▸ List.mem_map_of_mem hmem⟩
      simpa using hne
    rw [Messages.about, Messages.about, hnone]
    rfl

lemma Booked.dispatched_away (h : Booked messages ledger)
    (hentries : answered.map Prod.fst = messages.pending) {a : Answered} (ha : a ∈ answered)
    {sink : Option (DurableMessageSink W)} (hasked : Answered.Asked sink a)
    {request : DurableMessageRequest} (hrequest : requestOf a.1 = some request)
    (hkept : a.kept = none) :
    request ∈ (answered.filterMap Answered.call).filterMap acceptedOf ∨
      request ∈ (answered.filterMap Answered.dead).map (·.request) ∧
        (maxDurableAttempts ≤ (ledger.deliver (answered.filterMap Answered.call)).rejections
          request.messageId ∨ sink = none) := by
  have hmem : a.1 ∈ messages.pending := hentries ▸ List.mem_map_of_mem ha
  have hbudget := (h.budget a.1 hmem).2 (by rw [hrequest]; rfl)
  have hid := h.keyed a.1 hmem request hrequest
  obtain ⟨⟨id, route, attempts⟩, answer⟩ := a
  cases route with
  | childInbox => cases hrequest
  | durable other =>
    obtain rfl := Option.some.inj hrequest
    cases answer with
    | none =>
      refine .inr ⟨List.mem_map.mpr ⟨_, List.mem_filterMap.mpr ⟨_, ha, rfl⟩, rfl⟩, .inr ?_⟩
      cases sink with
      | none => rfl
      | some send => cases hasked
    | some answer =>
      have hcall : (other, answer) ∈ answered.filterMap Answered.call :=
        List.mem_filterMap.mpr ⟨_, ha, rfl⟩
      cases answer with
      | ok dispatchId => exact .inl (List.mem_filterMap.mpr ⟨_, hcall, rfl⟩)
      | error error =>
        have hlast : ¬ attempts + 1 < maxDurableAttempts := fun hretry => by
          simp [Answered.kept, hretry] at hkept
        refine .inr ⟨List.mem_map.mpr ⟨⟨other, error⟩, List.mem_filterMap.mpr ⟨_, ha, ?_⟩, rfl⟩,
          .inl ?_⟩
        · simp [Answered.dead, hlast]
        · have hcount : 0 < (answered.filterMap Answered.call).countP (rejects other.messageId) :=
            List.countP_pos_iff.mpr ⟨_, hcall, by simp [rejects]⟩
          change maxDurableAttempts ≤ ledger.rejections other.messageId +
            (answered.filterMap Answered.call).countP (rejects other.messageId)
          rw [hid] at hcount ⊢
          change attempts ≤ ledger.rejections id at hbudget
          change 0 < (answered.filterMap Answered.call).countP (rejects id) at hcount
          change _ ≤ ledger.rejections id + (answered.filterMap Answered.call).countP (rejects id)
          omega

lemma kept_request {a : Answered} {entry : OutboxEntry} (hkept : a.kept = some entry) :
    requestOf entry = requestOf a.1 := by
  rw [requestOf, requestOf, (Answered.kept_id hkept).2.1]

lemma Moves.leaves (h : Moves json messages ledger calls action messages' ledger')
    (hb : Booked messages ledger) {request : DurableMessageRequest}
    (hin : request ∈ messages.pending.filterMap requestOf)
    (hout : request ∉ messages'.pending.filterMap requestOf) :
    request ∈ ledger'.accepted ∨ request ∈ messages'.failed.map (·.request) ∧
      (maxDurableAttempts ≤ ledger'.rejections request.messageId ∨ action.sinkless) := by
  cases h with
  | listed | restarted | lost | cleared => exact absurd hin hout
  | sent | replayed =>
    rw [List.filterMap_append] at hout
    exact absurd (List.mem_append_left _ hin) hout
  | delivered answered entries asked all =>
    obtain ⟨entry, hentry, hrequest⟩ := List.mem_filterMap.mp hin
    rw [← entries] at hentry
    obtain ⟨a, ha, rfl⟩ := List.mem_map.mp hentry
    have hkept : Answered.kept a = none := by
      refine Option.eq_none_iff_forall_ne_some.mpr (fun kept hkept => hout ?_)
      exact List.mem_filterMap.mpr ⟨kept, List.mem_filterMap.mpr ⟨a, ha, hkept⟩,
        (kept_request hkept).trans hrequest⟩
    rcases hb.dispatched_away entries ha (asked a ha) hrequest hkept with hok | ⟨hdead, hwhy⟩
    · exact .inl (List.mem_append_right _ (all ▸ hok))
    · refine .inr ⟨?_, ?_⟩
      · rw [List.map_append]
        exact List.mem_append_right _ hdead
      · rw [all]
        exact hwhy

lemma Step.apart {τ : Transition (Thread codecs) (Action J W)}
    (hmoves : Moves json τ.pre.messages τ.pre.ledger (τ.pre.calls τ.label) τ.label τ.post.messages
      τ.post.ledger) (hb : Booked τ.pre.messages τ.pre.ledger) : Apart json τ := by
  refine ⟨fun id hid => hmoves.others hb hid, fun hook ambient world hlabel entry hentry => ?_⟩
  obtain ⟨pre, label, post⟩ := τ
  subst hlabel
  change Moves json pre.messages _ _ _ post.messages _ at hmoves
  generalize hpost : post.messages = messages' at hmoves ⊢
  generalize post.ledger = ledger' at hmoves
  cases hmoves with
  | delivered answered entries asked all =>
    rw [← entries] at hentry
    obtain ⟨a, ha, rfl⟩ := List.mem_map.mp hentry
    refine ⟨a.2, asked a ha, fun call hcall => ?_, hb.about_dispatched entries ha⟩
    rw [all]
    exact List.mem_filterMap.mpr ⟨a, ha, hcall⟩

end Conservation

/-- In every state that a run reaches, each durable message that was sent is in one place only: in
the outbox once, among the dead letters once, accepted and removed, or cleared. -/
theorem messages_conserved (json : JsonReader U J) (houtbox : codecs.messageOutbox.RoundTrips)
    (hfailed : codecs.failedDurableMessages.RoundTrips)
    {tr : List (Transition (Thread codecs) (Action J W))} {thread : Thread codecs}
    (h : Run (Step json) (Thread.start codecs) tr thread) :
    (∀ request ∈ thread.ledger.sent, places thread.messages thread.ledger request = 1) ∧
      ∀ τ ∈ tr, LeavesAtEnd τ ∧ Apart json τ := by
  obtain ⟨hlast, hall⟩ := Run.invariant (I := Sound) (C := fun _ => True)
    (fun _ hstep _ hs => Step.sound houtbox hfailed hstep hs) h (fun _ _ => trivial) start_sound
  refine ⟨fun request hsent => hlast.booked.places_eq_one hsent, fun τ hτ => ?_⟩
  have hpre := (hall τ hτ).1
  have hmoves := (h.step_of_mem hτ).moves houtbox hfailed hpre.registry hpre.booked
  exact ⟨fun request hin hout => hmoves.leaves hpre.booked hin hout,
    Step.apart hmoves hpre.booked⟩

section Greeting

inductive Doc where
  | null
  | text (value : String)
  | fields (entries : List (String × Doc))
  | outbox (value : MessageOutbox)
  | failed (value : FailedDurableMessageState)

def docJson : JsonReader Unit Doc where
  null := .null
  bool _ := .null
  string := .text
  object := .fields
  render _ := ""
  array _ := .null
  natural _ := .null
  usage _ := .null
  asObject
    | .fields entries => some entries
    | _ => none
  asString
    | .text value => some value
    | _ => none
  asBool _ := none

def unwritten {V : Type} (key : String) : Codec Doc V :=
  ⟨fun _ => .error (.keyEncode key "unwritten"), fun _ => .error (.keyDecode key "unwritten")⟩

def docCodecs : BackgroundCodecs Doc where
  tasks := unwritten "background_task_state"
  messageOutbox := ⟨fun value => .ok (.outbox value), fun
    | .outbox value => .ok value
    | _ => .error (.keyDecode "background_message_outbox" "not an outbox")⟩
  failedDurableMessages := ⟨fun value => .ok (.failed value), fun
    | .failed value => .ok value
    | _ => .error (.keyDecode "background_failed_durable_messages" "not a list")⟩
  pendingWork := unwritten "__runtime.pending_work"

def helloArgs (threadId : String) : Doc :=
  .fields [("to", .fields [("relation", .text "agent"), ("thread_id", .text threadId)]),
    ("message", .text "hello")]

def hello (messageId threadId : String) : DurableMessageRequest :=
  ⟨messageId, threadId, none, "agent", "hello"⟩

def greeter : Caller := ⟨"t1", "agent", none⟩

def answering (answer : Option (Except String String)) : MessageDispatchHook Unit :=
  ⟨fun _ _ _ _ world => (.ok (), world), answer.map (fun answer _ world => (answer, world))⟩

def greetingActions : List (Action Doc Unit) :=
  [.send "m1" (helloArgs "t2") greeter, .stepEnd (answering none) none (),
    .recover (.fields [("action", .text "replay")]) greeter,
    .stepEnd (answering (some (.error "down"))) none (),
    .stepEnd (answering (some (.ok "d1"))) none (), .send "m2" (helloArgs "t3") greeter]

theorem messages_conserved_greeting : ∃ thread,
    greetingActions.foldlM (Thread.perform docJson) (Thread.start docCodecs) = some thread ∧
      thread.ledger.sent = [hello "m1" "t2", hello "m2" "t3"] ∧
      thread.ledger.accepted = [hello "m1" "t2"] ∧ thread.ledger.rejections "m1" = 1 ∧
      thread.messages.pending = [⟨"m2", .durable (hello "m2" "t3"), 0⟩] ∧
      ∀ request ∈ thread.ledger.sent, places thread.messages thread.ledger request = 1 := by
  refine ⟨_, rfl, rfl, rfl, rfl, rfl, ?_⟩
  obtain ⟨tr, hrun⟩ := @run_perform Doc Unit Unit docCodecs docJson (Thread.start docCodecs) _
    greetingActions rfl
  exact (messages_conserved docJson (fun _ _ h => by cases h; rfl) (fun _ _ h => by cases h; rfl)
    hrun).1

end Greeting

end Awaken.Background
