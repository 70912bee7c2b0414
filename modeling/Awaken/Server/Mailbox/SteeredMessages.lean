import Awaken.Server.Mailbox.Steering

namespace Awaken.Server.Mailbox

open Awaken.Lib Awaken.Lib.Text Awaken.Contract Awaken.Contract.Storage Awaken.Contract.Lifecycle
open Awaken.Contract.MessageAppend Awaken.Contract.Mailbox Awaken.LoopRunner
open Awaken.Stores.MemoryStore Awaken.Stores.MemoryStore.InMemoryStore

variable {J C : Type}

section Queued

def Queued (mode : DeliveryMode) (v : ThreadView J C) (id : String) : Prop :=
  id ∈ messageIds v.committed ∨
    ∃ entry ∈ v.pending, entry.message.id = some id ∧ entry.deliveryMode = mode

variable {mode : DeliveryMode} {v v' : ThreadView J C} {id : String} {s s' : InMemoryStore J C}
  {threadId : String}

lemma Queued.append (h : Queued mode v id) {delta : List (Message J C)}
    {records : List (PendingMessageRecord J C)} :
    Queued mode ⟨v.pending ++ records, v.committed ++ delta⟩ id := by
  rcases h with hcommitted | ⟨entry, hmem, hentry⟩
  · refine .inl ?_
    rw [messageIds, List.filterMap_append]
    exact List.mem_append_left _ hcommitted
  · exact .inr ⟨entry, List.mem_append_left _ hmem, hentry⟩

lemma Queued.accepts {records : List (PendingMessageRecord J C)} (h : Queued mode v id)
    (ha : Accepts v records v') : Queued mode v' id := by
  have happend : Queued mode ⟨v.pending ++ records, v.committed ++ []⟩ id := h.append
  rwa [List.append_nil, ← ha.pending, ← ha.committed] at happend

lemma mem_normalize {pending : List (PendingMessageRecord J C)} {entry : PendingMessageRecord J C}
    (h : entry ∈ pending) : ∃ numbered ∈ normalizePendingPositions pending,
      numbered.message = entry.message ∧ numbered.deliveryMode = entry.deliveryMode := by
  obtain ⟨index, hindex, rfl⟩ := List.mem_iff_getElem.mp h
  refine ⟨{ pending[index] with position := 0 + index + 1 }, ?_, rfl, rfl⟩
  exact List.mem_mapIdx.mpr ⟨index, hindex, rfl⟩

lemma Queued.freezes {indexes : List Nat} (h : Queued mode v id) (hf : Freezes v indexes v') :
    Queued mode v' id := by
  have hsplit := picked_append_unpicked hf.increasing hf.bounded
  rcases h with hcommitted | ⟨entry, hmem, hid, hmode⟩
  · refine .inl ?_
    rw [hf.committed, messageIds, List.filterMap_append]
    exact List.mem_append_left _ hcommitted
  · rcases List.mem_append.mp (hsplit.mem_iff.mpr hmem) with hpicked | hleft
    · refine .inl ?_
      rw [hf.committed, messageIds, List.filterMap_append]
      exact List.mem_append_right _ (List.mem_filterMap.mpr ⟨entry.message, List.mem_map_of_mem hpicked, hid⟩)
    · obtain ⟨numbered, hnumbered, hmessage, hsame⟩ := mem_normalize hleft
      refine .inr ⟨numbered, hf.pending ▸ hnumbered, ?_, ?_⟩
      · rw [hmessage, hid]
      · rw [hsame, hmode]

lemma Queued.freezesOnly {gen : Nat → String} {boundary : DeliveryBoundary}
    {currentRunId : Option String} {reply : Reply J C (List (MessageRecord J C))}
    (h : Queued mode (s.view threadId) id)
    (hf : FreezesOnly gen threadId boundary currentRunId s reply) :
    Queued mode (reply.2.view threadId) id := by
  obtain ⟨result, s'⟩ := reply
  obtain ⟨hresult, -⟩ := hf
  cases result with
  | error e =>
    dsimp only at hresult
    rwa [hresult]
  | ok records => exact h.freezes hresult.2

lemma Queued.commitsOnly {messages : List (Message J C)} (h : Queued mode (s.view threadId) id)
    (hc : CommitsOnly threadId messages s s') : Queued mode (s'.view threadId) id := by
  rcases hc.1 with hview | ⟨-, hview⟩
  · rwa [hview]
  · have happend : Queued mode ⟨s.pending threadId ++ [], s.committed threadId ++ messages⟩ id :=
      h.append
    rwa [List.append_nil, ← hview] at happend

lemma Queued.appendPending (h : Queued mode (s.view threadId) id) (draw : Draw)
    (messages : List (Message J C)) (appendMode : DeliveryMode) :
    Queued mode ((s.appendPendingMessageRecords draw.gen draw.now threadId messages
      appendMode).2.view threadId) id := by
  rcases hreply : s.appendPendingMessageRecords draw.gen draw.now threadId messages appendMode with
    ⟨result, s'⟩
  cases result with
  | error e =>
    rw [appendPending_error hreply, view_touchPending]
    exact h
  | ok records => exact h.accepts (appendPending_ok hreply).2.1

lemma queued_appendPending {gen : Nat → String} {now : Nat} {messages : List (Message J C)}
    {records : List (PendingMessageRecord J C)}
    (h : s.appendPendingMessageRecords gen now threadId messages mode = (.ok records, s'))
    (hid : id ∈ messageIds messages) : Queued mode (s'.view threadId) id := by
  obtain ⟨hrecords, haccepts, -⟩ := appendPending_ok h
  obtain ⟨message, hmem, hmessage⟩ := List.mem_filterMap.mp hid
  obtain ⟨index, hindex, rfl⟩ := List.mem_iff_getElem.mp hmem
  have hnew : ∃ record ∈ newPendingRecords gen (now / 1000) threadId
      ((s.pending threadId).length + 1) mode messages,
      record.message.id = some id ∧ record.deliveryMode = mode := by
    refine ⟨_, List.mem_mapIdx.mpr ⟨index, hindex, rfl⟩, ?_, rfl⟩
    change some (messages[index].id.getD (gen index)) = some id
    rw [hmessage, Option.getD_some]
  obtain ⟨record, hrecord, hqueued⟩ := hnew
  refine .inr ⟨record, ?_, hqueued⟩
  rw [haccepts.pending, hrecords]
  exact List.mem_append_right _ hrecord

lemma Queued.freezePending (h : Queued mode (s.view threadId) id) (gen : Nat → String)
    (boundary : DeliveryBoundary) (expected : Option Nat) :
    Queued mode ((s.freezePendingMessageRecords gen threadId boundary expected).2.view threadId)
      id := by
  have htouched : Queued mode ((s.touchMessages threadId).view threadId) id := by
    rwa [view_touchMessages]
  unfold freezePendingMessageRecords
  dsimp only
  split
  · exact htouched
  · split
    · exact htouched
    · rename_i pending hget
      have hpending : (s.touchMessages threadId).pending threadId = pending := by
        rw [InMemoryStore.pending, hget, Option.getD_some]
      split
      · exact htouched
      · rw [← hpending]
        exact htouched.freezesOnly (freezeSelected_freezes _ gen threadId boundary none)

variable [DecidableEq J]

lemma Queued.appendAndFreeze (h : Queued mode (s.view threadId) id) (draw : Draw)
    (messages : List (Message J C)) (appendMode : DeliveryMode) (boundary : DeliveryBoundary)
    (expected : Option Nat) (ids : List String) (run : RunRecord J) :
    Queued mode ((s.appendAndFreezePendingMessageRecordsWithRun draw.gen draw.now threadId messages
      appendMode boundary expected ids run).2.view threadId) id := by
  unfold appendAndFreezePendingMessageRecordsWithRun
  split
  · exact h
  · have happend := h.appendPending draw messages appendMode
    split
    · rename_i heq
      rwa [heq] at happend
    · rename_i s₁ heq
      rw [heq] at happend
      exact happend.freezesOnly
        (freezeExpected_freezes s₁ draw.gen draw.now threadId boundary ids run)

lemma Queued.others {call : StoreCall J C} (h : Queued mode (s.view threadId) id)
    (htakes : TakesNothing threadId call) (hstep : StoreStep s call s') :
    Queued mode (s'.view threadId) id := by
  obtain ⟨draw, rfl⟩ := hstep
  by_cases hcall : call.threadId = some threadId
  · have hallowed := htakes hcall
    cases call with
    | appendMessageRecords id messages =>
      cases hcall
      exact h.commitsOnly (appendMessageRecords_commits s draw.gen threadId messages)
    | checkpointAppend id messages expected run =>
      cases hcall
      exact h.commitsOnly (checkpointAppend_commits s draw.now threadId messages expected run)
    | appendPending id messages appendMode =>
      cases hcall
      exact h.appendPending draw messages appendMode
    | freezePending id boundary expected =>
      cases hcall
      exact h.freezePending draw.gen boundary expected
    | freezePendingWithRun id boundary expected ids run =>
      cases hcall
      exact h.freezesOnly
        (freezePendingWithRun_freezes s draw.gen draw.now threadId boundary expected ids run)
    | appendAndFreezePendingWithRun id messages appendMode boundary expected ids run =>
      cases hcall
      exact h.appendAndFreeze draw messages appendMode boundary expected ids run
    | _ => exact hallowed.elim
  · rwa [exec_elsewhere draw s call hcall]

end Queued

section Preparation

/-- Messages in the mode are for the run, or fall back to a new one. -/
def Reaches (mode : DeliveryMode) (runId : String) : Prop :=
  mode.fallbackToNewRun = true ∨ mode.targetRunId = some runId

lemma reaches_deliveryModeForDispatch (boundary : DeliveryBoundary) (runId : String) :
    Reaches (deliveryModeForDispatch boundary runId) runId := by
  cases boundary with
  | resumeInput => exact .inr rfl
  | _ => exact .inl rfl

def Delivered (store : InMemoryStore J C) (threadId : String) (messages : List (Message J C))
    (runId : String) : Prop :=
  ∃ mode, Reaches mode runId ∧ ∀ id ∈ messageIds messages, Queued mode (store.view threadId) id

def Prepares (threadId runId : String) (result : Option (CallResult J C)) : Prop :=
  ∃ request, result = some (.prepared request threadId runId)

def CallPhase.Carries (store : InMemoryStore J C) (threadId : String)
    (messages : List (Message J C)) : CallPhase J C → Prop
  | .routing call | .opening call _ | .reusing call | .preceding call =>
    call.threadId = threadId ∧ call.messages = messages
  | .loading call => call.threadId = threadId ∧ call.messages = messages
  | .marking _ => False
  | .freezing _ job result | .selecting _ job result _ | .consuming _ job result _ =>
    job.threadId = threadId ∧ ∃ mode runId, job.append = some (messages, mode) ∧
      Reaches mode runId ∧ Prepares threadId runId result
  | .appending _ job | .committing _ job _ =>
    job.threadId = threadId ∧ job.delta = messages ∧ ∃ runId, Prepares threadId runId (some job.result)
  | .returned (.ok result) =>
    ∃ runId, Prepares threadId runId (some result) ∧ Delivered store threadId messages runId
  | .returned (.error _) => True

def Named (messages : List (Message J C)) : Prop :=
  ∀ message ∈ messages, message.id.all (·.isEmpty) = false

lemma named_normalize {gen : Nat → String} (hgen : ∀ index, (gen index).isEmpty = false)
    (messages : List (Message J C)) : Named (normalizeMessageIds gen messages) := by
  intro message hmem
  obtain ⟨index, hindex, rfl⟩ := List.mem_mapIdx.mp hmem
  split
  · exact hgen index
  · rename_i hnamed
    exact Bool.not_eq_true _ ▸ hnamed

lemma Named.normalize {messages : List (Message J C)} (h : Named messages) (gen : Nat → String) :
    normalizeMessageIds gen messages = messages := by
  refine List.ext_getElem (by simp [normalizeMessageIds]) fun index h₁ h₂ => ?_
  have hnamed := h _ (List.getElem_mem h₂)
  simp [normalizeMessageIds, hnamed]

variable {store store' : InMemoryStore J C} {threadId : String} {messages : List (Message J C)}
  {env : Env J C} {phase phase' : CallPhase J C} {message : String → J}

lemma carries_prepareRun {call : PreparedCall J C} (hthread : call.threadId = threadId)
    (hmessages : call.messages = messages) (request : RunActivation J C) (record : RunRecord J)
    (resolutionId : String) :
    (CallPhase.prepareRun true call request record resolutionId).Carries store threadId messages := by
  subst hthread hmessages
  unfold CallPhase.prepareRun
  dsimp only
  split
  · rename_i boundary _
    exact ⟨rfl, _, call.runId, rfl, reaches_deliveryModeForDispatch boundary call.runId, request, rfl⟩
  · exact ⟨rfl, rfl, call.runId, request, rfl⟩

variable [DecidableEq J]

lemma FreezeJob.storeStep (job : FreezeJob J C) (store : InMemoryStore J C) (gen : Nat → String)
    (now : Nat) (plan : FreezePlan) :
    ∃ call, StoreStep store call (job.commit store gen now plan).2 := by
  unfold FreezeJob.commit
  split
  · exact ⟨.appendAndFreezePendingWithRun .., ⟨now, gen⟩, rfl⟩
  · exact ⟨.freezePendingWithRun .., ⟨now, gen⟩, rfl⟩

lemma commitCheckpoint_cases {now : Nat} {plan : ThreadCommit J C}
    {result : Except CommitError Unit} (h : commitCheckpoint store now plan = (result, store')) :
    (store' = store ∨ ∃ call, StoreStep store call store') ∧
      (result = .ok () → store'.committed plan.threadId =
        store.committed plan.threadId ++ plan.messageDelta) := by
  unfold commitCheckpoint at h
  split at h
  · obtain ⟨rfl, rfl⟩ := Prod.mk.inj h
    exact ⟨.inl rfl, fun hok => by cases hok⟩
  · have hstep : StoreStep store (.checkpointAppend plan.threadId plan.messageDelta
        plan.expectedMessageCount plan.runProjection) (store.checkpointAppend now plan.threadId
          plan.messageDelta plan.expectedMessageCount plan.runProjection).2 :=
      ⟨⟨now, fun _ => ""⟩, rfl⟩
    split at h
    · rename_i happend
      obtain ⟨rfl, rfl⟩ := Prod.mk.inj h
      rw [happend] at hstep
      exact ⟨.inr ⟨_, hstep⟩, fun hok => by cases hok⟩
    · rename_i happend
      obtain ⟨rfl, rfl⟩ := Prod.mk.inj h
      rw [happend] at hstep
      exact ⟨.inr ⟨_, hstep⟩, fun _ => (checkpointAppend_ok happend).committed⟩

lemma FreezeJob.delivers {job : FreezeJob J C} {mode : DeliveryMode} {gen : Nat → String} {now : Nat}
    {plan : FreezePlan} {records : List (MessageRecord J C)} {runId : String}
    (h : job.commit store gen now plan = (.ok records, store'))
    (happend : job.append = some (messages, mode)) (hmode : Reaches mode runId) :
    Delivered store' job.threadId messages runId := by
  unfold FreezeJob.commit at h
  rw [happend] at h
  have h₁ : store.appendAndFreezePendingMessageRecordsWithRun (Draw.mk now gen).gen
      (Draw.mk now gen).now job.threadId messages mode job.boundary (some plan.expectedVersion)
      plan.selectedPendingIds (job.attemptRecord plan) = (.ok records, store') := h
  obtain ⟨s₁, added, hadded, hfreezes⟩ := appendAndFreeze_ok h₁
  refine ⟨mode, hmode, fun id hid => ?_⟩
  exact (queued_appendPending hadded hid).freezesOnly hfreezes

theorem Carries.advance (hnamed : Named messages)
    (h : phase.advance true message env store = (store', phase'))
    (hc : phase.Carries store threadId messages) :
    (store' = store ∨ ∃ call, StoreStep store call store') ∧
      phase'.Carries store' threadId messages := by
  have quiet : ∀ next : CallPhase J C, (store, next) = (store', phase') →
      next.Carries store threadId messages → (store' = store ∨ ∃ call, StoreStep store call store') ∧
        phase'.Carries store' threadId messages := by
    intro next heq hnext
    obtain ⟨rfl, rfl⟩ := Prod.mk.inj heq
    exact ⟨.inl rfl, hnext⟩
  cases phase with
  | routing call =>
    rw [CallPhase.advance] at h
    split at h
    · exact quiet _ h hc
    · split at h
      · exact quiet _ h hc
      · exact quiet _ h hc
  | opening call openRunId =>
    rw [CallPhase.advance] at h
    split at h
    · split at h
      · exact quiet _ h hc
      · exact quiet _ h hc
    · exact quiet _ h hc
  | reusing call =>
    rw [CallPhase.advance] at h
    split at h
    · split at h
      · exact quiet _ h hc
      · exact quiet _ h hc
    · exact quiet _ h hc
  | preceding call =>
    rw [CallPhase.advance] at h
    refine quiet _ h ⟨hc.1, ?_⟩
    change normalizeMessageIds env.gen call.messages = messages
    rw [hc.2, hnamed.normalize]
  | loading call =>
    rw [CallPhase.advance] at h
    split at h
    · exact quiet _ h trivial
    · exact quiet _ h (carries_prepareRun hc.1 hc.2 _ _ _)
  | marking mark => exact hc.elim
  | freezing attempts job result =>
    cases attempts with
    | zero =>
      rw [CallPhase.advance] at h
      exact quiet _ h trivial
    | succ attempts =>
      rw [CallPhase.advance] at h
      split at h
      · exact quiet _ h trivial
      · exact quiet _ h hc
  | selecting attempts job result committed =>
    rw [CallPhase.advance] at h
    split at h
    · exact quiet _ h trivial
    · split at h
      · exact quiet _ h trivial
      · obtain ⟨-, _, _, -, -, _, rfl⟩ := hc
        exact quiet _ h trivial
      · exact quiet _ h hc
  | consuming attempts job result plan =>
    rw [CallPhase.advance] at h
    have hstep := job.storeStep store env.gen env.now plan
    split at h
    · rename_i hcommit
      obtain ⟨rfl, rfl⟩ := Prod.mk.inj h
      rw [hcommit] at hstep
      obtain ⟨hthread, mode, runId, happend, hmode, request, rfl⟩ := hc
      exact ⟨.inr hstep, runId, ⟨request, rfl⟩, hthread ▸ FreezeJob.delivers hcommit happend hmode⟩
    · rename_i hcommit
      rw [hcommit] at hstep
      split at h
      · obtain ⟨rfl, rfl⟩ := Prod.mk.inj h
        exact ⟨.inr hstep, hc⟩
      · obtain ⟨rfl, rfl⟩ := Prod.mk.inj h
        exact ⟨.inr hstep, trivial⟩
  | appending attempts job =>
    cases attempts with
    | zero =>
      rw [CallPhase.advance] at h
      exact quiet _ h trivial
    | succ attempts =>
      rw [CallPhase.advance] at h
      split at h
      · exact quiet _ h trivial
      · exact quiet _ h hc
  | committing attempts job committed =>
    rw [CallPhase.advance] at h
    split at h
    · rename_i hcommit
      obtain ⟨rfl, rfl⟩ := Prod.mk.inj h
      obtain ⟨hstep, hcommitted⟩ := commitCheckpoint_cases hcommit
      obtain ⟨rfl, rfl, runId, hprepares⟩ := hc
      refine ⟨hstep, runId, hprepares, steerMode runId, .inr rfl, fun id hid => .inl ?_⟩
      refine (congrArg messageIds (hcommitted rfl)).symm ▸ ?_
      rw [messageIds, List.filterMap_append]
      exact List.mem_append_right _ hid
    · rename_i hcommit
      have hstep := (commitCheckpoint_cases hcommit).1
      split at h
      · obtain ⟨rfl, rfl⟩ := Prod.mk.inj h
        exact ⟨hstep, hc⟩
      · obtain ⟨rfl, rfl⟩ := Prod.mk.inj h
        exact ⟨hstep, trivial⟩
  | returned result =>
    rw [CallPhase.advance] at h
    exact quiet _ h hc

end Preparation

section Run

variable {message : String → J} {store : InMemoryStore J C}

def Held (store : InMemoryStore J C) (threadId id : String) : Prop :=
  id ∈ messageIds (store.committed threadId) ∨
    ∃ entry ∈ store.pending threadId, entry.message.id = some id ∧
      (entry.deliveryMode.fallbackToNewRun = true ∨
        ∃ runId, entry.deliveryMode.targetRunId = some runId ∧ ¬ Finished store runId)

/-- No message is committed twice, and where the step returns a run, every message is held. -/
def Steers (τ : Transition (SteerWorld J C) (SteerLabel J C)) : Prop :=
  (messageIds (τ.post.store.committed τ.post.threadId)).Nodup ∧
    ∀ env runId, τ.label = .advance env → τ.post.phase = .returned (.ok runId) →
      ∀ message ∈ τ.post.messages, ∃ id, message.id = some id ∧
        Held τ.post.store τ.post.threadId id

lemma Delivered.held {threadId runId : String} {messages : List (Message J C)}
    (h : Delivered store threadId messages runId)
    (hopen : ¬ Finished store runId ∨ ∀ id ∈ messageIds messages, id ∈ messageIds (store.committed threadId))
    {id : String} (hid : id ∈ messageIds messages) : Held store threadId id := by
  obtain ⟨mode, hmode, hqueued⟩ := h
  rcases hqueued id hid with hcommitted | ⟨entry, hmem, hentry, rfl⟩
  · exact .inl hcommitted
  · rcases hopen with hopen | hall
    · refine .inr ⟨entry, hmem, hentry, ?_⟩
      rcases hmode with hfallback | htarget
      · exact .inl hfallback
      · exact .inr ⟨runId, htarget, hopen⟩
    · exact .inl (hall id hid)

variable [DecidableEq J]

/-- The condition on a transition: a run that is answered to take the messages is open, or has
taken them all. -/
def AcceptedOpen (τ : Transition (SteerWorld J C) (SteerLabel J C)) : Prop :=
  ∀ env runId, τ.label = .advance env → τ.pre.accepted env = some runId →
    ¬ Finished τ.pre.store runId ∨ ∀ id ∈ messageIds τ.pre.messages,
      id ∈ messageIds (τ.pre.store.committed τ.pre.threadId)

def SteerPhase.Holds (store : InMemoryStore J C) (threadId : String)
    (messages : List (Message J C)) : SteerPhase J C → Prop
  | .waking _ runId _ => ∀ id ∈ messageIds messages,
      Queued (steerMode runId) (store.view threadId) id
  | .preparing call => call.Carries store threadId messages
  | .returned (.ok runId) => Delivered store threadId messages runId
  | _ => True

structure SteerWorld.Kept (w : SteerWorld J C) : Prop where
  logs : LogsValid w.store
  thread : trim w.threadId = w.threadId
  present : w.threadId.isEmpty = false
  named : Named w.messages
  holds : w.phase.Holds w.store w.threadId w.messages

variable {w : SteerWorld J C} {env : SteerEnv J C} {store' : InMemoryStore J C}

omit [DecidableEq J] in
lemma holds_fallBack (hw : w.Kept) (env : Env J C) (store : InMemoryStore J C) :
    (w.fallBack env).Holds store w.threadId w.messages := by
  unfold SteerWorld.fallBack
  split
  · exact trivial
  · rename_i call hsubmission
    obtain ⟨⟨threadId, messages⟩, hvalid, hcall⟩ := bind_eq_ok hsubmission
    obtain rfl := Except.ok.inj hcall
    have hsame : ∀ request : RunActivation J C, (request.normalizeMailboxRunMode true).intent =
        request.intent ∧ (request.normalizeMailboxRunMode true).messages = request.messages := by
      intro request
      unfold RunActivation.normalizeMailboxRunMode
      split <;> exact ⟨rfl, rfl⟩
    rw [(hsame _).1, (hsame _).2, validateRunInputs] at hvalid
    split at hvalid
    · cases hvalid
    · obtain ⟨rfl, rfl⟩ := Prod.mk.inj (Except.ok.inj hvalid)
      refine ⟨?_, rfl⟩
      change (if (trim w.threadId).isEmpty then _ else trim w.threadId) = w.threadId
      rw [hw.thread, hw.present, if_neg Bool.false_ne_true]

lemma Delivered.others {threadId runId : String} {messages : List (Message J C)}
    {call : StoreCall J C} (h : Delivered store threadId messages runId)
    (htakes : TakesNothing threadId call) (hstep : StoreStep store call store') :
    Delivered store' threadId messages runId := by
  obtain ⟨mode, hmode, hqueued⟩ := h
  exact ⟨mode, hmode, fun id hid => (hqueued id hid).others htakes hstep⟩

lemma Carries.others {threadId : String} {messages : List (Message J C)} {phase : CallPhase J C}
    {call : StoreCall J C} (h : phase.Carries store threadId messages)
    (htakes : TakesNothing threadId call) (hstep : StoreStep store call store') :
    phase.Carries store' threadId messages := by
  cases phase with
  | returned result =>
    cases result with
    | error e => exact trivial
    | ok result =>
      obtain ⟨runId, hprepares, hdelivered⟩ := h
      exact ⟨runId, hprepares, hdelivered.others htakes hstep⟩
  | _ => exact h

lemma kept_others {call : StoreCall J C} (hw : w.Kept) (htakes : TakesNothing w.threadId call)
    (hstep : StoreStep w.store call store') : ({ w with store := store' } : SteerWorld J C).Kept := by
  refine ⟨?_, hw.thread, hw.present, hw.named, ?_⟩
  · obtain ⟨draw, rfl⟩ := hstep
    exact hw.logs.change (logsChange_exec draw w.store call)
  · have hholds := hw.holds
    change w.phase.Holds store' w.threadId w.messages
    cases hphase : w.phase with
    | waking route runId pendingIds =>
      rw [hphase] at hholds
      exact fun id hid => (hholds id hid).others htakes hstep
    | preparing call =>
      rw [hphase] at hholds
      exact Carries.others hholds htakes hstep
    | returned result =>
      rw [hphase] at hholds
      cases result with
      | error e => exact trivial
      | ok runId => exact Delivered.others hholds htakes hstep
    | _ => exact trivial

structure SteerWorld.Follows (w w' : SteerWorld J C) : Prop where
  step : w'.store = w.store ∨ ∃ call, StoreStep w.store call w'.store
  threadId : w'.threadId = w.threadId
  messages : w'.messages = w.messages
  holds : w'.phase.Holds w'.store w.threadId w.messages

lemma follows_phase {phase : SteerPhase J C} (h : phase.Holds w.store w.threadId w.messages) :
    w.Follows { w with phase := phase } := ⟨.inl rfl, rfl, rfl, h⟩

lemma follows_preparing {call : CallPhase J C} (hw : w.Kept)
    (hphase : w.phase = .preparing call)
    (h : w.advance message env = { w with
      store := (call.advance true message env.env w.store).1
      phase := .preparing (call.advance true message env.env w.store).2 }) :
    w.Follows (w.advance message env) := by
  have hholds := hw.holds
  rw [hphase] at hholds
  rw [h]
  obtain ⟨hstep, hcarries⟩ := Carries.advance hw.named rfl hholds
  exact ⟨hstep, rfl, rfl, hcarries⟩

lemma follows_advance (hw : w.Kept) (message : String → J) (env : SteerEnv J C) : w.Follows (w.advance message env) := by
  obtain ⟨store, request, threadId, messages, phase⟩ := w
  have hholds := hw.holds
  have hfall := holds_fallBack hw env.env store
  cases phase with
  | choosing expectedRunId =>
    rw [SteerWorld.advance]
    dsimp only
    split
    · exact follows_phase hfall
    · split
      · split
        · exact follows_phase hfall
        · exact follows_phase trivial
      · exact follows_phase trivial
  | locating expectedRunId =>
    rw [SteerWorld.advance]
    dsimp only
    split
    · exact follows_phase hfall
    · split
      · exact follows_phase hfall
      · exact follows_phase trivial
  | delivering route runId =>
    have hstep : StoreStep store (.appendPending threadId (normalizeMessageIds env.env.gen messages)
        (steerMode runId)) (store.appendPendingMessageRecords env.env.gen env.env.now threadId
          (normalizeMessageIds env.env.gen messages) (steerMode runId)).2 :=
      ⟨⟨env.env.now, env.env.gen⟩, rfl⟩
    rw [SteerWorld.advance]
    dsimp only
    split
    · rename_i happend
      rw [happend] at hstep
      exact ⟨.inr ⟨_, hstep⟩, rfl, rfl, trivial⟩
    · rename_i happend
      rw [happend] at hstep
      refine ⟨.inr ⟨_, hstep⟩, rfl, rfl, fun id hid => queued_appendPending happend ?_⟩
      rwa [hw.named.normalize]
  | waking route runId pendingIds =>
    rw [SteerWorld.advance]
    dsimp only
    split
    · exact follows_phase trivial
    · exact follows_phase ⟨_, .inr rfl, hholds⟩
    · exact follows_phase trivial
  | cleaning pendingIds =>
    cases pendingIds with
    | nil => exact follows_phase hfall
    | cons pendingId pendingIds =>
      exact ⟨.inr ⟨.retractPending threadId pendingId none, ⟨0, fun _ => ""⟩, rfl⟩, rfl, rfl, trivial⟩
  | preparing call =>
    cases call with
    | returned result =>
      cases result with
      | error e => exact follows_phase trivial
      | ok result =>
        obtain ⟨runId, ⟨prepared, hresult⟩, hdelivered⟩ := hholds
        have hprepared : result = .prepared prepared threadId runId := Option.some.inj hresult
        subst hprepared
        rw [SteerWorld.advance]
        dsimp only
        split
        · exact follows_phase trivial
        · exact follows_phase hdelivered
    | _ => exact follows_preparing hw rfl rfl
  | returned result => exact follows_phase hholds

lemma kept_advance (hw : w.Kept) (env : SteerEnv J C) : (w.advance message env).Kept := by
  have hfollows := follows_advance hw message env
  refine ⟨?_, ?_, ?_, ?_, ?_⟩
  · rcases hfollows.step with hsame | ⟨call, draw, hcall⟩
    · rw [hsame]
      exact hw.logs
    · rw [← hcall]
      exact hw.logs.change (logsChange_exec draw w.store call)
  · rw [hfollows.threadId, hw.thread]
  · rw [hfollows.threadId, hw.present]
  · rw [hfollows.messages]
    exact hw.named
  · rw [hfollows.threadId, hfollows.messages]
    exact hfollows.holds

lemma advance_returned {runId : String} (hopen : ∀ result, w.phase ≠ .returned result)
    (h : (w.advance message env).phase = .returned (.ok runId)) :
    w.accepted env = some runId ∧ (w.advance message env).store = w.store := by
  obtain ⟨store, request, threadId, messages, phase⟩ := w
  have hfall : ∀ w : SteerWorld J C, w.fallBack env.env ≠ .returned (.ok runId) := by
    intro w
    unfold SteerWorld.fallBack
    split <;> exact fun h => by cases h
  cases phase with
  | choosing expectedRunId =>
    rw [SteerWorld.advance] at h
    dsimp only at h
    split at h
    · exact absurd h (hfall _)
    · split at h
      · split at h
        · exact absurd h (hfall _)
        · cases h
      · cases h
  | locating expectedRunId =>
    rw [SteerWorld.advance] at h
    dsimp only at h
    split at h
    · exact absurd h (hfall _)
    · split at h
      · exact absurd h (hfall _)
      · cases h
  | delivering route runId =>
    rw [SteerWorld.advance] at h
    dsimp only at h
    split at h
    · cases h
    · cases h
  | waking route runId pendingIds =>
    rw [SteerWorld.accepted, SteerWorld.advance] at *
    dsimp only at h ⊢
    split at h
    · cases h
    · rename_i hwake
      cases h
      rw [hwake]
      exact ⟨rfl, rfl⟩
    · cases h
  | cleaning pendingIds =>
    cases pendingIds with
    | nil => exact absurd h (hfall _)
    | cons pendingId pendingIds => cases h
  | preparing call =>
    cases call with
    | returned result =>
      cases result with
      | error e => cases h
      | ok result =>
        cases result with
        | prepared prepared threadId preparedRunId =>
          rw [SteerWorld.accepted, SteerWorld.advance] at *
          dsimp only at h ⊢
          split at h
          · cases h
          · rename_i henqueue
            cases h
            rw [henqueue]
            exact ⟨rfl, rfl⟩
        | marked changed => cases h
        | frozen records => cases h
    | _ => cases h
  | returned result => exact absurd rfl (hopen result)

lemma kept_step {w' : SteerWorld J C} {l : SteerLabel J C} (h : SteerStep message w l w')
    (hw : w.Kept) : w'.Kept := by
  cases h with
  | advance env hopen => exact kept_advance hw env
  | others htakes hcall => exact kept_others hw htakes hcall

lemma step_advance {w' : SteerWorld J C} (h : SteerStep message w (.advance env) w') :
    w' = w.advance message env ∧ ∀ result, w.phase ≠ .returned result := by
  cases h with
  | advance _ hopen => exact ⟨rfl, hopen⟩

lemma steers_step {τ : Transition (SteerWorld J C) (SteerLabel J C)}
    (h : SteerStep message τ.pre τ.label τ.post) (haccepted : AcceptedOpen τ) (hw : τ.pre.Kept) :
    Steers τ := by
  have hpost := kept_step h hw
  refine ⟨(validateCommittedMessages_ids (hpost.logs.committed τ.post.threadId)).2, ?_⟩
  intro env runId hlabel hphase
  obtain ⟨w, l, w'⟩ := τ
  obtain rfl : l = .advance env := hlabel
  obtain ⟨rfl, hopen⟩ : w' = w.advance message env ∧ _ := step_advance h
  obtain ⟨hanswer, hstore⟩ := advance_returned hopen hphase
  have hfollows := follows_advance hw message env
  have hdelivered : Delivered (w.advance message env).store (w.advance message env).threadId
      (w.advance message env).messages runId := by
    have hholds := hpost.holds
    rw [show (w.advance message env).phase = .returned (.ok runId) from hphase] at hholds
    exact hholds
  intro message hmem
  obtain ⟨id, hid⟩ : ∃ id, message.id = some id := by
    have hnamed := hpost.named message hmem
    cases hid : message.id with
    | none =>
      rw [hid] at hnamed
      cases hnamed
    | some id => exact ⟨id, rfl⟩
  refine ⟨id, hid, hdelivered.held ?_ (List.mem_filterMap.mpr ⟨message, hmem, hid⟩)⟩
  have hrun := haccepted env runId rfl hanswer
  rwa [hstore, hfollows.threadId, hfollows.messages]

lemma kept_submit {env : Env J C} {request : RunActivation J C} {expectedRunId : Option String}
    (hstore : Reachable StoreStep .new store) (hgen : ∀ index, (env.gen index).isEmpty = false)
    (hthread : trim env.threadId = env.threadId) (hpresent : env.threadId.isEmpty = false)
    (h : SteerWorld.submit store env request expectedRunId = .ok w) : w.Kept := by
  obtain ⟨⟨threadId, messages⟩, hvalid, hworld⟩ := bind_eq_ok h
  obtain rfl := Except.ok.inj hworld
  rw [validateRunInputs] at hvalid
  split at hvalid
  · cases hvalid
  · obtain ⟨rfl, rfl⟩ := Prod.mk.inj (Except.ok.inj hvalid)
    refine ⟨logsValid_of_reachable hstore, ?_, ?_, named_normalize hgen _, trivial⟩
    · dsimp only
      split
      · exact hthread
      · exact trim_trim _
    · dsimp only
      split
      · exact hpresent
      · rename_i hpresent
        exact Bool.not_eq_true _ ▸ hpresent

/-- Where every run that is answered to take the messages is open or has taken them, no message is
committed twice and none is stranded. -/
theorem steered_messages_kept {env : Env J C} {request : RunActivation J C}
    {expectedRunId : Option String} {w' : SteerWorld J C}
    {tr : List (Transition (SteerWorld J C) (SteerLabel J C))}
    (hstore : Reachable StoreStep .new store) (hgen : ∀ index, (env.gen index).isEmpty = false)
    (hthread : trim env.threadId = env.threadId) (hpresent : env.threadId.isEmpty = false)
    (hsubmit : SteerWorld.submit store env request expectedRunId = .ok w)
    (hrun : Run (SteerStep message) w tr w') (haccepted : ∀ τ ∈ tr, AcceptedOpen τ) :
    ∀ τ ∈ tr, Steers τ := by
  intro τ hτ
  have hinv := (hrun.invariant (C := fun _ => True) (fun _ hstep _ hw => kept_step hstep hw)
    (fun _ _ => trivial) (kept_submit hstore hgen hthread hpresent hsubmit)).2
  exact steers_step (hrun.step_of_mem hτ) (haccepted τ hτ) (hinv τ hτ).1

end Run

section Stranded

def steerEnv (runId : String) : SteerEnv Unit Unit :=
  ⟨{ sampleEnv with gen := fun _ => "drawn" }, some runId, true, .ok true, .ok ()⟩

def steerRequest : RunActivation Unit Unit where
  intent := ⟨none, "thread", .newIntent⟩
  messages := [⟨some "message", .user, [], none, none, .all, none⟩]
  trace := ⟨none, none, none, none, none, none⟩
  runMode := .foreground
  origin := .user
  seededDecisions := []
  runIdHint := none
  dispatchIdHint := none
  resolutionIdHint := none
  hasRunResolver := false

def workingRun : RunRecord Unit := { sampleRun with status := .running }

def workingStore : InMemoryStore Unit Unit :=
  (InMemoryStore.new.exec ⟨0, fun _ => ""⟩ (checkpointCall [] workingRun)).2

lemma reachable_workingStore : Reachable StoreStep .new workingStore :=
  ⟨_, .single (l := checkpointCall [] workingRun) ⟨⟨0, fun _ => ""⟩, rfl⟩⟩

def steeredWorld : SteerWorld Unit Unit :=
  ⟨workingStore, steerRequest, "thread", steerRequest.messages, .choosing none⟩

lemma submit_steeredWorld :
    SteerWorld.submit workingStore (steerEnv "run").env steerRequest none = .ok steeredWorld := rfl

def SteerWorld.next (w : SteerWorld Unit Unit) : SteerWorld Unit Unit :=
  w.advance (fun _ => ()) (steerEnv "run")

lemma run_queued :
    Run (SteerStep fun _ => ()) steeredWorld
      [⟨steeredWorld, .advance (steerEnv "run"), steeredWorld.next⟩,
        ⟨steeredWorld.next, .advance (steerEnv "run"), steeredWorld.next.next⟩]
      steeredWorld.next.next :=
  .cons (.advance _ fun _ h => by cases h) (.single (.advance _ fun _ h => by cases h))

theorem steered_messages_kept_working :
    ∃ (tr : List (Transition (SteerWorld Unit Unit) (SteerLabel Unit Unit)))
      (w : SteerWorld Unit Unit), Run (SteerStep fun _ => ()) steeredWorld tr w ∧
        w.phase = .returned (.ok "run") ∧ ∀ τ ∈ tr, Steers τ := by
  have hrun := run_queued.append
    (.single (.advance (w := steeredWorld.next.next) (steerEnv "run") fun _ h => by cases h))
  refine ⟨_, _, hrun, rfl, steered_messages_kept reachable_workingStore (fun _ => rfl) rfl rfl
    submit_steeredWorld hrun ?_⟩
  intro τ hτ
  simp only [List.cons_append, List.nil_append, List.mem_cons, List.not_mem_nil, or_false] at hτ
  obtain rfl | rfl | rfl := hτ
  · exact fun _ _ hlabel haccepted => by cases haccepted
  · exact fun _ _ hlabel haccepted => by cases haccepted
  · intro env runId hlabel haccepted
    cases hlabel
    cases haccepted
    refine .inl ?_
    rintro ⟨run, hload, hdone⟩
    cases hload
    cases hdone

def endedRun : RunRecord Unit :=
  { workingRun with
    status := .done
    terminationReason := some .naturalEnd
    finishedAt := some 0 }

def endedWorld : SteerWorld Unit Unit :=
  { steeredWorld.next.next with
    store := (steeredWorld.next.next.store.exec ⟨0, fun _ => ""⟩ (checkpointCall [] endedRun)).2 }

theorem steered_message_stranded :
    ¬ ∀ (store : InMemoryStore Unit Unit) (env : Env Unit Unit) (request : RunActivation Unit Unit)
      (expectedRunId : Option String) (w w' : SteerWorld Unit Unit)
      (tr : List (Transition (SteerWorld Unit Unit) (SteerLabel Unit Unit))),
      Reachable StoreStep .new store → (∀ index, (env.gen index).isEmpty = false) →
        trim env.threadId = env.threadId → env.threadId.isEmpty = false →
          SteerWorld.submit store env request expectedRunId = .ok w →
            Run (SteerStep fun _ => ()) w tr w' → ∀ τ ∈ tr, Steers τ := by
  intro h
  have hended : SteerStep (fun _ => ()) steeredWorld.next.next (.others (checkpointCall [] endedRun))
      endedWorld := .others (fun _ => trivial) ⟨⟨0, fun _ => ""⟩, rfl⟩
  have hrun := run_queued.append (.cons hended (.single (.advance (steerEnv "run")
    (fun _ h => by cases h))))
  have hsteers := h workingStore (steerEnv "run").env steerRequest none _ _ _ reachable_workingStore
    (fun _ => rfl) rfl rfl submit_steeredWorld hrun _ (List.mem_append_right _
      (List.mem_cons_of_mem _ List.mem_cons_self))
  obtain ⟨id, hid, hheld⟩ := hsteers.2 (steerEnv "run") "run" rfl rfl _ List.mem_cons_self
  obtain rfl := Option.some.inj hid
  rcases hheld with hcommitted | ⟨entry, hmem, -, hopen⟩
  · cases hcommitted
  · obtain rfl := List.mem_singleton.mp hmem
    rcases hopen with hfallback | ⟨runId, htarget, hopen⟩
    · cases hfallback
    · obtain rfl := Option.some.inj htarget
      exact hopen ⟨endedRun, rfl, rfl⟩

end Stranded

end Awaken.Server.Mailbox
