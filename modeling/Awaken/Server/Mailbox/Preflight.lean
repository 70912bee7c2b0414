import Mathlib.Logic.Relation
import Awaken.Stores.MemoryStore.Calls
import Awaken.Server.Mailbox.Calls

namespace Awaken.Server.Mailbox

open Awaken.Lib Awaken.Contract Awaken.Contract.Storage Awaken.Contract.Lifecycle
open Awaken.Stores.MemoryStore

variable {J C : Type}

section Front

def skippable (entry : PendingMessageRecord J C) : Bool :=
  entry.deliveryMode.boundary = .newRun && !entry.deliveryMode.barrier

def frontFrom (skipped : Bool) :
    List (PendingMessageRecord J C) → Option (PendingMessageRecord J C × Bool)
  | [] => none
  | entry :: pending => if skippable entry then frontFrom true pending else some (entry, skipped)

def opens (boundary : DeliveryBoundary) (runId : Option String)
    (front : PendingMessageRecord J C × Bool) : Bool :=
  eligibleForFreeze front.1 boundary runId && !(front.1.deliveryMode.barrier && front.2)

variable {boundary : DeliveryBoundary} {runId : Option String}

lemma eligibleAt_newRun (h : boundary ≠ .newRun) :
    DeliveryBoundary.eligibleAt .newRun boundary = false := by
  cases boundary with
  | newRun => exact absurd rfl h
  | _ => rfl

lemma eligible_skippable (h : boundary ≠ .newRun) {entry : PendingMessageRecord J C}
    (hskip : skippable entry = true) : eligibleForFreeze entry boundary runId = false := by
  rw [skippable, Bool.and_eq_true, decide_eq_true_eq] at hskip
  simp [eligibleForFreeze, hskip.1, eligibleAt_newRun h]

lemma canSkip_eq (h : boundary ≠ .newRun) (entry : PendingMessageRecord J C) :
    canSkipIneligible entry boundary = decide (entry.deliveryMode.boundary = .newRun) := by
  simp [canSkipIneligible, h]

lemma selectFrom_ne_nil_iff (h : boundary ≠ .newRun) (index : Nat) (skipped : Bool)
    (pending : List (PendingMessageRecord J C)) :
    selectFrom boundary runId index false skipped pending ≠ [] ↔
      ∃ front, frontFrom skipped pending = some front ∧ opens boundary runId front = true := by
  induction pending generalizing index skipped with
  | nil =>
    refine iff_of_false (fun hne => hne rfl) ?_
    rintro ⟨_, hfront, _⟩
    cases hfront
  | cons entry pending ih =>
    rw [selectFrom, frontFrom]
    cases hskip : skippable entry with
    | true =>
      obtain ⟨hboundary, hbarrier⟩ := Bool.and_eq_true_iff.mp hskip
      rw [eligible_skippable h hskip, canSkip_eq h, hboundary, (Bool.not_eq_true' _).mp hbarrier]
      exact ih (index + 1) true
    | false =>
      have hstay : entry.deliveryMode.barrier = false →
          canSkipIneligible entry boundary = false := by
        intro hbarrier
        rw [canSkip_eq h]
        rwa [skippable, hbarrier, Bool.not_false, Bool.and_true] at hskip
      cases heligible : eligibleForFreeze entry boundary runId with
      | false =>
        have hnil : (if entry.deliveryMode.barrier = true then ([] : List Nat)
            else if canSkipIneligible entry boundary = true then
              selectFrom boundary runId (index + 1) false true pending
            else []) = [] := by
          split
          · rfl
          · rename_i hbarrier
            rw [hstay ((Bool.not_eq_true _).mp hbarrier)]
            rfl
        refine iff_of_false (fun hne => hne hnil) ?_
        rintro ⟨front, hfront, hopens⟩
        obtain rfl := Option.some.inj hfront
        rw [opens, heligible] at hopens
        cases hopens
      | true =>
        have hfront : (∃ front, some (entry, skipped) = some front ∧
            opens boundary runId front = true) ↔
              (entry.deliveryMode.barrier && skipped) = false := by
          rw [← Bool.not_eq_true']
          constructor
          · rintro ⟨front, hfront, hopens⟩
            obtain rfl := Option.some.inj hfront
            rwa [opens, heligible, Bool.true_and] at hopens
          · intro hopens
            refine ⟨_, rfl, ?_⟩
            rwa [opens, heligible, Bool.true_and]
        refine Iff.trans ?_ hfront.symm
        cases hbarrier : entry.deliveryMode.barrier && skipped with
        | true => exact iff_of_false (fun hne => hne rfl) fun hopens => by cases hopens
        | false =>
          refine iff_of_true ?_ rfl
          rw [Bool.not_true, if_neg Bool.false_ne_true, if_neg Bool.false_ne_true, Bool.false_and,
            if_neg Bool.false_ne_true]
          split
          · exact List.cons_ne_nil _ _
          · exact List.cons_ne_nil _ _

lemma frontFrom_append (skipped : Bool) (pending rest : List (PendingMessageRecord J C)) :
    frontFrom skipped (pending ++ rest) =
      (frontFrom skipped pending).or (frontFrom (skipped || !pending.isEmpty) rest) := by
  induction pending generalizing skipped with
  | nil => rw [List.nil_append, List.isEmpty_nil, Bool.not_true, Bool.or_false]; rfl
  | cons entry pending ih =>
    rw [List.cons_append, frontFrom, frontFrom]
    split
    · rw [ih, Bool.true_or, List.isEmpty_cons, Bool.not_false, Bool.or_true]
    · rfl

lemma select_append_iff (h : boundary ≠ .newRun) {pending rest : List (PendingMessageRecord J C)}
    {entry : PendingMessageRecord J C} (heligible : eligibleForFreeze entry boundary runId = true)
    (hbarrier : entry.deliveryMode.barrier = false) :
    selectPendingForFreezeForRun (pending ++ entry :: rest) boundary runId ≠ [] ↔
      ∀ front, frontFrom false pending = some front → opens boundary runId front = true := by
  have hskip : skippable entry = false := by
    cases hskip : skippable entry with
    | false => rfl
    | true =>
      rw [eligible_skippable h hskip] at heligible
      cases heligible
  rw [selectPendingForFreezeForRun, selectFrom_ne_nil_iff h, frontFrom_append, frontFrom, hskip]
  cases frontFrom false pending with
  | none =>
    refine iff_of_true ⟨(entry, _), rfl, ?_⟩ fun front hfront => by cases hfront
    rw [opens, heligible, hbarrier]
    rfl
  | some front => simp

end Front

section Freeze

def FreezeJob.Selects (job : FreezeJob J C) (store : InMemoryStore J C) (gen : Nat → String) : Prop :=
  ∃ pending, store.loadPendingMessageRecords job.threadId = .ok pending ∧
    selectPendingForFreezeForRun (job.simulated gen pending) job.boundary (some job.runId) ≠ []

structure FreezeJob.Foreground (threadId : String) (job : FreezeJob J C) : Prop where
  threadId : job.threadId = threadId
  boundary : job.boundary = .interrupt ∨ job.boundary = .resumeInput
  append : ∃ message messages,
    job.append = some (message :: messages, deliveryModeForDispatch job.boundary job.runId)

lemma preflight_ok_iff {store : InMemoryStore J C} {threadId : String} {emptyMessage : Message J C} :
    preflightForegroundPending store true threadId emptyMessage = .ok () ↔
      ∃ pending, store.loadPendingMessageRecords threadId = .ok pending ∧
        ∀ front, frontFrom false pending = some front → opens .interrupt none front = true := by
  unfold preflightForegroundPending
  cases hload : store.loadPendingMessageRecords threadId with
  | error e => exact iff_of_false (fun h => by cases h) fun ⟨_, h, _⟩ => by cases h
  | ok pending =>
    have hiff : (∃ queue, (.ok pending : Except StorageError _) = .ok queue ∧
          ∀ front, frontFrom false queue = some front → opens .interrupt none front = true) ↔
        ∀ front, frontFrom false pending = some front → opens .interrupt none front = true :=
      ⟨fun ⟨_, hqueue, h⟩ => Except.ok.inj hqueue ▸ h, fun h => ⟨_, rfl, h⟩⟩
    rw [hiff, Bool.not_true, if_neg Bool.false_ne_true]
    dsimp only
    cases hempty : pending.isEmpty with
    | true =>
      rw [List.isEmpty_iff.mp hempty]
      exact iff_of_true rfl fun front h => by cases h
    | false =>
      have hselect : selectPendingForFreezeForRun
            (pending ++ [preflightRecord threadId (pending.length + 1) emptyMessage]) .interrupt
            none ≠ [] ↔
          ∀ front, frontFrom false pending = some front → opens .interrupt none front = true :=
        select_append_iff (by decide) rfl rfl
      rw [if_neg Bool.false_ne_true, ← hselect]
      split
      · rename_i hselected
        refine iff_of_true rfl ?_
        rwa [Bool.not_eq_true', ← Bool.not_eq_true, List.isEmpty_iff] at hselected
      · rename_i hselected
        refine iff_of_false (fun h => by cases h) fun hne => hselected ?_
        rwa [Bool.not_eq_true', ← Bool.not_eq_true, List.isEmpty_iff]

lemma eligible_iff {boundary : DeliveryBoundary}
    (h : boundary = .interrupt ∨ boundary = .resumeInput) {runId : Option String}
    {entry : PendingMessageRecord J C} :
    eligibleForFreeze entry boundary runId = true ↔ entry.deliveryMode.boundary = boundary ∧
      (entry.deliveryMode.targetRunId = none ∨ entry.deliveryMode.targetRunId = runId) := by
  have hboundary : DeliveryBoundary.eligibleAt entry.deliveryMode.boundary boundary = true ↔
      entry.deliveryMode.boundary = boundary := by
    rcases h with rfl | rfl
    · cases entry.deliveryMode.boundary <;> decide
    · cases entry.deliveryMode.boundary <;> decide
  have hnew : boundary ≠ .newRun := by
    rintro rfl
    rcases h with h | h <;> cases h
  unfold eligibleForFreeze
  dsimp only
  rw [Bool.and_eq_true, hboundary, and_comm]
  refine and_congr_right fun _ => ?_
  cases entry.deliveryMode.targetRunId with
  | none => exact iff_of_true rfl (.inl rfl)
  | some target => simp [hnew]

lemma FreezeJob.Foreground.selects_iff {store : InMemoryStore J C} {job : FreezeJob J C}
    {threadId : String} (h : job.Foreground threadId) (gen : Nat → String) :
    job.Selects store gen ↔ ∃ pending, store.loadPendingMessageRecords threadId = .ok pending ∧
      ∀ front, frontFrom false pending = some front →
        opens job.boundary (some job.runId) front = true := by
  obtain ⟨message, messages, happend⟩ := h.append
  have hmode : (deliveryModeForDispatch job.boundary job.runId).boundary = job.boundary ∧
      ((deliveryModeForDispatch job.boundary job.runId).targetRunId = none ∨
        (deliveryModeForDispatch job.boundary job.runId).targetRunId = some job.runId) ∧
      (deliveryModeForDispatch job.boundary job.runId).barrier = false := by
    rcases h.boundary with hboundary | hboundary
    · rw [hboundary]
      exact ⟨rfl, .inl rfl, rfl⟩
    · rw [hboundary]
      exact ⟨rfl, .inr rfl, rfl⟩
  have hnew : job.boundary ≠ .newRun := by
    intro hnew
    have hboundary := h.boundary
    rw [hnew] at hboundary
    rcases hboundary with hboundary | hboundary <;> cases hboundary
  rw [FreezeJob.Selects, h.threadId]
  refine exists_congr fun pending => and_congr_right fun _ => ?_
  rw [FreezeJob.simulated, happend, simulatedRecords, List.mapIdx_cons]
  exact select_append_iff hnew ((eligible_iff h.boundary).mpr ⟨hmode.1, hmode.2.1⟩) hmode.2.2

end Freeze

section Submission

def openWaitingRun (store : InMemoryStore J C) (threadId : String) : Option (RunRecord J) :=
  (((store.loadThread threadId).bind (·.openRunId)).bind store.loadRun).filter fun run =>
    run.threadId = threadId && run.isResumableWaiting

def reusableWaitingRunId (store : InMemoryStore J C) (threadId : String) : Option String :=
  ((openWaitingRun store threadId).or
    ((store.latestRun threadId).filter (·.isResumableWaiting))).map (·.runId)

def reuses (store : InMemoryStore J C) (call : PrepareCall J C) : Bool :=
  call.request.runIdHint.isNone && (reusableWaitingRunId store call.threadId).isSome

/-- A request without decisions, in the mode that reusing a run leaves it in. -/
structure Fresh (reused : Bool) (request : RunActivation J C) : Prop where
  seeded : request.seededDecisions = []
  mode : request.runMode = if reused then .resume else .foreground

def CallPhase.Foreground (store : InMemoryStore J C) (submitted : PrepareCall J C) :
    CallPhase J C → Prop
  | .routing call => call = submitted
  | .opening call openRunId => call = submitted ∧ call.request.runIdHint = none ∧
    (store.loadThread call.threadId).bind (·.openRunId) = some openRunId
  | .reusing call => call = submitted ∧ call.request.runIdHint = none ∧
    openWaitingRun store call.threadId = none
  | .preceding call => call.threadId = submitted.threadId ∧ call.messages ≠ [] ∧
    Fresh (reuses store submitted) call.request
  | .loading call => call.threadId = submitted.threadId ∧ call.messages ≠ [] ∧
    Fresh (reuses store submitted) call.request
  | .freezing _ job _ | .selecting _ job _ _ | .consuming _ job _ _ =>
    job.Foreground submitted.threadId ∧
      job.boundary = if reuses store submitted then .resumeInput else .interrupt
  | _ => True

variable {reused : Bool}

lemma Fresh.ensureDispatchIdHint {request : RunActivation J C} (h : Fresh reused request)
    (drawn : String) : Fresh reused (request.ensureDispatchIdHint drawn).2 := by
  unfold RunActivation.ensureDispatchIdHint
  split
  · split <;> exact ⟨h.seeded, h.mode⟩
  · exact ⟨h.seeded, h.mode⟩

lemma Fresh.named {call : PrepareCall J C} (h : Fresh reused call.request) (env : Env J C)
    (previousRun : Option (RunRecord J)) : Fresh reused (call.named env previousRun).request := by
  refine Fresh.ensureDispatchIdHint ?_ _
  split
  · exact ⟨h.seeded, h.mode⟩
  · exact h

lemma Fresh.withAgentId {request : RunActivation J C} (h : Fresh reused request) (agentId : String) :
    Fresh reused (PreparedCall.withAgentId request agentId) := by
  unfold PreparedCall.withAgentId
  split
  · exact ⟨h.seeded, h.mode⟩
  · exact h

lemma Fresh.template {call : PreparedCall J C} (h : Fresh reused call.request) {env : Env J C}
    {existing : Option (RunRecord J)} {request : RunActivation J C} {record : RunRecord J}
    {resolutionId : String}
    (htemplate : call.template env existing = .ok (request, record, resolutionId)) :
    Fresh reused request := by
  cases existing with
  | none =>
    obtain ⟨_, _, hrecord⟩ := bind_eq_ok htemplate
    obtain ⟨rfl, -⟩ := Prod.mk.inj (Except.ok.inj hrecord)
    exact h.withAgentId _
  | some run =>
    rw [PreparedCall.template, PreparedCall.reopen] at htemplate
    split at htemplate
    · cases htemplate
    · split at htemplate
      · cases htemplate
      · obtain ⟨_, _, hrecord⟩ := bind_eq_ok htemplate
        obtain ⟨rfl, -⟩ := Prod.mk.inj (Except.ok.inj hrecord)
        exact h.withAgentId _

lemma foreground_prepareRun {store : InMemoryStore J C} {submitted : PrepareCall J C}
    {call : PreparedCall J C} (hthread : call.threadId = submitted.threadId)
    (hmessages : call.messages ≠ []) {request : RunActivation J C}
    (h : Fresh (reuses store submitted) request) (record : RunRecord J) (resolutionId : String) :
    (CallPhase.prepareRun true call request record resolutionId).Foreground store submitted := by
  obtain ⟨message, messages, hcons⟩ := List.exists_cons_of_ne_nil hmessages
  have hboundary : dispatchBoundary request =
      some (if reuses store submitted then .resumeInput else .interrupt) := by
    rw [dispatchBoundary, h.mode]
    cases reuses store submitted with
    | true => simp [h.seeded]
    | false => rfl
  have hcases : (if reuses store submitted then DeliveryBoundary.resumeInput else .interrupt) =
      .interrupt ∨ (if reuses store submitted then DeliveryBoundary.resumeInput else .interrupt) =
      .resumeInput := by
    cases reuses store submitted with
    | true => exact .inr rfl
    | false => exact .inl rfl
  unfold CallPhase.prepareRun
  rw [hcons, List.isEmpty_cons, Bool.not_false, Bool.and_true, if_pos rfl, hboundary]
  exact ⟨⟨hthread, hcases, message, messages, rfl⟩, rfl⟩

structure Unnamed (call : PrepareCall J C) : Prop where
  resume : call.request.resumeRunId = none
  messages : call.messages ≠ []
  fresh : Fresh false call.request

lemma reuses_of_open {store : InMemoryStore J C} {call : PrepareCall J C}
    (hhint : call.request.runIdHint = none) {run : RunRecord J}
    (h : openWaitingRun store call.threadId = some run) : reuses store call = true := by
  rw [reuses, hhint, reusableWaitingRunId, h]
  rfl

lemma reuses_of_latest {store : InMemoryStore J C} {call : PrepareCall J C}
    (hhint : call.request.runIdHint = none) (h : openWaitingRun store call.threadId = none) :
    reuses store call =
      ((store.latestRun call.threadId).filter (·.isResumableWaiting)).isSome := by
  rw [reuses, hhint, reusableWaitingRunId, h, Option.none_or, Option.isSome_map]
  rfl

lemma Unnamed.reuse {call : PrepareCall J C} (h : Unnamed call) (runId : String) :
    (call.reuse runId).messages ≠ [] ∧ Fresh true (call.reuse runId).request :=
  ⟨h.messages, h.fresh.seeded, rfl⟩

lemma submission_unnamed {env : Env J C} {request : RunActivation J C} {call : PrepareCall J C}
    (h : submission env false request = .ok call) (hmode : call.request.runMode = .foreground) :
    Unnamed call := by
  obtain ⟨⟨threadId, messages⟩, hvalid, hcall⟩ := bind_eq_ok h
  obtain rfl := Except.ok.inj hcall
  have hensure : ∀ request : RunActivation J C,
      (request.ensureDispatchIdHint env.dispatchId).2.runMode = request.runMode ∧
        (request.ensureDispatchIdHint env.dispatchId).2.seededDecisions = request.seededDecisions ∧
        (request.ensureDispatchIdHint env.dispatchId).2.resumeRunId = request.resumeRunId := by
    intro request
    unfold RunActivation.ensureDispatchIdHint
    split
    · split <;> exact ⟨rfl, rfl, rfl⟩
    · exact ⟨rfl, rfl, rfl⟩
  obtain ⟨hmode', hseeded', hresume'⟩ := hensure (request.normalizeMailboxRunMode false)
  have hnormal : (request.normalizeMailboxRunMode false).runMode = .foreground →
      (request.normalizeMailboxRunMode false).seededDecisions = [] ∧
        (request.normalizeMailboxRunMode false).resumeRunId = none := by
    intro hforeground
    unfold RunActivation.normalizeMailboxRunMode at hforeground ⊢
    split at hforeground
    · contradiction
    · rename_i hstays
      rw [if_neg hstays]
      dsimp only at hforeground ⊢
      split at hforeground
      · cases hforeground
      · rename_i hplain
        rw [Bool.or_eq_true, not_or, Bool.not_eq_true', Bool.not_eq_false, List.isEmpty_iff,
          Option.not_isSome_iff_eq_none] at hplain
        exact hplain
  have hforeground := hmode'.symm.trans hmode
  obtain ⟨hseeded, hresume⟩ := hnormal hforeground
  refine ⟨hresume'.trans hresume, ?_, hseeded'.trans hseeded, hmode⟩
  rw [validateRunInputs, hseeded] at hvalid
  split at hvalid
  · cases hvalid
  · rename_i hmessages
    obtain ⟨-, rfl⟩ := Prod.mk.inj (Except.ok.inj hvalid)
    intro hnil
    change (request.normalizeMailboxRunMode false).messages = [] at hnil
    rw [hnil] at hmessages
    exact hmessages rfl

/-- The front does not tell the boundary of the preflight from that of the freeze. -/
def FrontAgrees (reused : Bool) (runId : String) (front : PendingMessageRecord J C × Bool) : Prop :=
  let mode := front.1.deliveryMode
  (mode.barrier = true ∧ front.2 = true) ∨
    if reused then
      ¬ (mode.boundary = .interrupt ∧ mode.targetRunId = none) ∧
        ¬ (mode.boundary = .resumeInput ∧ (mode.targetRunId = none ∨ mode.targetRunId = some runId))
    else ¬ (mode.boundary = .interrupt ∧ mode.targetRunId = some runId)

lemma frontAgrees_iff (reused : Bool) (runId : String) (front : PendingMessageRecord J C × Bool) :
    (opens .interrupt none front = true ↔
        opens (if reused then .resumeInput else .interrupt) (some runId) front = true) ↔
      FrontAgrees reused runId front := by
  have hopens : ∀ boundary, boundary = .interrupt ∨ boundary = .resumeInput →
      ∀ run, opens boundary run front = true ↔
        (front.1.deliveryMode.boundary = boundary ∧ (front.1.deliveryMode.targetRunId = none ∨
          front.1.deliveryMode.targetRunId = run)) ∧
        ¬ (front.1.deliveryMode.barrier = true ∧ front.2 = true) := by
    intro boundary hboundary run
    rw [opens, Bool.and_eq_true, eligible_iff hboundary, Bool.not_eq_true', ← Bool.not_eq_true,
      Bool.and_eq_true]
  unfold FrontAgrees
  dsimp only
  by_cases hbarrier : front.1.deliveryMode.barrier = true ∧ front.2 = true
  · refine iff_of_true ?_ (.inl hbarrier)
    rw [hopens _ (.inl rfl)]
    cases reused with
    | true => rw [if_pos rfl, hopens _ (.inr rfl)]; tauto
    | false => rw [if_neg Bool.false_ne_true, hopens _ (.inl rfl)]; tauto
  · rw [hopens _ (.inl rfl)]
    cases reused with
    | true =>
      rw [if_pos rfl, if_pos rfl, hopens _ (.inr rfl)]
      cases front.1.deliveryMode.boundary <;> simp [hbarrier]
    | false =>
      rw [if_neg Bool.false_ne_true, if_neg Bool.false_ne_true, hopens _ (.inl rfl)]
      cases front.1.deliveryMode.targetRunId <;> simp [hbarrier]

variable [DecidableEq J] {message : String → J}

/-- The checkpoints that a submission causes while it interrupts the thread: those of the runs whose
dispatches it supersedes, and the last one of the active run. -/
inductive Interrupts (s : InMemoryStore J C) : InMemoryStore J C → Prop
  | nothing : Interrupts s s
  | checkpoint {s₁ : InMemoryStore J C} (now : Nat) (threadId : String)
      (messages : List (Message J C)) (version : Option Nat) (run : RunRecord J) :
      Interrupts s s₁ →
      Interrupts s (s₁.checkpointAppend now threadId messages version run).2

/-- A call reads the store, which nobody changes. -/
def Reads (message : String → J) (store : InMemoryStore J C) : CallPhase J C → CallPhase J C → Prop :=
  Relation.ReflTransGen fun phase phase' =>
    ∃ env, phase.advance true message env store = (store, phase')

lemma pending_checkpointAppend (s : InMemoryStore J C) (now : Nat) (threadId : String)
    (messages : List (Message J C)) (version : Option Nat) (run : RunRecord J) :
    (s.checkpointAppend now threadId messages version run).2.pendingMessages = s.pendingMessages := by
  unfold InMemoryStore.checkpointAppend
  split
  · rfl
  · split
    · rfl
    · dsimp only
      split
      · exact InMemoryStore.pendingMessages_touchMessages s threadId
      · exact InMemoryStore.pendingMessages_touchMessages s threadId

lemma Interrupts.loadPending {s s' : InMemoryStore J C} (h : Interrupts s s') (threadId : String) :
    s'.loadPendingMessageRecords threadId = s.loadPendingMessageRecords threadId := by
  have hpending : s'.pendingMessages = s.pendingMessages := by
    induction h with
    | nothing => rfl
    | checkpoint now thread messages version run _ ih =>
      rw [pending_checkpointAppend, ih]
  rw [InMemoryStore.loadPendingMessageRecords, InMemoryStore.loadPendingMessageRecords,
    InMemoryStore.pending, InMemoryStore.pending, hpending]

lemma foreground_advance {phase phase' : CallPhase J C} {env : Env J C}
    {store store' : InMemoryStore J C} {submitted : PrepareCall J C} (hcall : Unnamed submitted)
    (h : phase.advance true message env store = (store', phase'))
    (hphase : phase.Foreground store submitted) : phase'.Foreground store submitted := by
  have kept : ∀ {store₁ : InMemoryStore J C} {next : CallPhase J C},
      (store₁, next) = (store', phase') → next.Foreground store submitted →
        phase'.Foreground store submitted := fun heq hnext => (Prod.mk.inj heq).2 ▸ hnext
  cases phase with
  | routing call =>
    obtain rfl := hphase
    rw [CallPhase.advance, hcall.resume] at h
    split at h
    · rename_i hnamed
      obtain ⟨-, rfl⟩ := Prod.mk.inj h
      have hreuses : reuses store call = false := by
        rw [Option.isSome_none, Bool.false_or] at hnamed
        rw [reuses, ← Option.not_isSome, hnamed]
        rfl
      exact ⟨rfl, hcall.messages, hreuses ▸ hcall.fresh⟩
    · rename_i hnamed
      have hhint : call.request.runIdHint = none := by
        rwa [Option.isSome_none, Bool.false_or, Option.not_isSome_iff_eq_none] at hnamed
      split at h
      · rename_i hopen
        obtain ⟨-, rfl⟩ := Prod.mk.inj h
        exact ⟨rfl, hhint, hopen⟩
      · rename_i hopen
        obtain ⟨-, rfl⟩ := Prod.mk.inj h
        refine ⟨rfl, hhint, ?_⟩
        rw [openWaitingRun, hopen]
        rfl
  | opening call openRunId =>
    obtain ⟨rfl, hhint, hopen⟩ := hphase
    have hrun : openWaitingRun store call.threadId = (store.loadRun openRunId).filter fun run =>
        run.threadId = call.threadId && run.isResumableWaiting := by
      rw [openWaitingRun, hopen, Option.bind_some]
    rw [CallPhase.advance] at h
    split at h
    · rename_i run hload
      rw [hload, Option.filter_some] at hrun
      split at h
      · rename_i hwaits
        obtain ⟨-, rfl⟩ := Prod.mk.inj h
        rw [if_pos hwaits] at hrun
        obtain ⟨hmessages, hfresh⟩ := hcall.reuse run.runId
        exact ⟨rfl, hmessages, (reuses_of_open hhint hrun).symm ▸ hfresh⟩
      · rename_i hwaits
        obtain ⟨-, rfl⟩ := Prod.mk.inj h
        rw [if_neg hwaits] at hrun
        exact ⟨rfl, hhint, hrun⟩
    · rename_i hload
      obtain ⟨-, rfl⟩ := Prod.mk.inj h
      rw [hload] at hrun
      exact ⟨rfl, hhint, hrun⟩
  | reusing call =>
    obtain ⟨rfl, hhint, hopen⟩ := hphase
    have hreuses := reuses_of_latest hhint hopen
    rw [CallPhase.advance] at h
    split at h
    · rename_i run hlatest
      rw [hlatest, Option.filter_some] at hreuses
      split at h
      · rename_i hwaits
        obtain ⟨-, rfl⟩ := Prod.mk.inj h
        rw [if_pos hwaits] at hreuses
        obtain ⟨hmessages, hfresh⟩ := hcall.reuse run.runId
        refine ⟨rfl, hmessages, ?_⟩
        rw [hreuses]
        exact hfresh
      · rename_i hwaits
        obtain ⟨-, rfl⟩ := Prod.mk.inj h
        rw [if_neg hwaits] at hreuses
        refine ⟨rfl, hcall.messages, ?_⟩
        rw [hreuses]
        exact hcall.fresh
    · rename_i hlatest
      obtain ⟨-, rfl⟩ := Prod.mk.inj h
      rw [hlatest] at hreuses
      refine ⟨rfl, hcall.messages, ?_⟩
      rw [hreuses]
      exact hcall.fresh
  | preceding call =>
    rw [CallPhase.advance] at h
    obtain ⟨-, rfl⟩ := Prod.mk.inj h
    refine ⟨hphase.1, ?_, hphase.2.2.named env _⟩
    change normalizeMessageIds env.gen call.messages ≠ []
    rw [normalizeMessageIds, ← List.length_pos_iff, List.length_mapIdx, List.length_pos_iff]
    exact hphase.2.1
  | loading call =>
    rw [CallPhase.advance] at h
    split at h
    · exact kept h trivial
    · rename_i htemplate
      obtain ⟨-, rfl⟩ := Prod.mk.inj h
      obtain ⟨hthread, hmessages, hfresh⟩ := hphase
      exact foreground_prepareRun hthread hmessages (hfresh.template htemplate) _ _
  | freezing attempts job result =>
    cases attempts with
    | zero =>
      exact kept h trivial
    | succ attempts =>
      rw [CallPhase.advance] at h
      split at h
      · exact kept h trivial
      · exact kept h hphase
  | selecting attempts job result committed =>
    rw [CallPhase.advance] at h
    split at h
    · exact kept h trivial
    · split at h
      · exact kept h trivial
      · exact kept h trivial
      · exact kept h hphase
  | consuming attempts job result plan =>
    rw [CallPhase.advance] at h
    split at h
    · exact kept h trivial
    · split at h
      · exact kept h hphase
      · exact kept h trivial
  | marking mark =>
    rw [CallPhase.advance] at h
    split at h
    · exact kept h trivial
    · split at h
      · exact kept h trivial
      · exact kept h trivial
  | appending attempts job =>
    cases attempts with
    | zero =>
      exact kept h trivial
    | succ attempts =>
      rw [CallPhase.advance] at h
      split at h
      · exact kept h trivial
      · exact kept h trivial
  | committing attempts job committed =>
    rw [CallPhase.advance] at h
    split at h
    · exact kept h trivial
    · split at h
      · exact kept h trivial
      · exact kept h trivial
  | returned result =>
    exact kept h trivial

lemma foreground_reads {store : InMemoryStore J C} {phase phase' : CallPhase J C}
    {submitted : PrepareCall J C} (hcall : Unnamed submitted) (h : Reads message store phase phase')
    (hphase : phase.Foreground store submitted) : phase'.Foreground store submitted := by
  induction h with
  | refl => exact hphase
  | tail _ hstep ih =>
    obtain ⟨env, hadvance⟩ := hstep
    exact foreground_advance hcall hadvance ih

/-- The preflight lets a foreground submission through exactly when its freeze finds a selection,
if and only if the entry at the front of the queue does not tell their boundaries apart. -/
theorem preflight_agrees_iff {s s' : InMemoryStore J C} {env : Env J C}
    {request : RunActivation J C} {call : PrepareCall J C} {attempts : Nat} {job : FreezeJob J C}
    {result : Option (CallResult J C)} (emptyMessage : Message J C) (gen : Nat → String)
    (hsubmit : submission env false request = .ok call) (hmode : call.request.runMode = .foreground)
    (hinterrupts : Interrupts s s')
    (hreads : Reads message s' (.routing call) (.freezing attempts job result)) :
    (preflightForegroundPending s true call.threadId emptyMessage = .ok () ↔ job.Selects s' gen) ↔
      ∀ pending, s.loadPendingMessageRecords call.threadId = .ok pending →
        ∀ front, frontFrom false pending = some front →
          FrontAgrees (reuses s' call) job.runId front := by
  obtain ⟨hjob, hboundary⟩ := foreground_reads (submission_unnamed hsubmit hmode) hreads
    (show CallPhase.Foreground s' call (.routing call) from rfl)
  rw [preflight_ok_iff, hjob.selects_iff gen, hinterrupts.loadPending]
  cases hload : s.loadPendingMessageRecords call.threadId with
  | error e =>
    refine iff_of_true (iff_of_false ?_ ?_) fun _ h => by cases h
    · exact fun ⟨_, h, _⟩ => by cases h
    · exact fun ⟨_, h, _⟩ => by cases h
  | ok pending =>
    have hpending : ∀ P : List (PendingMessageRecord J C) → Prop,
        (∃ queue, (.ok pending : Except StorageError _) = .ok queue ∧ P queue) ↔ P pending :=
      fun P => ⟨fun ⟨_, hqueue, h⟩ => Except.ok.inj hqueue ▸ h, fun h => ⟨_, rfl, h⟩⟩
    rw [hpending, hpending, hboundary]
    cases hfront : frontFrom false pending with
    | none =>
      refine iff_of_true (iff_of_true ?_ ?_) ?_
      · exact fun _ h => by cases h
      · exact fun _ h => by cases h
      · intro queue hqueue front hfront'
        rw [← Except.ok.inj hqueue, hfront] at hfront'
        cases hfront'
    | some front =>
      have hone : ∀ P : PendingMessageRecord J C × Bool → Prop,
          (∀ front', some front = some front' → P front') ↔ P front :=
        fun P => ⟨fun h => h front rfl, fun h _ heq => Option.some.inj heq ▸ h⟩
      rw [hone, hone, frontAgrees_iff]
      refine ⟨fun h queue hqueue front' hfront' => ?_, fun h => h pending rfl front hfront⟩
      rw [← Except.ok.inj hqueue, hfront] at hfront'
      rw [← Option.some.inj hfront']
      exact h

end Submission

section Interrupted

def waitingRun : RunRecord Unit :=
  { RunRecord.default with
    runId := "run"
    threadId := "thread"
    agentId := "agent"
    resolutionId := some "resolution"
    status := .waiting
    waiting := some ⟨.userInput⟩ }

def queuedStore (deliveryMode : DeliveryMode) : InMemoryStore Unit Unit :=
  (((InMemoryStore.new.checkpointAppend 0 "thread" [] (some 0) waitingRun).2).appendPendingMessageRecords
    (fun _ => "") 0 "thread" [⟨some "queued", .user, [], none, none, .all, none⟩] deliveryMode).2

def userMessage : Message Unit Unit := ⟨some "message", .user, [], none, none, .all, none⟩

def foregroundRequest : RunActivation Unit Unit where
  intent := ⟨none, "thread", .newIntent⟩
  messages := [userMessage]
  trace := ⟨none, none, none, none, none, none⟩
  runMode := .foreground
  origin := .user
  seededDecisions := []
  runIdHint := none
  dispatchIdHint := none
  resolutionIdHint := none
  hasRunResolver := false

def foregroundEnv : Env Unit Unit :=
  ⟨0, fun _ => "", "new-thread", "new-run", "new-dispatch", fun _ _ => .ok "resolution"⟩

def foregroundCall : PrepareCall Unit Unit :=
  ⟨{ foregroundRequest with dispatchIdHint := some "new-dispatch" }, "thread", [userMessage]⟩

def resumeJob : FreezeJob Unit Unit where
  snapshotTemplate :=
    ⟨⟨some "agent", "thread", .hitlResume "run"⟩, ⟨"", none, [], [], none, none⟩,
      ⟨none, none, none, none, none, none⟩, [], some "resolution"⟩
  threadId := "thread"
  boundary := .resumeInput
  runId := "run"
  record := { waitingRun with dispatchId := some "new-dispatch" }
  append := some ([userMessage], .resumeInput .batch "run")

lemma reads_resume {deliveryMode : DeliveryMode}
    (h : deliveryMode = deliveryModeForDispatch .newRun "" ∨
      deliveryMode = deliveryModeForDispatch .interrupt "") :
    ∃ result, Reads (fun _ => ()) (queuedStore deliveryMode) (.routing foregroundCall)
      (.freezing maxAttempts resumeJob result) := by
  rcases h with rfl | rfl
  · have h₁ : Reads (fun _ => ()) (queuedStore (deliveryModeForDispatch .newRun ""))
        (.routing foregroundCall) (.opening foregroundCall "run") := .single ⟨foregroundEnv, rfl⟩
    exact ⟨_, ((h₁.tail ⟨foregroundEnv, rfl⟩).tail ⟨foregroundEnv, rfl⟩).tail ⟨foregroundEnv, rfl⟩⟩
  · have h₁ : Reads (fun _ => ()) (queuedStore (deliveryModeForDispatch .interrupt ""))
        (.routing foregroundCall) (.opening foregroundCall "run") := .single ⟨foregroundEnv, rfl⟩
    exact ⟨_, ((h₁.tail ⟨foregroundEnv, rfl⟩).tail ⟨foregroundEnv, rfl⟩).tail ⟨foregroundEnv, rfl⟩⟩

theorem preflight_agrees_iff_resume :
    (preflightForegroundPending (queuedStore (deliveryModeForDispatch .newRun "")) true "thread"
        userMessage = .ok () ↔
        resumeJob.Selects (queuedStore (deliveryModeForDispatch .newRun "")) fun _ => "") ↔
      ∀ pending, (queuedStore (deliveryModeForDispatch .newRun "")).loadPendingMessageRecords
          "thread" = .ok pending →
        ∀ front, frontFrom false pending = some front →
          FrontAgrees (reuses (queuedStore (deliveryModeForDispatch .newRun "")) foregroundCall) "run"
            front := by
  obtain ⟨result, hreads⟩ := reads_resume (.inl rfl)
  have hsubmit : submission foregroundEnv false foregroundRequest = .ok foregroundCall := rfl
  exact preflight_agrees_iff userMessage (fun _ => "") hsubmit rfl .nothing hreads

theorem preflight_passes_blocked_submission :
    ¬ ∀ (s : InMemoryStore Unit Unit) (request : RunActivation Unit Unit)
      (call : PrepareCall Unit Unit) (attempts : Nat) (job : FreezeJob Unit Unit)
      (result : Option (CallResult Unit Unit)),
      submission foregroundEnv false request = .ok call → call.request.runMode = .foreground →
        Reads (fun _ => ()) s (.routing call) (.freezing attempts job result) →
          (preflightForegroundPending s true call.threadId userMessage = .ok () ↔
            job.Selects s fun _ => "") := by
  intro h
  obtain ⟨result, hreads⟩ := reads_resume (.inr rfl)
  have hagrees := h _ foregroundRequest foregroundCall _ _ _ rfl rfl hreads
  obtain ⟨pending, hload, hselected⟩ := hagrees.mp rfl
  obtain rfl := Except.ok.inj hload
  exact hselected rfl

end Interrupted

end Awaken.Server.Mailbox
