import Awaken.LoopRunner.Resume

namespace Awaken.LoopRunner

open Awaken.Contract Awaken.Lib Awaken.State Awaken.Agent.LoopState Awaken.ToolBatch

variable {J κ C : Type}

/-- What a pass takes from outside; the clock is read and the message id drawn for each call. -/
structure PassEnv (J C : Type) where
  json : JsonLib J
  text : String → C
  nowMs : String → Nat
  genMessageId : String → String

structure ResumePass (keys : LoopKeys J κ) (C : Type) where
  store : StateStore keys.runtime.key
  events : List (AgentEvent J)
  messages : List (Message J C)

def announcedState (callState : ToolCallState J) (now : Nat) : ToolCallState J where
  callId := callState.callId
  toolName := callState.toolName
  arguments := callState.arguments
  status := .cancelled
  updatedAt := now
  resumeMode := callState.resumeMode
  suspensionId := none
  suspensionReason := none
  resumeInput := none

def cancelledResumes (order : List String) (calls : ToolCallStateMap J) :
    List (String × ToolCallState J) :=
  ((order.filterMap (fun callId => (calls callId).map (Prod.mk callId))).filter (fun call =>
    call.2.status = .cancelled && call.2.resumeInput.isSome)).mergeSort
      (fun left right => left.1 ≤ right.1)

def resumeResult (json : JsonLib J) (callState : ToolCallState J) : J :=
  (callState.resumeInput.map (·.result)).getD json.null

def PassEnv.event (self : PassEnv J C) (call : String × ToolCallState J) : AgentEvent J :=
  .toolCallResumed call.1 (resumeResult self.json call.2)

def PassEnv.marker (self : PassEnv J C) (call : String × ToolCallState J) : Message J C :=
  { Message.tool (self.genMessageId call.1) call.1
      (self.text (self.json.render (resumeResult self.json call.2))) with
    visibility := .internal }

variable {keys : LoopKeys J κ} [DecidableEq κ]

def announceEach (env : PassEnv J C) :
    List (String × ToolCallState J) → ResumePass keys C →
      Except StateError Unit × ResumePass keys C
  | [], pass => (.ok (), pass)
  | call :: cancelled, pass =>
    let events := pass.events ++ [env.event call]
    let messages := pass.messages ++ [env.marker call]
    match commitToolCall pass.store (announcedState call.2 (env.nowMs call.1)) with
    | (.error e, store) => (.error e, ⟨store, events, messages⟩)
    | (.ok _, store) => announceEach env cancelled ⟨store, events, messages⟩

def emitCancelledResumes (env : PassEnv J C) (order : List String) (pass : ResumePass keys C) :
    Except StateError Unit × ResumePass keys C :=
  announceEach env (cancelledResumes order (toolCalls pass.store)) pass

/-- What the replay of the resuming calls commits to their states is given; its events are left out. -/
def detectAndReplayResume (env : PassEnv J C) (order : List String)
    (replay : List (ToolCallState J)) (pass : ResumePass keys C) : ResumePass keys C :=
  match emitCancelledResumes env order pass with
  | (.error _, pass) => pass
  | (.ok _, pass) =>
    { pass with store := replay.foldl (fun store state => (commitToolCall store state).2) pass.store }

section Rounds

structure Batch (J : Type) where
  order : List String
  requests : List (ResumeRequest J)
  mode : Option ToolCallResumeMode

def Batch.record (self : Batch J) (store : StateStore keys.runtime.key) :
    StateStore keys.runtime.key :=
  (prepareResume self.order store self.requests self.mode).2

structure ResumeRound (J C : Type) where
  batches : List (Batch J)
  env : PassEnv J C
  order : List String
  replay : List (ToolCallState J)

namespace ResumeRound

def decided (self : ResumeRound J C) (store : StateStore keys.runtime.key) :
    StateStore keys.runtime.key :=
  self.batches.foldl (fun store batch => batch.record store) store

def run (self : ResumeRound J C) (store : StateStore keys.runtime.key) : ResumePass keys C :=
  detectAndReplayResume self.env self.order self.replay ⟨self.decided store, [], []⟩

structure Possible (round : ResumeRound J C) (store : StateStore keys.runtime.key) : Prop where
  nodup : round.order.Nodup
  enumerates : Enumerates round.order (toolCalls (round.decided store))
  replayed : ∀ state ∈ round.replay, state.status ≠ .cancelled

end ResumeRound

def CallEnded (calls : ToolCallStateMap J) (callId : String) : Prop :=
  currentStatus calls callId = .succeeded ∨ currentStatus calls callId = .failed

instance (calls : ToolCallStateMap J) (callId : String) : Decidable (CallEnded calls callId) :=
  inferInstanceAs (Decidable (_ ∨ _))

def isCancelOf (order : List String) (calls : ToolCallStateMap J) (callId : String)
    (request : ResumeRequest J) : Bool :=
  targetOf order calls request.targetId = some callId ∧ request.status = .cancelled

def Batch.cancels (self : Batch J) (calls : ToolCallStateMap J) (callId : String) :
    List (ResumeRequest J) :=
  if CallEnded calls callId then []
  else
    (self.requests.takeWhile
      (fun request => (targetOf self.order calls request.targetId).isSome)).filter
        (isCancelOf self.order calls callId)

def cancels (callId : String) :
    List (Batch J) → StateStore keys.runtime.key → List (ResumeRequest J)
  | [], _ => []
  | batch :: batches, store =>
    batch.cancels (toolCalls store) callId ++ cancels callId batches (batch.record store)

def standing (calls : ToolCallStateMap J) (callId : String) : Option J :=
  (calls callId).bind (fun callState =>
    if callState.status = .cancelled then callState.resumeInput.map (·.result) else none)

def settled (callId : String) :
    Option J → List (ResumeRound J C) → StateStore keys.runtime.key → List J
  | _, [], _ => []
  | before, round :: rounds, store =>
    (((cancels callId round.batches store).getLast?.map (·.decision.result)).or before).toList ++
      settled callId none rounds (round.run store).store

end Rounds

section Standing

omit [DecidableEq κ]

/-- Each state is filed under its own id. -/
def FiledById (calls : ToolCallStateMap J) : Prop :=
  ∀ callId callState, calls callId = some callState → callState.callId = callId

lemma filed_apply {calls : ToolCallStateMap J} (h : FiledById calls)
    (update : ToolCallStatesUpdate J) : FiledById (applyToolCalls calls update) := by
  cases update with
  | clear => exact fun _ _ hcall => (by cases hcall)
  | put state =>
    by_cases hcan : (currentStatus calls state.callId).canTransitionTo state.status
    · rw [apply_put_of_can hcan]
      intro callId callState hcall
      by_cases hid : callId = state.callId
      · subst hid
        rw [Function.update_self] at hcall
        obtain rfl := Option.some.inj hcall
        rfl
      · rw [Function.update_of_ne hid] at hcall
        exact h callId callState hcall
    · rwa [apply_put_of_not hcan]

variable {calls : ToolCallStateMap J} {state : ToolCallState J} {callId : String}

lemma put_cases (calls : ToolCallStateMap J) (state : ToolCallState J) (callId : String) :
    ((currentStatus calls callId).canTransitionTo state.status = true ∧ state.callId = callId ∧
      applyToolCalls calls (.put state) callId = some state.normalized) ∨
    ((state.callId = callId → (currentStatus calls callId).canTransitionTo state.status = false) ∧
      applyToolCalls calls (.put state) callId = calls callId) := by
  by_cases hcan : (currentStatus calls state.callId).canTransitionTo state.status
  · rw [apply_put_of_can hcan]
    by_cases hid : callId = state.callId
    · subst hid
      exact Or.inl ⟨hcan, rfl, Function.update_self _ _ _⟩
    · exact Or.inr ⟨fun heq => absurd heq.symm hid, Function.update_of_ne hid _ _⟩
  · rw [apply_put_of_not hcan]
    exact Or.inr ⟨fun heq => heq ▸ Bool.eq_false_iff.mpr hcan, rfl⟩

lemma cancelled_final {next : ToolCallStatus}
    (h : ToolCallStatus.cancelled.canTransitionTo next = true) : next = .cancelled := by
  cases next <;> first | rfl | cases h

lemma cancelled_put (h : currentStatus calls callId = .cancelled) :
    currentStatus (applyToolCalls calls (.put state)) callId = .cancelled := by
  obtain ⟨hcan, -, hput⟩ | ⟨-, hput⟩ := put_cases calls state callId
  · rw [h] at hcan
    rw [currentStatus, hput]
    exact cancelled_final hcan
  · rw [currentStatus, hput]
    exact h

lemma standing_none (h : currentStatus calls callId ≠ .cancelled) : standing calls callId = none := by
  unfold standing
  cases hcall : calls callId with
  | none => rfl
  | some callState =>
    rw [currentStatus, hcall] at h
    exact if_neg h

lemma standing_put_of_ne (hstatus : state.status ≠ .cancelled) :
    standing (applyToolCalls calls (.put state)) callId = standing calls callId := by
  obtain ⟨hcan, -, hput⟩ | ⟨-, hput⟩ := put_cases calls state callId
  · have hcurrent : currentStatus calls callId ≠ .cancelled := by
      intro heq
      rw [heq] at hcan
      exact hstatus (cancelled_final hcan)
    rw [standing_none hcurrent, standing, hput]
    exact if_neg hstatus
  · rw [standing, hput]
    rfl

lemma standing_announced (now : Nat) :
    standing (applyToolCalls calls (.put (announcedState state now))) callId =
      if state.callId = callId then none else standing calls callId := by
  obtain ⟨-, hid, hput⟩ | ⟨hnot, hput⟩ := put_cases calls (announcedState state now) callId
  · have hcall : state.callId = callId := hid
    rw [if_pos hcall, standing, hput]
    rfl
  · split
    next hid =>
      have hcan := hnot hid
      have hcurrent : currentStatus calls callId ≠ .cancelled := by
        intro heq
        rw [heq] at hcan
        cases hcan
      rw [standing, hput]
      exact standing_none hcurrent
    next => rw [standing, hput]; rfl

end Standing

section Decisions

variable {calls current : ToolCallStateMap J} {order : List String}
  {mode : Option ToolCallResumeMode} {callId : String}

omit [DecidableEq κ] in
lemma canCancel_iff : (currentStatus current callId).canTransitionTo .cancelled = true ↔
    ¬ CallEnded current callId := by
  unfold CallEnded
  cases currentStatus current callId <;> decide

lemma canResume_ne {status : ToolCallStatus} (h : status.canTransitionTo .resuming = true) :
    status ≠ .cancelled ∧ status ≠ .succeeded ∧ status ≠ .failed := by
  cases status <;> first | decide | cases h

lemma record_cases (calls current : ToolCallStateMap J) (order : List String)
    (mode : Option ToolCallResumeMode) (request : ResumeRequest J) (callId : String) :
    (targetOf order calls request.targetId = some callId ∧
      (currentStatus current callId).canTransitionTo request.status = true ∧
      ∃ callState, recordRequest order calls mode current request callId = some callState ∧
        callState.status = request.status ∧ callState.resumeInput = some request.decision) ∨
    ((targetOf order calls request.targetId = some callId →
        (currentStatus current callId).canTransitionTo request.status = false) ∧
      recordRequest order calls mode current request callId = current callId) := by
  by_cases htarget : targetOf order calls request.targetId = some callId
  · obtain ⟨⟨found, base⟩, hres, rfl⟩ := Option.map_eq_some_iff.mp htarget
    have hself := recordRequest_self mode current (resolveCallTarget_some hres).1 htarget
    by_cases hcan : (currentStatus current found).canTransitionTo request.status
    · rw [if_pos hcan] at hself
      exact Or.inl ⟨htarget, hcan, _, hself, rfl, rfl⟩
    · rw [if_neg hcan] at hself
      exact Or.inr ⟨fun _ => Bool.eq_false_iff.mpr hcan, hself⟩
  · exact Or.inr ⟨fun h => absurd h htarget, recordRequest_other mode current htarget⟩

lemma finished_record (request : ResumeRequest J) :
    CallEnded (recordRequest order calls mode current request) callId ↔ CallEnded current callId := by
  obtain ⟨-, hcan, callState, hrecord, hstatus, -⟩ | ⟨-, hrecord⟩ :=
    record_cases calls current order mode request callId
  · have hnot : ¬ CallEnded current callId := by
      obtain hs | hs := status_cases request
      · rw [hs] at hcan
        have hne := canResume_ne hcan
        exact fun h => h.elim hne.2.1 hne.2.2
      · rw [hs] at hcan
        exact (canCancel_iff).mp hcan
    refine iff_of_false ?_ hnot
    rw [CallEnded, currentStatus, hrecord]
    simp only [Option.map_some, Option.getD_some, hstatus]
    obtain hs | hs := status_cases request <;> rw [hs] <;> decide
  · rw [CallEnded, currentStatus, hrecord]
    rfl

lemma standing_record (request : ResumeRequest J) :
    standing (recordRequest order calls mode current request) callId =
      if isCancelOf order calls callId request = true ∧ ¬ CallEnded current callId then
        some request.decision.result
      else standing current callId := by
  obtain ⟨htarget, hcan, callState, hrecord, hstatus, hinput⟩ | ⟨hnot, hrecord⟩ :=
    record_cases calls current order mode request callId
  · obtain hs | hs := status_cases request
    · rw [hs] at hcan hstatus
      rw [if_neg (fun h => by simp [isCancelOf, hs] at h), standing_none (canResume_ne hcan).1,
        standing, hrecord]
      simp [hstatus]
    · rw [hs] at hcan hstatus
      rw [if_pos ⟨by simp [isCancelOf, htarget, hs], (canCancel_iff).mp hcan⟩, standing, hrecord]
      simp [hstatus, hinput]
  · rw [if_neg]
    · rw [standing, hrecord]
      rfl
    · rintro ⟨hcancel, hunfinished⟩
      obtain ⟨htarget, hs⟩ := of_decide_eq_true hcancel
      have hcan := hnot htarget
      rw [hs, (canCancel_iff).mpr hunfinished] at hcan
      cases hcan

lemma standing_records (requests : List (ResumeRequest J)) (current : ToolCallStateMap J) :
    standing (requests.foldl (recordRequest order calls mode) current) callId =
      ((if CallEnded current callId then []
        else requests.filter (isCancelOf order calls callId)).getLast?.map
          (·.decision.result)).or (standing current callId) := by
  induction requests generalizing current with
  | nil => simp
  | cons request requests ih =>
    rw [List.foldl_cons, ih]
    simp only [finished_record, standing_record, List.filter_cons]
    by_cases hfinished : CallEnded current callId
    · simp [hfinished]
    · by_cases hcancel : isCancelOf order calls callId request = true
      · simp only [hfinished, hcancel, if_true, if_false, not_false_eq_true, and_self,
          getLast?_cons_or, Option.map_or, Option.or_assoc]
        rfl
      · simp [hfinished, hcancel]

end Decisions

section Passes

variable {store : StateStore keys.runtime.key} {callId : String}

structure Sound (store : StateStore keys.runtime.key) : Prop where
  registered : Registered store
  filed : FiledById (toolCalls store)

lemma Sound.commit (h : Sound store) (state : ToolCallState J) :
    ∃ n store', commitToolCall store state = (.ok n, store') ∧ Sound store' ∧
      toolCalls store' = applyToolCalls (toolCalls store) (.put state) := by
  obtain ⟨n, store', hcommit, hcalls, hregistered⟩ := commitToolCall_registered h.registered state
  exact ⟨n, store', hcommit, ⟨hregistered, hcalls ▸ filed_apply h.filed _⟩, hcalls⟩

lemma Sound.resumeEach (h : Sound store) (order : List String) (calls : ToolCallStateMap J)
    (mode : Option ToolCallResumeMode) (requests : List (ResumeRequest J)) :
    Sound (resumeEach order calls mode requests store).2 ∧
      toolCalls (resumeEach order calls mode requests store).2 =
        (requests.takeWhile (fun request => (targetOf order calls request.targetId).isSome)).foldl
          (recordRequest order calls mode) (toolCalls store) := by
  induction requests generalizing store with
  | nil => exact ⟨h, rfl⟩
  | cons request requests ih =>
    cases hres : resolveCallTarget order calls request.targetId with
    | none =>
      have htarget : (targetOf order calls request.targetId).isSome = false := by
        rw [targetOf, hres]
        rfl
      rw [resumeEach_unresolved hres, List.takeWhile_cons_of_neg (by simp [htarget])]
      exact ⟨h, rfl⟩
    | some target =>
      obtain ⟨callId, callState⟩ := target
      have htarget : (targetOf order calls request.targetId).isSome = true := by
        rw [targetOf, hres]
        rfl
      have htake : (request :: requests).takeWhile
            (fun request => (targetOf order calls request.targetId).isSome) =
          request :: requests.takeWhile
            (fun request => (targetOf order calls request.targetId).isSome) :=
        List.takeWhile_cons_of_pos htarget
      obtain ⟨n, store', hcommit, hsound, hcalls⟩ :=
        h.commit (resumedState callId callState mode request)
      have hrecord : toolCalls store' = recordRequest order calls mode (toolCalls store) request := by
        rw [hcalls, recordRequest, hres]
      rw [LoopRunner.resumeEach, hres, htake, List.foldl_cons, ← hrecord]
      simp only [hcommit]
      exact ih hsound

lemma Sound.record (h : Sound store) (batch : Batch J) (callId : String) :
    Sound (batch.record store) ∧ standing (toolCalls (batch.record store)) callId =
      ((batch.cancels (toolCalls store) callId).getLast?.map (·.decision.result)).or
        (standing (toolCalls store) callId) := by
  obtain ⟨hsound, hcalls⟩ := h.resumeEach batch.order (toolCalls store) batch.mode batch.requests
  refine ⟨hsound, ?_⟩
  rw [Batch.record, prepareResume, hcalls, standing_records, Batch.cancels]

lemma Sound.decided (h : Sound store) (batches : List (Batch J)) (callId : String) :
    Sound (batches.foldl (fun store batch => batch.record store) store) ∧
      standing (toolCalls (batches.foldl (fun store batch => batch.record store) store)) callId =
        ((cancels callId batches store).getLast?.map (·.decision.result)).or
          (standing (toolCalls store) callId) := by
  induction batches generalizing store with
  | nil => exact ⟨h, rfl⟩
  | cons batch batches ih =>
    obtain ⟨hsound, hstanding⟩ := h.record batch callId
    obtain ⟨hsound', hstanding'⟩ := ih hsound
    refine ⟨hsound', ?_⟩
    rw [List.foldl_cons, hstanding', hstanding, cancels, List.getLast?_append, Option.map_or,
      Option.or_assoc]

lemma Sound.announceEach {pass : ResumePass keys C} (h : Sound pass.store) (env : PassEnv J C)
    (cancelled : List (String × ToolCallState J)) : ∃ store,
      announceEach env cancelled pass = (.ok (), ⟨store, pass.events ++ cancelled.map env.event,
        pass.messages ++ cancelled.map env.marker⟩) ∧
      Sound store ∧ toolCalls store = cancelled.foldl (fun calls call =>
        applyToolCalls calls (.put (announcedState call.2 (env.nowMs call.1)))) (toolCalls pass.store) := by
  induction cancelled generalizing pass with
  | nil => exact ⟨pass.store, by simp [LoopRunner.announceEach], h, rfl⟩
  | cons call cancelled ih =>
    obtain ⟨n, next, hcommit, hsound, hcalls⟩ :=
      h.commit (announcedState call.2 (env.nowMs call.1))
    obtain ⟨store, hrest, hstore, hfold⟩ :=
      @ih ⟨next, pass.events ++ [env.event call], pass.messages ++ [env.marker call]⟩ hsound
    refine ⟨store, ?_, hstore, ?_⟩
    · rw [LoopRunner.announceEach, hcommit]
      simpa using hrest
    · rw [hfold, hcalls, List.foldl_cons]

lemma standing_announcedAll (env : PassEnv J C) (cancelled : List (String × ToolCallState J))
    (hids : ∀ call ∈ cancelled, call.2.callId = call.1) (calls : ToolCallStateMap J) :
    standing (cancelled.foldl (fun calls call =>
      applyToolCalls calls (.put (announcedState call.2 (env.nowMs call.1)))) calls) callId =
      if callId ∈ cancelled.map Prod.fst then none else standing calls callId := by
  induction cancelled generalizing calls with
  | nil => simp
  | cons call cancelled ih =>
    rw [List.forall_mem_cons] at hids
    rw [List.foldl_cons, ih hids.2, standing_announced, hids.1]
    by_cases hmem : callId ∈ cancelled.map Prod.fst
    · have hcons : callId ∈ (call :: cancelled).map Prod.fst := List.mem_cons_of_mem _ hmem
      rw [if_pos hmem, if_pos hcons]
    · rw [if_neg hmem]
      by_cases hid : call.1 = callId
      · have hcons : callId ∈ (call :: cancelled).map Prod.fst := hid ▸ List.mem_cons_self
        rw [if_pos hid, if_pos hcons]
      · have hcons : callId ∉ (call :: cancelled).map Prod.fst := by
          rw [List.map_cons, List.mem_cons, not_or]
          exact ⟨Ne.symm hid, hmem⟩
        rw [if_neg hid, if_neg hcons]

lemma mem_cancelledResumes {order : List String} {calls : ToolCallStateMap J} {callId : String}
    {callState : ToolCallState J} :
    (callId, callState) ∈ cancelledResumes order calls ↔ callId ∈ order ∧
      calls callId = some callState ∧ callState.status = .cancelled ∧
        callState.resumeInput.isSome = true := by
  unfold cancelledResumes
  rw [List.mem_mergeSort, List.mem_filter, List.mem_filterMap]
  simp only [Option.map_eq_some_iff, Prod.mk.injEq, Bool.and_eq_true, decide_eq_true_eq]
  constructor
  · rintro ⟨⟨id, hid, state, hstate, rfl, rfl⟩, hcancelled⟩
    exact ⟨hid, hstate, hcancelled⟩
  · rintro ⟨hid, hstate, hcancelled⟩
    exact ⟨⟨callId, hid, callState, hstate, rfl, rfl⟩, hcancelled⟩

omit [DecidableEq κ] in
lemma cancelled_puts {calls : ToolCallStateMap J} (states : List (ToolCallState J))
    (h : currentStatus calls callId = .cancelled) :
    currentStatus (states.foldl (fun calls state => applyToolCalls calls (.put state)) calls) callId =
      .cancelled := by
  induction states generalizing calls with
  | nil => exact h
  | cons state states ih => exact ih (cancelled_put h)

lemma Sound.replay (h : Sound store) (replay : List (ToolCallState J)) :
    Sound (replay.foldl (fun store state => (commitToolCall store state).2) store) ∧
      toolCalls (replay.foldl (fun store state => (commitToolCall store state).2) store) =
        replay.foldl (fun calls state => applyToolCalls calls (.put state)) (toolCalls store) := by
  induction replay generalizing store with
  | nil => exact ⟨h, rfl⟩
  | cons state replay ih =>
    obtain ⟨n, next, hcommit, hsound, hcalls⟩ := h.commit state
    rw [List.foldl_cons, List.foldl_cons, hcommit, ← hcalls]
    exact ih hsound

lemma standing_replayed {calls : ToolCallStateMap J} {replay : List (ToolCallState J)}
    (hreplay : ∀ state ∈ replay, state.status ≠ .cancelled) :
    standing (replay.foldl (fun calls state => applyToolCalls calls (.put state)) calls) callId =
      standing calls callId := by
  induction replay generalizing calls with
  | nil => rfl
  | cons state replay ih =>
    rw [List.forall_mem_cons] at hreplay
    rw [List.foldl_cons, ih hreplay.2, standing_put_of_ne hreplay.1]

lemma standing_eq_some {calls : ToolCallStateMap J} {result : J}
    (h : standing calls callId = some result) : ∃ callState, calls callId = some callState ∧
      callState.status = .cancelled ∧ callState.resumeInput.isSome = true := by
  obtain ⟨callState, hcall, hstate⟩ := Option.bind_eq_some_iff.mp h
  split at hstate
  next hstatus =>
    obtain ⟨resume, hinput, -⟩ := Option.map_eq_some_iff.mp hstate
    exact ⟨callState, hcall, hstatus, by rw [hinput]; rfl⟩
  next => cases hstate

lemma Sound.run (h : Sound store) {round : ResumeRound J C} (hround : round.Possible store) :
    Sound (round.run store).store ∧
      (round.run store).events =
        (cancelledResumes round.order (toolCalls (round.decided store))).map round.env.event ∧
      (∀ callId, standing (toolCalls (round.run store).store) callId = none) ∧
      ∀ callId, currentStatus (toolCalls (round.decided store)) callId = .cancelled →
        currentStatus (toolCalls (round.run store).store) callId = .cancelled := by
  have hdecided : Sound (round.decided store) := (h.decided round.batches "").1
  let cancelled := cancelledResumes round.order (toolCalls (round.decided store))
  let states := cancelled.map (fun call => announcedState call.2 (round.env.nowMs call.1))
  let start : ResumePass keys C := ⟨round.decided store, [], []⟩
  have hstart : Sound start.store := hdecided
  obtain ⟨next, hannounce, hnext, hcalls⟩ := hstart.announceEach round.env cancelled
  have hrun : round.run store = ⟨round.replay.foldl (fun store state =>
      (commitToolCall store state).2) next, cancelled.map round.env.event,
      cancelled.map round.env.marker⟩ := by
    rw [ResumeRound.run, detectAndReplayResume, emitCancelledResumes, hannounce]
    simp [start]
  obtain ⟨hsound, hreplayed⟩ := hnext.replay round.replay
  have hstates : toolCalls next = states.foldl (fun calls state =>
      applyToolCalls calls (.put state)) (toolCalls (round.decided store)) := by
    rw [hcalls, List.foldl_map]
  rw [hrun]
  refine ⟨hsound, rfl, fun callId => ?_, fun callId hstatus => ?_⟩
  · have hids : ∀ call ∈ cancelled, call.2.callId = call.1 := by
      intro call hmem
      exact hdecided.filed _ _ (mem_cancelledResumes.mp hmem).2.1
    dsimp only
    rw [hreplayed, standing_replayed hround.replayed, hcalls, standing_announcedAll _ _ hids]
    split
    · rfl
    next hmem =>
      cases hstanding : standing (toolCalls (round.decided store)) callId with
      | none => rfl
      | some result =>
        obtain ⟨callState, hcall, hcancelled⟩ := standing_eq_some hstanding
        have horder : callId ∈ round.order :=
          (hround.enumerates callId).mpr (by rw [hcall]; rfl)
        have hin : (callId, callState) ∈ cancelled :=
          (mem_cancelledResumes).mpr ⟨horder, hcall, hcancelled⟩
        exact absurd (List.mem_map_of_mem hin) hmem
  · dsimp only
    rw [hreplayed, hstates]
    exact cancelled_puts _ (cancelled_puts _ hstatus)

end Passes

section Announced

end Announced

end Awaken.LoopRunner
