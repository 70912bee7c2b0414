import Awaken.ToolBatch.Step

namespace Awaken.ToolBatch

open Awaken.Lib Awaken.Lib.Program Awaken.State Awaken.Engine Awaken.Contract
open Awaken.Agent.LoopState (Role Visibility)

variable {J C κ W : Type} {keys : LoopKeys J κ}

abbrev Answer : Type := Role × Visibility × Option String

def Answer.of (message : Message J C) : Answer :=
  (message.role, message.visibility, message.toolCallId)

def answerTo (call : ToolCall J) : Answer := (.tool, .all, some call.id)

def StepState.answers (s : StepState keys W C) : List Answer := s.transcript.toolMessages.map .of

namespace StepContext

variable (ctx : StepContext keys W C)

section Writes

variable {call : ToolCall J}

lemma silent_await : Silent StepState.answers ctx.await := silent_change (fun _ => rfl)

lemma silent_liftState {α : Type} (x : Except StateError α) :
    Silent StepState.answers (liftState x : StepM keys W C α) := silent_lift _

lemma silent_emit (event : AgentEvent J) : Silent StepState.answers (ctx.emit event) :=
  silent_bind (silent_change (fun _ => rfl)) (fun _ => ctx.silent_await)

lemma writes_pushToolMessage (call : ToolCall J) (text : String) :
    Writes StepState.answers [answerTo call] (ctx.pushToolMessage call.id text) := by
  refine writes_change (fun s => ?_)
  change (s.transcript.toolMessages ++ [_]).map Answer.of = _
  rw [List.map_append]
  rfl

lemma silent_collectCommands (info : ToolInfo J C) (phase : PhaseContext keys.runtime.key) :
    Silent StepState.answers (ctx.collectCommands info phase) := by
  refine silent_bind silent_look (fun s => ?_)
  refine silent_bind (silent_liftState _) (fun cmd => ?_)
  exact silent_bind ctx.silent_await (fun _ => silent_pure _)

lemma silent_gatePayloads (info : ToolInfo J C) (phase : PhaseContext keys.runtime.key)
    (hooks : List (W → ToolInfo J C → PhaseContext keys.runtime.key →
      Except StateError (Option (ToolInterceptPayload J)))) :
    Silent StepState.answers (ctx.gatePayloads info phase hooks) := by
  induction hooks with
  | nil => exact silent_pure _
  | cons hook hooks ih =>
    refine silent_bind silent_look (fun s => ?_)
    refine silent_bind (silent_liftState _) (fun payload => ?_)
    refine silent_bind ctx.silent_await (fun _ => ?_)
    exact silent_bind ih (fun _ => silent_pure _)

lemma silent_runToolGate (call : ToolCall J) :
    Silent StepState.answers (ctx.runToolGate call) := by
  refine silent_bind silent_look (fun s => ?_)
  exact silent_bind (ctx.silent_gatePayloads _ _ _) (fun _ => silent_pure _)

lemma writes_emitToolCompletion (call : ToolCall J) (result : ToolResult J)
    (outcome : ToolCallOutcome) :
    Writes StepState.answers [answerTo call] (ctx.emitToolCompletion call result outcome) := by
  refine writes_of_silent_bind silent_look (fun s => ?_)
  exact writes_of_silent_bind (ctx.silent_emit _) (fun _ => ctx.writes_pushToolMessage call _)

lemma writes_emitSuspendCompletion (call : ToolCall J) (ticket : SuspendTicket J) :
    Writes StepState.answers [answerTo call] (ctx.emitSuspendCompletion call ticket) :=
  writes_of_silent_bind (ctx.silent_emit _) (fun _ => ctx.writes_pushToolMessage call _)

lemma silent_extendWith (cmd other : StateCommand keys.runtime.key) :
    Silent StepState.answers (extendWith cmd other : StepM keys W C _) := by
  rw [extendWith]
  split
  · exact silent_pure _
  · exact silent_liftState _

lemma silent_buildToolStateCommand (call : ToolCall J) (result : ToolResult J)
    (toolCommand : StateCommand keys.runtime.key) (outcome : ToolCallOutcome) :
    Silent StepState.answers (ctx.buildToolStateCommand call result toolCommand outcome) := by
  refine silent_bind silent_look (fun s => ?_)
  refine silent_bind (silent_extendWith _ _) (fun cmd => ?_)
  exact silent_bind (ctx.silent_collectCommands _ _) (fun after => silent_extendWith _ _)

variable [DecidableEq κ]

lemma silent_submitCommand (cmd : StateCommand keys.runtime.key) :
    Silent StepState.answers (ctx.submitCommand cmd) := by
  refine silent_bind silent_look (fun s => ?_)
  refine silent_bind (silent_change (fun _ => rfl)) (fun _ => ?_)
  exact silent_bind (silent_liftState _) (fun _ => ctx.silent_await)

lemma silent_runExecuteLoop (info : ToolInfo J C) (phase : PhaseContext keys.runtime.key) :
    Silent StepState.answers (ctx.runExecuteLoop info phase) := by
  refine silent_bind silent_look (fun s => ?_)
  refine silent_bind (silent_change (fun _ => rfl)) (fun _ => ?_)
  exact silent_bind (silent_liftState _) (fun _ => ctx.silent_await)

lemma writes_completeToolCall (call : ToolCall J) (result : ToolResult J)
    (toolCommand : StateCommand keys.runtime.key) (outcome : ToolCallOutcome) :
    Writes StepState.answers [answerTo call]
      (ctx.completeToolCall call result toolCommand outcome) := by
  refine writes_of_silent_bind (ctx.silent_buildToolStateCommand _ _ _ _) (fun cmd => ?_)
  exact writes_bind_silent (ctx.writes_emitToolCompletion call _ _)
    (fun _ => ctx.silent_submitCommand cmd)

lemma writes_completeInterruptedToolCall (call : ToolCall J) :
    Writes StepState.answers [answerTo call] (ctx.completeInterruptedToolCall call) := by
  refine writes_of_silent_bind silent_look (fun s => ?_)
  exact writes_bind_silent (ctx.writes_emitToolCompletion call _ _)
    (fun _ => ctx.silent_submitCommand _)

lemma writes_backfill (calls : List (ToolCall J)) :
    Writes StepState.answers (calls.map answerTo) (ctx.backfillInterruptedToolCalls calls) := by
  induction calls with
  | nil => exact silent_pure _
  | cons call calls ih =>
    exact writes_bind (ctx.writes_completeInterruptedToolCall call) (fun _ => ih)

lemma writes_applyInterceptPayload (call : ToolCall J) (payload : ToolInterceptPayload J) :
    Writes StepState.answers [answerTo call] (ctx.applyInterceptPayload call payload) := by
  cases payload with
  | block reason =>
    refine writes_of_silent_bind (ctx.silent_buildToolStateCommand _ _ _ _) (fun cmd => ?_)
    refine writes_of_silent_bind (ctx.silent_submitCommand cmd) (fun _ => ?_)
    exact writes_bind_silent (ctx.writes_emitToolCompletion call _ _) (fun _ => silent_pure _)
  | suspend ticket =>
    refine writes_of_silent_bind silent_look (fun s => ?_)
    refine writes_of_silent_bind (ctx.silent_submitCommand _) (fun _ => ?_)
    exact writes_bind_silent (ctx.writes_emitSuspendCompletion call ticket)
      (fun _ => silent_pure _)
  | setResult result =>
    exact writes_bind_silent (ctx.writes_completeToolCall call _ _ _) (fun _ => silent_pure _)

lemma silent_runBeforeToolExecute (call : ToolCall J) :
    Silent StepState.answers (ctx.runBeforeToolExecute call) := by
  refine silent_bind silent_look (fun s => ?_)
  refine silent_bind (ctx.silent_collectCommands _ _) (fun cmd => ?_)
  cases cmd.isEmpty with
  | true => exact silent_pure _
  | false =>
    refine silent_bind (ctx.silent_submitCommand cmd) (fun _ => ?_)
    exact silent_bind silent_look (fun s => ctx.silent_runExecuteLoop _ _)

lemma silent_runBeforeToolExecuteBatch (calls : List (ToolCall J)) :
    Silent StepState.answers (ctx.runBeforeToolExecuteBatch calls) := by
  induction calls with
  | nil => exact silent_pure _
  | cons call calls ih => exact silent_bind (ctx.silent_runBeforeToolExecute call) (fun _ => ih)

end Writes

section Execution

variable [DecidableEq κ] {call : ToolCall J} {calls : List (ToolCall J)}

def Progress (calls : List (ToolCall J)) (processed : Nat) (s : StepState keys W C)
    (outcome : ReadyExecutionOutcome) (t : StepState keys W C) : Prop :=
  ∃ n, outcome.processedCalls = processed + n ∧
    t.answers = s.answers ++ (calls.take n).map answerTo ∧
    (outcome.suspended = false → calls.length ≤ n)

variable {ctx} in
omit [DecidableEq κ] in
lemma execute_ensures {toolCtx : ToolCallContext keys}
    {P : List (ToolExecutionResult keys) → Prop}
    (h : ∀ s, ∃ results t,
      ctx.executor.execute ctx.json ctx.tools ctx.around calls toolCtx s = (.ok results, t) ∧
        P results) :
    Ensures (ctx.execute calls toolCtx)
      (fun s results t => t.answers = s.answers ∧ P results) := by
  intro s results t hexec
  obtain ⟨s', u, hlook, hexec⟩ := exec_bind_ok hexec
  obtain ⟨hs, rfl⟩ := Prod.mk.inj hlook
  obtain rfl := Except.ok.inj hs
  obtain ⟨_, u, hchange, hexec⟩ := exec_bind_ok hexec
  obtain ⟨-, rfl⟩ := Prod.mk.inj hchange
  obtain ⟨results', o, heq, hP⟩ := h s.outside
  rw [heq] at hexec
  obtain ⟨hresults, rfl⟩ := Prod.mk.inj hexec
  obtain rfl := Except.ok.inj hresults
  exact ⟨rfl, hP⟩

omit [DecidableEq κ] in
lemma execute_one (call : ToolCall J) (toolCtx : ToolCallContext keys) :
    Ensures (ctx.execute [call] toolCtx) (fun s results t => t.answers = s.answers ∧
      ∃ result, results = [result] ∧ result.call = call) := by
  refine execute_ensures (fun s => ?_)
  obtain ⟨result, t, heq, hcall⟩ :=
    execute_single ctx.json ctx.tools ctx.around toolCtx ctx.executor call s
  exact ⟨[result], t, heq, result, rfl, hcall⟩

omit [DecidableEq κ] in
lemma execute_together (he : ctx.executor.requiresIncrementalState = false)
    (calls : List (ToolCall J)) (toolCtx : ToolCallContext keys) :
    Ensures (ctx.execute calls toolCtx) (fun s results t => t.answers = s.answers ∧
      results.map (·.call) = calls) :=
  execute_ensures (execute_parallel ctx.json ctx.tools ctx.around toolCtx he calls)

lemma writes_completeExecuted (result : ToolExecutionResult keys) :
    Writes StepState.answers [answerTo result.call] (ctx.completeExecuted result) :=
  ctx.writes_completeToolCall _ _ _ _

lemma ensures_completeAll (results : List (ToolExecutionResult keys)) (suspended : Bool)
    (processed : Nat) :
    Ensures (ctx.completeAll results suspended processed) (fun s outcome t =>
      outcome.processedCalls = processed + results.length ∧
        t.answers = s.answers ++ (results.map (·.call)).map answerTo) := by
  induction results generalizing suspended processed with
  | nil => exact ensures_pure (fun s => ⟨rfl, (List.append_nil _).symm⟩)
  | cons result results ih =>
    refine ensures_bind (ctx.writes_completeExecuted result) (fun _ => ih _ _) ?_
    rintro s - u outcome t hs ⟨hcount, hu⟩
    refine ⟨?_, ?_⟩
    · rw [hcount, List.length_cons]
      omega
    · rw [hu, hs, List.append_assoc]
      rfl

lemma progress_of_completeAll {results : List (ToolExecutionResult keys)} {suspended : Bool}
    {processed : Nat} (hcalls : results.map (·.call) = calls) :
    Ensures (ctx.completeAll results suspended processed) (Progress calls processed) := by
  refine (ctx.ensures_completeAll results suspended processed).mono ?_
  rintro s outcome t ⟨hcount, ht⟩
  have hlen : results.length = calls.length := by rw [← hcalls, List.length_map]
  refine ⟨calls.length, by rw [hcount, hlen], ?_, fun _ => Nat.le_refl _⟩
  rw [ht, hcalls, List.take_length]

lemma progress_of_single {processed : Nat} {toolCtx : StepState keys W C → ToolCallContext keys}
    {rest : Nat → StepM keys W C ReadyExecutionOutcome}
    (hrest : ∀ processed, Ensures (rest processed) (Progress calls processed)) :
    Ensures (do
      ctx.runBeforeToolExecuteBatch [call]
      let s ← Program.look
      let batch ← ctx.execute [call] (toolCtx s)
      match batch.getLast? with
      | none => rest processed
      | some result =>
        ctx.completeExecuted result
        if result.outcome = .suspended then return ⟨true, processed + 1⟩
        else rest (processed + 1))
      (Progress (call :: calls) processed) := by
  intro s outcome t h
  obtain ⟨_, u₁, hbefore, h₁⟩ := exec_bind_ok h
  obtain ⟨s', u₂, hlook, h₂⟩ := exec_bind_ok h₁
  obtain ⟨-, rfl⟩ := Prod.mk.inj hlook
  obtain ⟨batch, u₃, hexecute, h₃⟩ := exec_bind_ok h₂
  obtain ⟨heq, result, rfl, rfl⟩ := ctx.execute_one _ _ _ _ _ hexecute
  change exec (ctx.completeExecuted result >>= fun _ =>
    if result.outcome = .suspended then pure ⟨true, processed + 1⟩ else rest (processed + 1)) u₃ =
      (.ok outcome, t) at h₃
  obtain ⟨_, u₄, hcomplete, h₄⟩ := exec_bind_ok h₃
  have hanswers : u₄.answers = s.answers ++ [answerTo result.call] := by
    have hu₁ := ctx.silent_runBeforeToolExecuteBatch _ _ _ _ hbefore
    rw [ctx.writes_completeExecuted result _ _ _ hcomplete, heq, hu₁, List.append_nil]
  by_cases hsuspended : result.outcome = .suspended
  · rw [if_pos hsuspended] at h₄
    obtain ⟨ho, rfl⟩ := Prod.mk.inj h₄
    obtain rfl := Except.ok.inj ho
    refine ⟨1, rfl, hanswers, ?_⟩
    intro hfalse
    cases hfalse
  · rw [if_neg hsuspended] at h₄
    obtain ⟨n, hcount, ht, hall⟩ := hrest _ _ _ _ h₄
    refine ⟨n + 1, by rw [hcount]; omega, ?_, fun hs => Nat.succ_le_succ (hall hs)⟩
    rw [ht, hanswers, List.append_assoc]
    rfl

lemma progress_executeIncremental (calls : List (ToolCall J)) (processed : Nat) :
    Ensures (ctx.executeIncremental calls processed) (Progress calls processed) := by
  induction calls generalizing processed with
  | nil => exact ensures_pure (fun s => ⟨0, rfl, (List.append_nil _).symm, fun _ => Nat.le_refl 0⟩)
  | cons call calls ih => exact ctx.progress_of_single ih

lemma progress_of_segment (he : ctx.executor.requiresIncrementalState = false)
    {segment : List (ToolCall J)} (hsegment : segment = calls.take segment.length)
    {processed : Nat} {toolCtx : StepState keys W C → ToolCallContext keys}
    {rest : Nat → StepM keys W C ReadyExecutionOutcome}
    (hrest : ∀ processed,
      Ensures (rest processed) (Progress (calls.drop segment.length) processed)) :
    Ensures (do
      ctx.runBeforeToolExecuteBatch segment
      let s ← Program.look
      let results ← ctx.execute segment (toolCtx s)
      let outcome ← ctx.completeAll results false processed
      if outcome.suspended then return outcome
      else rest outcome.processedCalls)
      (Progress calls processed) := by
  intro s outcome t h
  obtain ⟨_, u₁, hbefore, h₁⟩ := exec_bind_ok h
  obtain ⟨s', u₂, hlook, h₂⟩ := exec_bind_ok h₁
  obtain ⟨-, rfl⟩ := Prod.mk.inj hlook
  obtain ⟨results, u₃, hexecute, h₃⟩ := exec_bind_ok h₂
  obtain ⟨heq, hcalls⟩ := ctx.execute_together he _ _ _ _ _ hexecute
  obtain ⟨done, u₄, hcomplete, h₄⟩ := exec_bind_ok h₃
  obtain ⟨hcount, hdone⟩ := ctx.ensures_completeAll _ _ _ _ _ _ hcomplete
  have hlen : results.length = segment.length := by rw [← hcalls, List.length_map]
  have hanswers : u₄.answers = s.answers ++ segment.map answerTo := by
    rw [hdone, hcalls, heq, ctx.silent_runBeforeToolExecuteBatch _ _ _ _ hbefore, List.append_nil]
  cases hsuspended : done.suspended with
  | true =>
    rw [hsuspended] at h₄
    obtain ⟨ho, rfl⟩ := Prod.mk.inj h₄
    obtain rfl := Except.ok.inj ho
    refine ⟨segment.length, by rw [hcount, hlen], ?_, fun hfalse => ?_⟩
    · rw [hanswers, ← hsegment]
    · rw [hsuspended] at hfalse
      cases hfalse
  | false =>
    rw [hsuspended] at h₄
    obtain ⟨n, hn, ht, hall⟩ := hrest _ _ _ _ h₄
    refine ⟨segment.length + n, by rw [hn, hcount, hlen]; omega, ?_, fun hs => ?_⟩
    · rw [ht, hanswers, List.take_add, ← hsegment, List.map_append, List.append_assoc]
    · have hrest := hall hs
      rw [List.length_drop] at hrest
      omega

lemma progress_executeSegments (he : ctx.executor.requiresIncrementalState = false) {fuel : Nat}
    (hfuel : calls.length ≤ fuel) (processed : Nat) :
    Ensures (ctx.executeSegments fuel calls processed) (Progress calls processed) := by
  have hnil : ∀ processed, Ensures (pure ⟨false, processed⟩ : StepM keys W C _)
      (Progress [] processed) := by
    intro processed
    exact ensures_pure (fun s => ⟨0, rfl, (List.append_nil _).symm, fun _ => Nat.le_refl 0⟩)
  induction fuel generalizing calls processed with
  | zero =>
    obtain rfl := List.eq_nil_of_length_eq_zero (Nat.le_zero.mp hfuel)
    exact hnil processed
  | succ fuel ih =>
    cases calls with
    | nil => exact hnil processed
    | cons call calls =>
      have hrest : calls.length ≤ fuel := Nat.le_of_succ_le_succ hfuel
      intro s outcome t h
      obtain ⟨s', u, hlook, h⟩ := exec_bind_ok h
      obtain ⟨hs, rfl⟩ := Prod.mk.inj hlook
      obtain rfl := Except.ok.inj hs
      by_cases hresume : (s.resumeState call).isSome = true
      · rw [if_pos hresume] at h
        exact ctx.progress_of_single (fun processed => ih hrest processed) s outcome t h
      · rw [if_neg hresume] at h
        have hnone : (s.resumeState call).isNone = true := by
          simpa using hresume
        have hcons : (call :: calls).takeWhile (fun call => (s.resumeState call).isNone) =
            call :: calls.takeWhile (fun call => (s.resumeState call).isNone) :=
          List.takeWhile_cons_of_pos hnone
        have hprefix := List.takeWhile_prefix (fun call => (s.resumeState call).isNone)
          (l := call :: calls)
        refine ctx.progress_of_segment he (List.prefix_iff_eq_take.mp hprefix)
          (fun processed => ih ?_ processed) s outcome t h
        rw [hcons, List.length_cons, List.drop_succ_cons, List.length_drop]
        omega

lemma progress_executeReadyToolCalls (calls : List (ToolCall J)) :
    Ensures (ctx.executeReadyToolCalls calls) (Progress calls 0) := by
  intro s outcome t h
  rw [executeReadyToolCalls] at h
  split at h
  · rename_i hempty
    rw [List.isEmpty_iff.mp hempty]
    obtain ⟨ho, rfl⟩ := Prod.mk.inj h
    obtain rfl := Except.ok.inj ho
    exact ⟨0, rfl, (List.append_nil _).symm, fun _ => Nat.le_refl 0⟩
  · obtain ⟨s', u, hlook, h₁⟩ := exec_bind_ok h
    obtain ⟨hs, rfl⟩ := Prod.mk.inj hlook
    obtain rfl := Except.ok.inj hs
    split at h₁
    · exact ctx.progress_executeIncremental calls 0 s outcome t h₁
    · rename_i he
      have he := Bool.eq_false_iff.mpr he
      split at h₁
      · exact ctx.progress_executeSegments he (Nat.le_refl _) 0 s outcome t h₁
      · obtain ⟨_, u₁, hbefore, h₂⟩ := exec_bind_ok h₁
        obtain ⟨results, u₂, hexecute, h₃⟩ := exec_bind_ok h₂
        obtain ⟨heq, hcalls⟩ := ctx.execute_together he _ _ _ _ _ hexecute
        obtain ⟨n, hcount, ht, hall⟩ := ctx.progress_of_completeAll hcalls _ _ _ h₃
        refine ⟨n, hcount, ?_, hall⟩
        rw [ht, heq, ctx.silent_runBeforeToolExecuteBatch _ _ _ _ hbefore, List.append_nil]

end Execution

section Interception

variable [DecidableEq κ] {call : ToolCall J} {calls allowedCalls : List (ToolCall J)}

lemma progress_executeAllowedToolCalls (allowedCalls : List (ToolCall J)) :
    Ensures (ctx.executeAllowedToolCalls allowedCalls) (fun s batch t =>
      batch.blockedReason = none ∧
        Progress allowedCalls 0 s ⟨batch.suspended, batch.processedCalls⟩ t) := by
  intro s batch t h
  obtain ⟨outcome, u, hready, h₁⟩ := exec_bind_ok h
  obtain ⟨hb, rfl⟩ := Prod.mk.inj h₁
  obtain rfl := Except.ok.inj hb
  exact ⟨rfl, ctx.progress_executeReadyToolCalls allowedCalls _ _ _ hready⟩

lemma answers_of_backfill {s u t : StepState keys W C} {a : Unit}
    {outcome : ReadyExecutionOutcome} (hprogress : Progress allowedCalls 0 s outcome u)
    (h : (ctx.backfillInterruptedToolCalls (allowedCalls.drop outcome.processedCalls)).exec u =
      (.ok a, t)) : t.answers = s.answers ++ allowedCalls.map answerTo := by
  obtain ⟨n, hcount, hu, -⟩ := hprogress
  rw [hcount, Nat.zero_add] at h
  rw [ctx.writes_backfill _ _ _ _ h, hu, List.append_assoc, ← List.map_append,
    List.take_append_drop]

omit [DecidableEq κ] in
lemma answers_of_finished {s t : StepState keys W C} {outcome : ReadyExecutionOutcome}
    (hprogress : Progress allowedCalls 0 s outcome t) (h : outcome.suspended = false) :
    t.answers = s.answers ++ allowedCalls.map answerTo := by
  obtain ⟨n, -, ht, hall⟩ := hprogress
  rw [ht, List.take_of_length_le (hall h)]

lemma writes_executeRemaining (allowedCalls : List (ToolCall J)) (suspended : Bool) :
    Writes StepState.answers (allowedCalls.map answerTo)
      (ctx.executeRemaining allowedCalls suspended) := by
  intro s result t h
  rw [executeRemaining] at h
  split at h
  · rename_i hempty
    rw [List.isEmpty_iff.mp hempty]
    obtain ⟨-, rfl⟩ := Prod.mk.inj h
    exact (List.append_nil _).symm
  · obtain ⟨batch, u, hbatch, h₁⟩ := exec_bind_ok h
    obtain ⟨hblocked, hprogress⟩ := ctx.progress_executeAllowedToolCalls _ _ _ _ hbatch
    rw [hblocked] at h₁
    dsimp only at h₁
    split at h₁
    · obtain ⟨_, v, hfill, h₂⟩ := exec_bind_ok h₁
      obtain ⟨-, rfl⟩ := Prod.mk.inj h₂
      exact ctx.answers_of_backfill hprogress hfill
    · rename_i hsuspended
      obtain ⟨-, rfl⟩ := Prod.mk.inj h₁
      exact answers_of_finished hprogress (Bool.eq_false_iff.mpr hsuspended)

def Gated (call : ToolCall J) (calls allowedCalls : List (ToolCall J)) (s : StepState keys W C)
    (outcome : GateOutcome J) (t : StepState keys W C) : Prop :=
  match outcome with
  | .finished _ => t.answers = s.answers ++ (allowedCalls ++ call :: calls).map answerTo
  | .decided none waiting =>
    t.answers ++ waiting.map answerTo = s.answers ++ allowedCalls.map answerTo
  | .decided (some _) waiting =>
    waiting = [] ∧ t.answers = s.answers ++ allowedCalls.map answerTo

lemma gated_gateCall (call : ToolCall J) (calls allowedCalls : List (ToolCall J))
    (suspended : Bool) :
    Ensures (ctx.gateCall call calls allowedCalls suspended) (Gated call calls allowedCalls) := by
  intro s outcome t h
  obtain ⟨intercept, u, hgate, h₁⟩ := exec_bind_ok h
  have hu : u.answers = s.answers := by
    rw [ctx.silent_runToolGate call _ _ _ hgate, List.append_nil]
  split at h₁
  · obtain ⟨batch, v, hbatch, h₂⟩ := exec_bind_ok h₁
    obtain ⟨hblocked, hprogress⟩ := ctx.progress_executeAllowedToolCalls _ _ _ _ hbatch
    rw [hblocked] at h₂
    dsimp only at h₂
    split at h₂
    · obtain ⟨_, w, hfill, h₃⟩ := exec_bind_ok h₂
      obtain ⟨_, x, hrest, h₄⟩ := exec_bind_ok h₃
      obtain ⟨ho, rfl⟩ := Prod.mk.inj h₄
      obtain rfl := Except.ok.inj ho
      change x.answers = _
      rw [ctx.writes_backfill _ _ _ _ hrest, ctx.answers_of_backfill hprogress hfill, hu,
        List.map_append, List.append_assoc]
    · rename_i hsuspended
      obtain ⟨again, w, hagain, h₃⟩ := exec_bind_ok h₂
      obtain ⟨ho, rfl⟩ := Prod.mk.inj h₃
      obtain rfl := Except.ok.inj ho
      have hw : w.answers = s.answers ++ allowedCalls.map answerTo := by
        rw [ctx.silent_runToolGate call _ _ _ hagain, List.append_nil,
          answers_of_finished hprogress (Bool.eq_false_iff.mpr hsuspended), hu]
      cases again with
      | none => exact (List.append_nil _).trans hw
      | some payload => exact ⟨rfl, hw⟩
  · rename_i hcond
    obtain ⟨ho, rfl⟩ := Prod.mk.inj h₁
    obtain rfl := Except.ok.inj ho
    cases intercept with
    | none => exact congrArg (· ++ _) hu
    | some payload =>
      have hnil : allowedCalls = [] := by
        by_contra hne
        exact hcond ⟨rfl, hne⟩
      refine ⟨hnil, ?_⟩
      rw [hu, hnil]
      exact (List.append_nil _).symm

theorem writes_interceptCalls (calls allowedCalls : List (ToolCall J)) (suspended : Bool) :
    Writes StepState.answers ((allowedCalls ++ calls).map answerTo)
      (ctx.interceptCalls calls allowedCalls suspended) := by
  induction calls generalizing allowedCalls suspended with
  | nil =>
    rw [List.append_nil]
    exact ctx.writes_executeRemaining allowedCalls suspended
  | cons call calls ih =>
    intro s result t h
    obtain ⟨outcome, u, hgate, h₁⟩ := exec_bind_ok h
    have hgated := ctx.gated_gateCall _ _ _ _ _ _ _ hgate
    match outcome with
    | .finished _ =>
      obtain ⟨-, rfl⟩ := Prod.mk.inj h₁
      exact hgated
    | .decided none waiting =>
      have ht := ih _ _ _ _ _ h₁
      rw [ht, List.append_assoc, List.map_append, ← List.append_assoc, hgated, List.append_assoc,
        ← List.map_append]
      rfl
    | .decided (some payload) waiting =>
      obtain ⟨rfl, hu⟩ := hgated
      obtain ⟨applied, v, happly, h₂⟩ := exec_bind_ok h₁
      have hv : v.answers = s.answers ++ (allowedCalls ++ [call]).map answerTo := by
        rw [ctx.writes_applyInterceptPayload call payload _ _ _ happly, hu, List.append_assoc,
          List.map_append]
        rfl
      have hcalls : s.answers ++ (allowedCalls ++ [call]).map answerTo ++ calls.map answerTo =
          s.answers ++ (allowedCalls ++ call :: calls).map answerTo := by
        rw [List.append_assoc, ← List.map_append, List.append_assoc]
        rfl
      cases hblocked : applied.blockedReason with
      | some reason =>
        rw [hblocked] at h₂
        obtain ⟨_, w, hfill, h₃⟩ := exec_bind_ok h₂
        obtain ⟨-, rfl⟩ := Prod.mk.inj h₃
        rw [ctx.writes_backfill _ _ _ _ hfill, hv, hcalls]
      | none =>
        rw [hblocked] at h₂
        rw [ih _ _ _ _ _ h₂, hv, List.nil_append, hcalls]

/-- A batch that succeeds leaves one tool result for each of its calls, in the order of the calls,
and no other. -/
theorem transcript_complete (calls : List (ToolCall J)) (hids : (calls.map ToolCall.id).Nodup)
    (s t : StepState keys W C) (result : Option String × Bool)
    (hstart : (∃ id text inferred, s.transcript = .forInference id text inferred) ∨
      s.transcript = .forResume)
    (h : (ctx.executeToolsWithInterception calls).exec s = (.ok result, t)) :
    t.transcript.toolMessages.map Answer.of = calls.map answerTo ∧
    (∀ call ∈ calls,
      t.transcript.toolMessages.countP (fun message => message.toolCallId = some call.id) = 1) ∧
    ∀ message ∈ t.transcript.toolMessages,
      message.role = .tool ∧ ∃ call ∈ calls, message.toolCallId = some call.id := by
  have hempty : s.answers = [] := by
    rcases hstart with ⟨id, text, inferred, hs⟩ | hs <;> rw [StepState.answers, hs] <;> rfl
  have hanswers : t.transcript.toolMessages.map Answer.of = calls.map answerTo := by
    have hrun : t.answers = s.answers ++ calls.map answerTo :=
      ctx.writes_interceptCalls calls [] false s result t h
    rwa [hempty] at hrun
  refine ⟨hanswers, fun call hcall => ?_, fun message hmem => ?_⟩
  · have hcount : t.transcript.toolMessages.countP
        (fun message => message.toolCallId = some call.id) =
          (calls.map answerTo).countP (fun answer => answer.2.2 = some call.id) := by
      rw [← hanswers, List.countP_map]
      rfl
    have hcalls : (calls.map answerTo).countP (fun answer => answer.2.2 = some call.id) =
        (calls.map ToolCall.id).count call.id := by
      rw [List.countP_map, List.count, List.countP_map]
      refine List.countP_congr (fun other _ => ?_)
      simp [answerTo]
    rw [hcount, hcalls]
    exact List.count_eq_one_of_mem hids (List.mem_map_of_mem hcall)
  · have hmem' : Answer.of message ∈ calls.map answerTo := hanswers ▸ List.mem_map_of_mem hmem
    obtain ⟨call, hcall, heq⟩ := List.mem_map.mp hmem'
    obtain ⟨hrole, hrest⟩ := Prod.mk.inj heq
    exact ⟨hrole.symm, call, hcall, (Prod.mk.inj hrest).2.symm⟩

end Interception

end StepContext

section Sample

def sampleKeys : LoopKeys Unit Empty where
  pendingCodec := ⟨fun _ => .ok (), fun _ => .ok []⟩
  failedCodec := ⟨fun _ => .ok (), fun _ => .ok []⟩
  toolCallsCodec := ⟨fun _ => .ok (), fun _ => .ok (fun _ => none)⟩
  other := Empty.elim

def sampleContext : StepContext sampleKeys Unit String where
  json := ⟨(), fun _ => (), fun _ => (), fun _ => (), fun _ => "null"⟩
  text := id
  env := ⟨fun _ => [], [fun _ info _ =>
    .ok (if info.toolName = some "rm" then some (.block "denied") else none)], fun _ => none,
    fun _ => none⟩
  tools _ := none
  executor := .sequential
  activeHookFilter := []
  cancellationToken := none
  messages := []
  around := ⟨id, fun _ => []⟩
  nowMs _ := 0
  genMessageId _ := "m"

def sampleRegistry : PluginRegistry (RuntimeKey (Option Empty)) :=
  PluginRegistry.empty.insertKey
    (.new sampleKeys.runtime.key (.other none) ⟨true, false, .run⟩)

def sampleState : StepState sampleKeys Unit String where
  outside := ⟨⟨⟨⟨0, .empty⟩, sampleRegistry⟩, 0, []⟩, ()⟩
  transcript := .forResume
  events := []

def sampleCalls : List (ToolCall Unit) := [⟨"c1", "ls", ()⟩, ⟨"c2", "rm", ()⟩, ⟨"c3", "ls", ()⟩]

theorem transcript_complete_sample :
    let t := ((sampleContext.executeToolsWithInterception sampleCalls).exec sampleState).2
    t.transcript.toolMessages.map Answer.of = sampleCalls.map answerTo := by
  have hrun : (sampleContext.executeToolsWithInterception sampleCalls).exec sampleState =
      (.ok (some "denied", false),
        ((sampleContext.executeToolsWithInterception sampleCalls).exec sampleState).2) :=
    Prod.ext rfl rfl
  exact (sampleContext.transcript_complete sampleCalls (by decide) sampleState _ _ (.inr rfl)
    hrun).1

end Sample

end Awaken.ToolBatch
