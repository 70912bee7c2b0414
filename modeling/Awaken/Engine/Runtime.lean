import Mathlib.Algebra.Group.Nat.Defs
import Awaken.Engine.Queue
import Awaken.State.Store

namespace Awaken.Engine

open Awaken.State

variable {J κ : Type}

structure EffectDispatchReport where
  attempted : Nat
  dispatched : Nat
  failed : Nat
deriving DecidableEq

def EffectDispatchReport.zero : EffectDispatchReport := ⟨0, 0, 0⟩

def EffectDispatchReport.add (self other : EffectDispatchReport) : EffectDispatchReport :=
  ⟨self.attempted + other.attempted, self.dispatched + other.dispatched,
    self.failed + other.failed⟩

structure SubmitCommandReport where
  revision : Nat
  effectReport : EffectDispatchReport
deriving DecidableEq

def defaultMaxPhaseRounds : Nat := 16

structure PhaseRunReport where
  phase : Phase
  rounds : Nat
  processedScheduledActions : Nat
  skippedScheduledActions : Nat
  failedScheduledActions : Nat
  generatedEffects : Nat
  effectReport : EffectDispatchReport
deriving DecidableEq

structure CancellationToken where
  atEntry : Bool
  afterHooks : Bool

structure PhaseContext (K : κ → StateKey J) where
  phase : Phase
  snapshot : Snapshot K
  activeHookFilter : List String
  cancellationToken : Option CancellationToken

def PhaseContext.withSnapshot {K : κ → StateKey J} (self : PhaseContext K) (snapshot : Snapshot K) :
    PhaseContext K :=
  { self with snapshot := snapshot }

structure TaggedPhaseHook (K : κ → StateKey J) where
  pluginId : String
  hook : PhaseContext K → Except StateError (StateCommand K)

abbrev ScheduledActionHandler (K : κ → StateKey J) : Type :=
  PhaseContext K → J → Except StateError (StateCommand K)

structure ExecutionEnv (K : κ → StateKey J) where
  phaseHooks : Phase → List (TaggedPhaseHook K)
  scheduledActionHandlers : String → Option (ScheduledActionHandler K)
  effectHandlers : String → Option (J → Snapshot K → Except StateError Unit)

section Ids

def fetchAdd (id : Nat) : Nat := (id + 1) % 2 ^ 64

def advance (nextId : Nat) : Nat → Nat
  | 0 => nextId
  | n + 1 => advance (fetchAdd nextId) n

def drawnIds (nextId : Nat) : Nat → List Nat
  | 0 => []
  | n + 1 => nextId :: drawnIds (fetchAdd nextId) n

def envelopes (nextId : Nat) : List (ScheduledAction J) → List (ScheduledActionEnvelope J)
  | [] => []
  | action :: actions => ⟨nextId, action⟩ :: envelopes (fetchAdd nextId) actions

end Ids

inductive QueueEvent (J : Type) where
  | queued (nextId : Nat) (waiting : List (ScheduledActionEnvelope J))
      (actions : List (ScheduledAction J))
  | handed (envelope : ScheduledActionEnvelope J)
  | removed (waiting : List (ScheduledActionEnvelope J)) (envelope : ScheduledActionEnvelope J)

structure PhaseRuntime (keys : RuntimeKeys J κ) where
  store : StateStore keys.key
  nextId : Nat
  history : List (QueueEvent J)

namespace PhaseRuntime

variable {keys : RuntimeKeys J κ}

def pending (self : PhaseRuntime keys) : List (ScheduledActionEnvelope J) :=
  pendingOf self.store.inner.ext

def failed (self : PhaseRuntime keys) : List (FailedScheduledAction J) :=
  failedOf self.store.inner.ext

def record (self : PhaseRuntime keys) (event : QueueEvent J) : PhaseRuntime keys :=
  { self with history := self.history ++ [event] }

section Submit

def checkHandlers (env : ExecutionEnv keys.key) (command : StateCommand keys.key) :
    Except StateError Unit := do
  command.scheduledActions.forM (fun action =>
    if (env.scheduledActionHandlers action.key).isSome then .ok ()
    else .error (.unknownScheduledActionHandler action.key))
  command.effects.forM (fun effect =>
    if (env.effectHandlers effect.key).isSome then .ok ()
    else .error (.unknownEffectHandler effect.key))

def dispatchEffect (env : ExecutionEnv keys.key) (snapshot : Snapshot keys.key)
    (report : EffectDispatchReport) (effect : TypedEffect J) : EffectDispatchReport :=
  let report := { report with attempted := report.attempted + 1 }
  match env.effectHandlers effect.key with
  | none => { report with failed := report.failed + 1 }
  | some handler =>
    match handler effect.payload snapshot with
    | .ok () => { report with dispatched := report.dispatched + 1 }
    | .error _ => { report with failed := report.failed + 1 }

def dispatchEffects (env : ExecutionEnv keys.key) (effects : List (TypedEffect J))
    (snapshot : Snapshot keys.key) : EffectDispatchReport :=
  effects.foldl (dispatchEffect env snapshot) .zero

variable [DecidableEq κ]

def submitCommandInner (self : PhaseRuntime keys) (env : ExecutionEnv keys.key)
    (command : StateCommand keys.key) :
    Except StateError SubmitCommandReport × PhaseRuntime keys :=
  match checkHandlers env command with
  | .error e => (.error e, self)
  | .ok () =>
    let entries := envelopes self.nextId command.scheduledActions
    let patch := entries.foldl (fun patch entry => patch.push (pushPending entry)) command.patch
    let drawn := { self with
      nextId := advance self.nextId (command.scheduledActions.length + command.effects.length) }
    match self.store.commit patch with
    | (.error e, store) => (.error e, { drawn with store := store })
    | (.ok revision, store) =>
      let waiting := pendingOf (command.patch.ops.foldl MutationOp.apply self.store.inner.ext)
      (.ok ⟨revision, dispatchEffects env command.effects store.snapshot⟩,
        { drawn with store := store }.record
          (.queued self.nextId waiting command.scheduledActions))

end Submit

section Hooks

variable {K : κ → StateKey J}

def filterHooks (env : ExecutionEnv K) (ctx : PhaseContext K) : List (TaggedPhaseHook K) :=
  (env.phaseHooks ctx.phase).filter (fun tagged =>
    ctx.activeHookFilter.isEmpty || decide (tagged.pluginId ∈ ctx.activeHookFilter))

def runHook (tagged : TaggedPhaseHook K) (baseCtx : PhaseContext K) (snapshot : Snapshot K) :
    Except StateError (StateCommand K) := do
  let cmd ← tagged.hook (baseCtx.withSnapshot snapshot)
  return if cmd.baseRevision.isNone then cmd.withBaseRevision snapshot.revision else cmd

def runHooksIndexed (hooks : List (TaggedPhaseHook K)) (baseCtx : PhaseContext K)
    (snapshot : Snapshot K) : Except StateError (List (Fin hooks.length × StateCommand K)) := do
  let results ← (List.finRange hooks.length).mapM (fun i => do
    let cmd ← runHook (hooks.get i) baseCtx snapshot
    return (i, cmd))
  return results.filter (fun result => !result.2.isEmpty)

def repeatsExclusive (strategy : String → MergeStrategy) (seen : List String) :
    List String → Bool
  | [] => false
  | key :: keys =>
    if strategy key = .exclusive then
      if key ∈ seen then true else repeatsExclusive strategy (key :: seen) keys
    else repeatsExclusive strategy seen keys

def hasExclusiveKeyOverlap {ι : Type} (commands : List (ι × StateCommand K))
    (strategy : String → MergeStrategy) : Bool :=
  repeatsExclusive strategy [] (commands.flatMap (·.2.patch.touchedKeys))

def exclusiveKeys (strategy : String → MergeStrategy) (cmd : StateCommand K) : List String :=
  cmd.patch.touchedKeys.filter (fun key => strategy key = .exclusive)

def partitionFrom {ι : Type} (strategy : String → MergeStrategy)
    (batchExclusiveKeys : List String) :
    List (ι × StateCommand K) → List (StateCommand K) × List ι
  | [] => ([], [])
  | (i, cmd) :: commands =>
    if cmd.patch.touchedKeys.any (fun key =>
        decide (strategy key = .exclusive) && decide (key ∈ batchExclusiveKeys)) then
      let (batch, rest) := partitionFrom strategy batchExclusiveKeys commands
      (batch, i :: rest)
    else
      let (batch, rest) :=
        partitionFrom strategy (exclusiveKeys strategy cmd ++ batchExclusiveKeys) commands
      (cmd :: batch, rest)

/-- The commands of the batch, and the hooks whose commands are left out. -/
def partitionCommands {ι : Type} (commands : List (ι × StateCommand K))
    (strategy : String → MergeStrategy) : List (StateCommand K) × List ι :=
  partitionFrom strategy [] commands

end Hooks

section Gather

structure HookEffects where
  total : Nat
  report : EffectDispatchReport
deriving DecidableEq

def HookEffects.zero : HookEffects := ⟨0, .zero⟩

def HookEffects.add (self other : HookEffects) : HookEffects :=
  ⟨self.total + other.total, self.report.add other.report⟩

variable [DecidableEq κ]

def submitNonEmpty (self : PhaseRuntime keys) (env : ExecutionEnv keys.key)
    (command : StateCommand keys.key) : Except StateError HookEffects × PhaseRuntime keys :=
  if command.isEmpty then (.ok .zero, self)
  else
    match self.submitCommandInner env command with
    | (.error e, self) => (.error e, self)
    | (.ok report, self) => (.ok ⟨command.effects.length, report.effectReport⟩, self)

def submitMerged (self : PhaseRuntime keys) (env : ExecutionEnv keys.key)
    (commands : List (StateCommand keys.key)) :
    Except StateError HookEffects × PhaseRuntime keys :=
  match self.store.mergeAllCommands commands with
  | .error e => (.error e, self)
  | .ok merged => self.submitNonEmpty env merged

def rerunDeferred (self : PhaseRuntime keys) (env : ExecutionEnv keys.key)
    (hooks : List (TaggedPhaseHook keys.key)) (baseCtx : PhaseContext keys.key)
    (effects : HookEffects) :
    List (Fin hooks.length) → Except StateError HookEffects × PhaseRuntime keys
  | [] => (.ok effects, self)
  | i :: indices =>
    match runHook (hooks.get i) baseCtx self.store.snapshot with
    | .error e => (.error e, self)
    | .ok cmd =>
      match self.submitNonEmpty env cmd with
      | (.error e, self) => (.error e, self)
      | (.ok more, self) => self.rerunDeferred env hooks baseCtx (effects.add more) indices

def gatherAndCommitHooks (self : PhaseRuntime keys) (env : ExecutionEnv keys.key)
    (baseCtx : PhaseContext keys.key) : Except StateError HookEffects × PhaseRuntime keys :=
  let hooks := filterHooks env baseCtx
  if hooks.isEmpty then (.ok .zero, self)
  else
    match runHooksIndexed hooks baseCtx self.store.snapshot with
    | .error e => (.error e, self)
    | .ok indexed =>
      if indexed.isEmpty then (.ok .zero, self)
      else
        let strategy := self.store.registry.mergeStrategy
        if !hasExclusiveKeyOverlap indexed strategy then
          self.submitMerged env (indexed.map (·.2))
        else
          let (batchCommands, deferredIndices) := partitionCommands indexed strategy
          match (if batchCommands.isEmpty then (.ok .zero, self)
              else self.submitMerged env batchCommands) with
          | (.error e, self) => (.error e, self)
          | (.ok effects, self) => self.rerunDeferred env hooks baseCtx effects deferredIndices

def collectCommands (self : PhaseRuntime keys) (env : ExecutionEnv keys.key)
    (ctx : PhaseContext keys.key) : Except StateError (StateCommand keys.key) := do
  let indexed ← runHooksIndexed (filterHooks env ctx) ctx self.store.snapshot
  self.store.mergeAllCommands (indexed.map (·.2))

end Gather

section Execute

variable [DecidableEq κ]

def deadLetter (self : PhaseRuntime keys) (envelope : ScheduledActionEnvelope J)
    (error : String) : Except StateError Unit × PhaseRuntime keys :=
  let patch := (MutationBatch.new.push (removePending envelope.id)).push
    (pushFailed ⟨envelope.id, envelope.action, error⟩)
  match self.store.commit patch with
  | (.error e, store) => (.error e, { self with store := store })
  | (.ok _, store) => (.ok (), { self with store := store }.record (.removed self.pending envelope))

def matching (self : PhaseRuntime keys) (env : ExecutionEnv keys.key) (phase : Phase) :
    List (ScheduledActionEnvelope J × ScheduledActionHandler keys.key) :=
  self.pending.filterMap (fun envelope =>
    if envelope.action.phase = phase then
      (env.scheduledActionHandlers envelope.action.key).map (fun handler => (envelope, handler))
    else none)

def failAction (self : PhaseRuntime keys) (report : PhaseRunReport)
    (envelope : ScheduledActionEnvelope J) (error : String) :
    Except StateError PhaseRunReport × PhaseRuntime keys :=
  match self.deadLetter envelope error with
  | (.error e, self) => (.error e, self)
  | (.ok (), self) =>
    (.ok { report with failedScheduledActions := report.failedScheduledActions + 1 }, self)

def processAction (self : PhaseRuntime keys) (env : ExecutionEnv keys.key)
    (baseCtx : PhaseContext keys.key) (report : PhaseRunReport)
    (envelope : ScheduledActionEnvelope J) (handler : ScheduledActionHandler keys.key) :
    Except StateError PhaseRunReport × PhaseRuntime keys :=
  let self := self.record (.handed envelope)
  match handler (baseCtx.withSnapshot self.store.snapshot) envelope.action.payload with
  | .error err => self.failAction report envelope err.display
  | .ok command =>
    let report := { report with
      generatedEffects := report.generatedEffects + command.effects.length }
    let command := { command with patch := command.patch.push (removePending envelope.id) }
    match self.submitCommandInner env command with
    | (.ok submitted, after) =>
      (.ok { report with
          processedScheduledActions := report.processedScheduledActions + 1
          effectReport := report.effectReport.add submitted.effectReport },
        after.record (.removed self.pending envelope))
    | (.error err, self) =>
      self.failAction report envelope ("failed to submit action command: " ++ err.display)

def processActions (self : PhaseRuntime keys) (env : ExecutionEnv keys.key)
    (baseCtx : PhaseContext keys.key) (report : PhaseRunReport) :
    List (ScheduledActionEnvelope J × ScheduledActionHandler keys.key) →
      Except StateError PhaseRunReport × PhaseRuntime keys
  | [] => (.ok report, self)
  | (envelope, handler) :: rest =>
    match self.processAction env baseCtx report envelope handler with
    | (.error e, self) => (.error e, self)
    | (.ok report, self) => self.processActions env baseCtx report rest

/-- The loop, with the rounds that are left. -/
def executeRounds (self : PhaseRuntime keys) (env : ExecutionEnv keys.key)
    (baseCtx : PhaseContext keys.key) (maxRounds : Nat) (report : PhaseRunReport) :
    Nat → Except StateError PhaseRunReport × PhaseRuntime keys
  | 0 => (.error (.phaseRunLoopExceeded baseCtx.phase maxRounds), self)
  | left + 1 =>
    let report := { report with rounds := report.rounds + 1 }
    let matched := self.matching env baseCtx.phase
    if matched.isEmpty then
      if report.rounds = 1 then
        (.ok { report with skippedScheduledActions :=
          self.pending.countP (fun envelope => envelope.action.phase ≠ baseCtx.phase) }, self)
      else (.ok report, self)
    else
      match self.processActions env baseCtx report matched with
      | (.error e, self) => (.error e, self)
      | (.ok report, self) => self.executeRounds env baseCtx maxRounds report left

def executeScheduledActions (self : PhaseRuntime keys) (env : ExecutionEnv keys.key)
    (baseCtx : PhaseContext keys.key) (maxRounds : Nat) :
    Except StateError PhaseRunReport × PhaseRuntime keys :=
  self.executeRounds env baseCtx maxRounds ⟨baseCtx.phase, 0, 0, 0, 0, 0, .zero⟩ maxRounds

def runPhaseCtxInner (self : PhaseRuntime keys) (env : ExecutionEnv keys.key)
    (baseCtx : PhaseContext keys.key) (maxRounds : Nat) :
    Except StateError PhaseRunReport × PhaseRuntime keys :=
  if baseCtx.cancellationToken.any (·.atEntry) then (.error .cancelled, self)
  else
    match self.gatherAndCommitHooks env baseCtx with
    | (.error e, self) => (.error e, self)
    | (.ok hooks, self) =>
      if baseCtx.cancellationToken.any (·.afterHooks) then (.error .cancelled, self)
      else
        match self.executeScheduledActions env baseCtx maxRounds with
        | (.error e, self) => (.error e, self)
        | (.ok report, self) =>
          (.ok { report with
            generatedEffects := report.generatedEffects + hooks.total
            effectReport := report.effectReport.add hooks.report }, self)

def submitCommand (self : PhaseRuntime keys) (env : ExecutionEnv keys.key)
    (command : StateCommand keys.key) :
    Except StateError SubmitCommandReport × PhaseRuntime keys :=
  self.submitCommandInner env command

def runExecuteLoop (self : PhaseRuntime keys) (env : ExecutionEnv keys.key)
    (ctx : PhaseContext keys.key) : Except StateError PhaseRunReport × PhaseRuntime keys :=
  self.executeScheduledActions env ctx defaultMaxPhaseRounds

end Execute

end PhaseRuntime

end Awaken.Engine
