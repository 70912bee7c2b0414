import Awaken.Lib.Run
import Awaken.Stores.MemoryStore.Append
import Awaken.LoopRunner.Materialize

namespace Awaken.LoopRunner

open Awaken.Lib Awaken.Lib.Text Awaken.Contract Awaken.Contract.Storage
open Awaken.Contract.MessageAppend Awaken.Stores.MemoryStore

variable {J C : Type}

section Commit

inductive CommitError where
  | validation (text : String)
  | messageVersionConflict (threadId : String) (expected actual : Nat)
  | storeWrite (error : StorageError)

structure ThreadCommit (J C : Type) where
  threadId : String
  messageDelta : List (Message J C)
  expectedMessageCount : Option Nat
  runProjection : RunRecord J

def ThreadCommit.validate (self : ThreadCommit J C) : Except CommitError Unit :=
  if isBlank self.threadId then .error (.validation "thread_id must be non-empty")
  else if self.runProjection.threadId ≠ self.threadId then
    .error (.validation (s!"run_projection.thread_id '{self.runProjection.threadId}' must match " ++
      s!"thread commit thread_id '{self.threadId}'"))
  else if isBlank self.runProjection.runId then
    .error (.validation "run_projection.run_id must be non-empty")
  else if isBlank self.runProjection.agentId then
    .error (.validation "run_projection.agent_id must be non-empty")
  else if !self.messageDelta.isEmpty && self.expectedMessageCount.isNone then
    .error (.validation
      "append with a non-empty message delta requires an expected_message_count guard")
  else .ok ()

def CommitError.reclassifyAppendConflict (self : CommitError) (threadId : String) : CommitError :=
  match self with
  | .storeWrite (.versionConflict expected actual) =>
    .messageVersionConflict threadId expected actual
  | other => other

def CommitError.isConflict : CommitError → Bool
  | .messageVersionConflict _ _ _ => true
  | _ => false

def commitCheckpoint [DecidableEq J] (store : InMemoryStore J C) (now : Nat)
    (plan : ThreadCommit J C) : Except CommitError Unit × InMemoryStore J C :=
  match plan.validate with
  | .error e => (.error e, store)
  | .ok () =>
    match store.checkpointAppend now plan.threadId plan.messageDelta plan.expectedMessageCount
        plan.runProjection with
    | (.error e, store) =>
      (.error ((CommitError.storeWrite e).reclassifyAppendConflict plan.threadId), store)
    | (.ok _, store) => (.ok (), store)

end Commit

def maxAppendAttempts : Nat := 8

structure Job (J : Type) where
  previous : Option (RunRecord J)
  base : RunRecord J
  stepCount : Nat
  inputMessageCount : Nat
  boundaryId : Option String

inductive CheckpointPhase (J C : Type) where
  | idle
  | reading (attempts : Nat) (job : Job J)
  | committing (attempts : Nat) (job : Job J) (committed : List (Message J C))

structure LoopWorld (J C : Type) where
  store : InMemoryStore J C
  live : List (Message J C)
  checkpointed : Nat
  runCache : Option (RunRecord J)
  phase : CheckpointPhase J C

def LoopWorld.start : LoopWorld J C := ⟨.new, [], 0, none, .idle⟩

section Step

variable (identity : RunIdentity) (isSummaryText : List C → Bool)

def buildPlan (job : Job J) (live committed : List (Message J C)) : ThreadCommit J C :=
  let (delta, output) := materializeCheckpointAppend identity committed job.inputMessageCount live
    job.previous job.stepCount
  { threadId := identity.threadId
    messageDelta := stampCompactionMarks isSummaryText delta committed job.boundaryId
    expectedMessageCount := some committed.length
    runProjection := { job.base with output := output } }

def AppendsOnly (s s' : InMemoryStore J C) : Prop :=
  s'.runs.get identity.runId = s.runs.get identity.runId ∧
    ∃ delta, validateAppendOnlyDelta (s.committed identity.threadId) delta = .ok () ∧
      s'.committed identity.threadId = s.committed identity.threadId ++ delta

inductive LoopLabel (J C : Type) where
  | others (call : StoreCall J C)
  | activate (messages : List (Message J C)) (cached : Bool)
  | grow (messages : List (Message J C))
  | persist (job : Job J)
  | read
  | unread
  | exhausted
  | commit (now : Nat)
  | conflict (now : Nat)
  | fail (now : Nat)

variable [DecidableEq J]

def LoopWorld.previous (w : LoopWorld J C) : Option (RunRecord J) :=
  w.runCache.or (w.store.loadRun identity.runId)

inductive LoopStep : LoopWorld J C → LoopLabel J C → LoopWorld J C → Prop
  | others {w : LoopWorld J C} {call : StoreCall J C} {store : InMemoryStore J C} :
      StoreStep w.store call store → AppendsOnly identity w.store store →
      LoopStep w (.others call) { w with store := store }
  | activate {w : LoopWorld J C} (messages : List (Message J C)) (cached : Bool) :
      w.phase = .idle →
      LoopStep w (.activate messages cached)
        { w with
          live := messages
          checkpointed := 0
          runCache := if cached then w.store.loadRun identity.runId else none }
  | grow {w : LoopWorld J C} (messages : List (Message J C)) :
      w.phase = .idle → LoopStep w (.grow messages) { w with live := w.live ++ messages }
  | persist {w : LoopWorld J C} {job : Job J} :
      w.phase = .idle → job.previous = w.previous identity → job.base.runId = identity.runId →
      LoopStep w (.persist job) { w with phase := .reading maxAppendAttempts job }
  | read {w : LoopWorld J C} {attempts : Nat} {job : Job J}
      {log : Option (List (Message J C))} :
      w.phase = .reading (attempts + 1) job →
      w.store.loadCommittedMessages identity.threadId = .ok log →
      LoopStep w .read { w with phase := .committing attempts job (log.getD []) }
  | unread {w : LoopWorld J C} {attempts : Nat} {job : Job J} {e : StorageError} :
      w.phase = .reading (attempts + 1) job →
      w.store.loadCommittedMessages identity.threadId = .error e →
      LoopStep w .unread { w with phase := .idle }
  | exhausted {w : LoopWorld J C} {job : Job J} :
      w.phase = .reading 0 job → LoopStep w .exhausted { w with phase := .idle }
  | commit {w : LoopWorld J C} {attempts now : Nat} {job : Job J}
      {committed : List (Message J C)} {store : InMemoryStore J C} :
      w.phase = .committing attempts job committed →
      commitCheckpoint w.store now (buildPlan identity isSummaryText job w.live committed) =
        (.ok (), store) →
      LoopStep w (.commit now)
        { w with store := store, checkpointed := w.live.length, phase := .idle }
  | conflict {w : LoopWorld J C} {attempts now : Nat} {job : Job J}
      {committed : List (Message J C)} {store : InMemoryStore J C} {e : CommitError} :
      w.phase = .committing attempts job committed →
      commitCheckpoint w.store now (buildPlan identity isSummaryText job w.live committed) =
        (.error e, store) →
      e.isConflict = true →
      LoopStep w (.conflict now) { w with store := store, phase := .reading attempts job }
  | fail {w : LoopWorld J C} {attempts now : Nat} {job : Job J}
      {committed : List (Message J C)} {store : InMemoryStore J C} {e : CommitError} :
      w.phase = .committing attempts job committed →
      commitCheckpoint w.store now (buildPlan identity isSummaryText job w.live committed) =
        (.error e, store) →
      e.isConflict = false →
      LoopStep w (.fail now) { w with store := store, phase := .idle }

end Step

end Awaken.LoopRunner
