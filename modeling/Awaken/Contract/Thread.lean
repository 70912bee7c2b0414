import Awaken.Lib.Table
import Awaken.Contract.RunRecord

namespace Awaken.Contract

open Awaken.Lib Awaken.Lib.Text Awaken.Contract.Storage Awaken.Contract.Lifecycle

variable {J : Type}

def normalizeLineageId (value : Option String) : Option String :=
  (value.map trim).filter (fun value => !value.isEmpty)

@[simp] lemma normalizeLineageId_normalizeLineageId (value : Option String) :
    normalizeLineageId (normalizeLineageId value) = normalizeLineageId value := by
  cases value with
  | none => rfl
  | some value =>
    by_cases h : (trim value).isEmpty <;> simp [normalizeLineageId, Option.filter, h]

structure ThreadMetadata (J : Type) where
  createdAt : Option Nat
  updatedAt : Option Nat
  title : Option String
  custom : Table String J

structure Thread (J : Type) where
  id : String
  resourceId : Option String
  parentThreadId : Option String
  metadata : ThreadMetadata J
  activeRunId : Option String
  openRunId : Option String
  latestRunId : Option String
  latestRunUpdatedAt : Option Nat

namespace Thread

def withId (id : String) : Thread J :=
  ⟨id, none, none, ⟨none, none, none, .empty⟩, none, none, none, none⟩

def normalizeLineage (self : Thread J) : Thread J :=
  { self with
    resourceId := normalizeLineageId self.resourceId
    parentThreadId := normalizeLineageId self.parentThreadId }

def validateParent (self : Thread J) : Except StorageError Unit :=
  if normalizeLineageId self.parentThreadId = some (trim self.id) then
    invalidRun s!"thread '{self.id}' cannot parent itself"
  else .ok ()

def validateForPersist (self : Thread J) : Except StorageError Unit := do
  requireNonEmpty "thread id" self.id
  requireOptionalNonEmpty "thread resource_id" self.resourceId
  requireOptionalNonEmpty "thread parent_thread_id" self.parentThreadId
  requireOptionalNonEmpty "thread active_run_id" self.activeRunId
  requireOptionalNonEmpty "thread open_run_id" self.openRunId
  requireOptionalNonEmpty "thread latest_run_id" self.latestRunId
  self.validateParent

def touch (self : Thread J) (now : Nat) : Thread J :=
  { self with metadata := { self.metadata with
      createdAt := some (self.metadata.createdAt.getD now)
      updatedAt := some now } }

def clearRunProjectionIfMatches (self : Thread J) (runId : String) : Thread J :=
  { self with
    activeRunId := if self.activeRunId = some runId then none else self.activeRunId
    openRunId := if self.openRunId = some runId then none else self.openRunId }

def requestedParent (run : RunRecord J) : Option String := run.request.bind (·.parentThreadId)

def projectLatest (self : Thread J) (run : RunRecord J) : Thread J :=
  { self with
    latestRunId := some run.runId
    latestRunUpdatedAt := some run.updatedAt
    parentThreadId :=
      if self.parentThreadId.isNone then normalizeLineageId (requestedParent run)
      else self.parentThreadId }

def applyRunProjection (self : Thread J) (run : RunRecord J) : Thread J :=
  if self.latestRunUpdatedAt.all (· ≤ run.updatedAt) then
    let self := self.projectLatest run
    match run.status with
    | .created => { self with activeRunId := none, openRunId := some run.runId }
    | .running => { self with activeRunId := some run.runId, openRunId := some run.runId }
    | .waiting => { self with activeRunId := none, openRunId := some run.runId }
    | .done => self.clearRunProjectionIfMatches run.runId
  else if run.status = .done then self.clearRunProjectionIfMatches run.runId
  else self

lemma parent_applyRunProjection (self : Thread J) (run : RunRecord J) :
    (self.applyRunProjection run).parentThreadId = self.parentThreadId ∨
      (self.applyRunProjection run).parentThreadId = (self.projectLatest run).parentThreadId := by
  unfold applyRunProjection clearRunProjectionIfMatches
  split
  · right
    cases run.status <;> rfl
  · left
    split <;> rfl

lemma id_applyRunProjection (self : Thread J) (run : RunRecord J) :
    (self.applyRunProjection run).id = self.id := by
  unfold applyRunProjection clearRunProjectionIfMatches projectLatest
  split
  · cases run.status <;> rfl
  · split <;> rfl

end Thread

def checkpointParentThreadId (existingThread : Option (Thread J)) (run : RunRecord J) :
    Option String :=
  (existingThread.bind (·.parentThreadId)).or (Thread.requestedParent run)

end Awaken.Contract
