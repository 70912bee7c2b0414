namespace Awaken.Contract.Lifecycle

structure StoppedReason where
  code : String
  detail : Option String
deriving DecidableEq

inductive TerminationReason where
  | naturalEnd
  | behaviorRequested
  | stopped (reason : StoppedReason)
  | cancelled
  | blocked (reason : String)
  | suspended
  | error (message : String)
deriving DecidableEq

inductive RunStatus where
  | created
  | running
  | waiting
  | done
deriving DecidableEq

end Awaken.Contract.Lifecycle

namespace Awaken.Contract.Storage

inductive StorageError where
  | validation (message : String)
  | notFound (what : String)
  | alreadyExists (what : String)
  | versionConflict (expected actual : Nat)
  | pendingSelectionConflict (expectedIds actualIds : List String)
  | io (message : String)
  | commitUnknown (message : String)
  | serialization (message : String)
deriving DecidableEq

end Awaken.Contract.Storage
