import Awaken.Lib.Text

namespace Awaken.Contract.VersionedRegistry

open Awaken.Lib.Text

structure VersionRef where
  kind : String
  id : String
  version : Nat
deriving DecidableEq

structure VersionedRecord (J : Type) where
  kind : String
  id : String
  version : Nat
  contentHash : String
  valueSchemaVersion : Nat
  value : J
  canonicalJsonBytes : List UInt8
  createdAtMs : Nat
  metadata : J
deriving DecidableEq

inductive PublishOutcome (J : Type) where
  | created (record : VersionedRecord J)
  | noop (record : VersionedRecord J)
deriving DecidableEq

structure RegistryResourcePublish (J : Type) where
  kind : String
  id : String
  value : J
  valueSchemaVersion : Nat
  metadata : J
deriving DecidableEq

structure VersionedResourceState (J : Type) where
  scopeId : String
  kind : String
  id : String
  currentVersion : Option Nat
  archivedAtMs : Option Nat
  createdAtMs : Nat
  updatedAtMs : Nat
  metadata : J
deriving DecidableEq

structure ConfigRevisionRef where
  «namespace» : String
  id : String
  revision : Nat
deriving DecidableEq

structure RegistryPublication (J : Type) where
  publicationId : String
  scopeId : String
  snapshotVersion : Nat
  entries : List VersionRef
  sourceConfigRevisions : List ConfigRevisionRef
  createdBy : Option String
  createdAtMs : Nat
  metadata : J
deriving DecidableEq

inductive VersionedRegistryError where
  | notFound (name : String)
  | archived (kind id : String)
  | alreadyExists (name : String)
  | invalidRequest (message : String)
  | serialization (message : String)
  | backend (message : String)
deriving DecidableEq

structure RegistryRetentionPolicy where
  keepLastVersions : Option Nat
  keepYoungerThanMs : Option Nat
  protectedVersions : List VersionRef

structure RegistryJson (J : Type) where
  registryContentHash : Nat → J → Except VersionedRegistryError (String × List UInt8)
  buildRollbackMetadata : J → Nat → Except VersionedRegistryError J
  rollbackSource : RegistryPublication J → VersionRef → VersionedRecord J → J

variable {J α : Type}

def VersionedResourceState.ensureNotArchived (self : VersionedResourceState J) (kind id : String) :
    Except VersionedRegistryError Unit :=
  if self.archivedAtMs.isSome then .error (.archived kind id) else .ok ()

def entryLe (a b : VersionRef) : Bool := a.kind < b.kind || (a.kind = b.kind && a.id ≤ b.id)

def sortPublicationEntries (entries : List VersionRef) : List VersionRef := entries.mergeSort entryLe

def resourceName (kind id : String) : String := s!"{kind}/{id}"

def versionName (kind id : String) (version : Nat) : String := s!"{kind}/{id}@{version}"

def validateDistinct (check : α → Except VersionedRegistryError Unit) (what : String)
    (identity : α → String × String) (seen : List (String × String)) :
    List α → Except VersionedRegistryError Unit
  | [] => .ok ()
  | item :: items => do
    check item
    if identity item ∈ seen then
      .error (.invalidRequest
        s!"duplicate publication {what} {resourceName (identity item).1 (identity item).2}")
    else validateDistinct check what identity (identity item :: seen) items

def VersionRef.identity (self : VersionRef) : String × String := (self.kind, self.id)

def RegistryResourcePublish.identity (self : RegistryResourcePublish J) : String × String :=
  (self.kind, self.id)

def VersionRef.checkVersion (self : VersionRef) : Except VersionedRegistryError Unit :=
  if self.version = 0 then
    .error (.invalidRequest s!"{resourceName self.kind self.id} version cannot be 0")
  else .ok ()

def prepare (json : RegistryJson J) (resources : List (RegistryResourcePublish J)) :
    Except VersionedRegistryError (List (RegistryResourcePublish J × String × List UInt8)) :=
  resources.mapM (fun resource => do
    let (contentHash, canonicalJsonBytes) ←
      json.registryContentHash resource.valueSchemaVersion resource.value
    return (resource, contentHash, canonicalJsonBytes))

def rollbackSources (json : RegistryJson J)
    (getPublication : Nat → Except VersionedRegistryError (Option (RegistryPublication J)))
    (get : String → String → Nat → Except VersionedRegistryError (Option (VersionedRecord J)))
    (scopeId : String) (sourceSnapshotVersion : Nat) (publicationId : String) :
    Except VersionedRegistryError (List (RegistryResourcePublish J) × List ConfigRevisionRef) :=
  if isBlank publicationId then .error (.invalidRequest "publication_id cannot be empty")
  else do
    match ← getPublication sourceSnapshotVersion with
    | none => .error (.notFound s!"publication/{scopeId}@{sourceSnapshotVersion}")
    | some sourcePublication =>
      let resources ← sourcePublication.entries.mapM (fun entry => do
        match ← get entry.kind entry.id entry.version with
        | none => .error (.notFound (versionName entry.kind entry.id entry.version))
        | some record =>
          return ⟨entry.kind, entry.id, record.value, record.valueSchemaVersion,
            json.rollbackSource sourcePublication entry record⟩)
      return (resources, sourcePublication.sourceConfigRevisions)

end Awaken.Contract.VersionedRegistry
