import Awaken.Contract.VersionedRegistry
import Awaken.Lib.Table
import Mathlib.Data.List.MinMax

/-! The versioned registry in memory. A call that takes the lock twice is two steps. -/

namespace Awaken.Stores.MemoryVersionedRegistry

open Awaken.Lib Awaken.Lib.Text Awaken.Contract.VersionedRegistry

abbrev ResourceKey := String × String × String

structure Inner (J : Type) where
  resources : Table ResourceKey (VersionedResourceState J)
  versions : Table ResourceKey (List (VersionedRecord J))
  publications : Table String (Table Nat (RegistryPublication J))

abbrev Reply (J α : Type) := Except VersionedRegistryError α × Inner J

def key (scopeId kind id : String) : ResourceKey := (scopeId, kind, id)

variable {J : Type}

def validatePublicationRequest (publicationId : String) (entries : List VersionRef) :
    Except VersionedRegistryError Unit :=
  if isBlank publicationId then .error (.invalidRequest "publication_id cannot be empty")
  else if entries = [] then .error (.invalidRequest "publication entries cannot be empty")
  else validateDistinct VersionRef.checkVersion "entry" VersionRef.identity [] entries

def checkNames (resource : RegistryResourcePublish J) : Except VersionedRegistryError Unit :=
  if isBlank resource.kind || isBlank resource.id then
    .error (.invalidRequest "publication resource kind and id cannot be empty")
  else .ok ()

def validateResourcePublicationRequest (publicationId : String)
    (resources : List (RegistryResourcePublish J)) : Except VersionedRegistryError Unit :=
  if isBlank publicationId then .error (.invalidRequest "publication_id cannot be empty")
  else if resources.isEmpty then
    .error (.invalidRequest "publication resources cannot be empty")
  else validateDistinct checkNames "resource" RegistryResourcePublish.identity [] resources

namespace Inner

def default : Inner J := ⟨.empty, .empty, .empty⟩

def records (self : Inner J) (resourceKey : ResourceKey) : List (VersionedRecord J) :=
  (self.versions.get resourceKey).getD []

def scopePublications (self : Inner J) (scopeId : String) : Table Nat (RegistryPublication J) :=
  (self.publications.get scopeId).getD .empty

def get (self : Inner J) (scopeId kind id : String) (version : Nat) :
    Option (VersionedRecord J) :=
  (self.records (key scopeId kind id)).find? (·.version = version)

def listVersions (self : Inner J) (scopeId kind id : String) : List (VersionedRecord J) :=
  self.records (key scopeId kind id)

def resourceState (self : Inner J) (scopeId kind id : String) :
    Option (VersionedResourceState J) :=
  self.resources.get (key scopeId kind id)

def currentRecord (self : Inner J) (resourceKey : ResourceKey) : Option (VersionedRecord J) :=
  ((self.resources.get resourceKey).bind (·.currentVersion)).bind (fun currentVersion =>
    (self.records resourceKey).find? (·.version = currentVersion))

def current (self : Inner J) (scopeId kind id : String) : Option (VersionedRecord J) :=
  self.currentRecord (key scopeId kind id)

def ensureNotArchived (self : Inner J) (scopeId kind id : String) :
    Except VersionedRegistryError Unit :=
  match self.resources.get (key scopeId kind id) with
  | some state => state.ensureNotArchived kind id
  | none => .ok ()

def nextVersion (self : Inner J) (resourceKey : ResourceKey) : Nat :=
  match (self.records resourceKey).getLast? with
  | some record => record.version + 1
  | none => 1

def upsertResourceState (self : Inner J) (scopeId kind id : String) (version now : Nat)
    (metadata : J) : Inner J :=
  let state := match self.resources.get (key scopeId kind id) with
    | some state =>
      { state with currentVersion := some version, updatedAtMs := now, metadata := metadata }
    | none => ⟨scopeId, kind, id, some version, none, now, now, metadata⟩
  { self with resources := self.resources.insert (key scopeId kind id) state }

def addVersion (self : Inner J) (now : Nat) (scopeId : String)
    (resource : RegistryResourcePublish J) (contentHash : String)
    (canonicalJsonBytes : List UInt8) : VersionedRecord J × Inner J :=
  let resourceKey := key scopeId resource.kind resource.id
  let record : VersionedRecord J := {
    kind := resource.kind
    id := resource.id
    version := self.nextVersion resourceKey
    contentHash := contentHash
    valueSchemaVersion := resource.valueSchemaVersion
    value := resource.value
    canonicalJsonBytes := canonicalJsonBytes
    createdAtMs := now
    metadata := resource.metadata }
  let self := { self with
    versions := self.versions.insert resourceKey (self.records resourceKey ++ [record]) }
  (record, self.upsertResourceState scopeId resource.kind resource.id record.version now
    resource.metadata)

def publishPrepared (self : Inner J) (now : Nat) (scopeId : String)
    (resource : RegistryResourcePublish J) (contentHash : String)
    (canonicalJsonBytes : List UInt8) : PublishOutcome J × Inner J :=
  match (self.current scopeId resource.kind resource.id).filter
      (·.contentHash = contentHash) with
  | some current => (.noop current, self)
  | none =>
    let (record, self) := self.addVersion now scopeId resource contentHash canonicalJsonBytes
    (.created record, self)

def publishResource (json : RegistryJson J) (self : Inner J) (now : Nat) (scopeId : String)
    (resource : RegistryResourcePublish J) : Reply J (PublishOutcome J) :=
  match json.registryContentHash resource.valueSchemaVersion resource.value with
  | .error error => (.error error, self)
  | .ok (contentHash, canonicalJsonBytes) =>
    match self.ensureNotArchived scopeId resource.kind resource.id with
    | .error error => (.error error, self)
    | .ok () =>
      let (outcome, self) := self.publishPrepared now scopeId resource contentHash canonicalJsonBytes
      (.ok outcome, self)

def rollbackPrior (self : Inner J) (scopeId kind id : String) (toVersion : Nat) :
    Except VersionedRegistryError (VersionedRecord J) :=
  match self.get scopeId kind id toVersion with
  | some prior => .ok prior
  | none => .error (.notFound (versionName kind id toVersion))

def rollbackWrite (json : RegistryJson J) (self : Inner J) (now : Nat) (scopeId kind id : String)
    (toVersion : Nat) (metadata : J) (prior : VersionedRecord J) : Reply J (VersionedRecord J) :=
  match json.buildRollbackMetadata metadata toVersion with
  | .error error => (.error error, self)
  | .ok metadata =>
    match json.registryContentHash prior.valueSchemaVersion prior.value with
    | .error error => (.error error, self)
    | .ok (contentHash, canonicalJsonBytes) =>
      match self.ensureNotArchived scopeId kind id with
      | .error error => (.error error, self)
      | .ok () =>
        let (record, self) := self.addVersion now scopeId
          ⟨kind, id, prior.value, prior.valueSchemaVersion, metadata⟩ contentHash canonicalJsonBytes
        (.ok record, self)

def rollbackResource (json : RegistryJson J) (self : Inner J) (now : Nat) (scopeId kind id : String)
    (toVersion : Nat) (metadata : J) : Reply J (VersionedRecord J) :=
  match self.rollbackPrior scopeId kind id toVersion with
  | .error error => (.error error, self)
  | .ok prior => rollbackWrite json self now scopeId kind id toVersion metadata prior

def archiveResource (self : Inner J) (now : Nat) (scopeId kind id : String) : Reply J Unit :=
  match self.resources.get (key scopeId kind id) with
  | none => (.error (.notFound (resourceName kind id)), self)
  | some state =>
    if state.archivedAtMs.isNone then
      let state := { state with archivedAtMs := some now, updatedAtMs := now }
      (.ok (), { self with resources := self.resources.insert (key scopeId kind id) state })
    else (.ok (), self)

def unarchiveResource (self : Inner J) (now : Nat) (scopeId kind id : String) : Reply J Unit :=
  match self.resources.get (key scopeId kind id) with
  | none => (.error (.notFound (resourceName kind id)), self)
  | some state =>
    if state.archivedAtMs.isSome then
      let state := { state with archivedAtMs := none, updatedAtMs := now }
      (.ok (), { self with resources := self.resources.insert (key scopeId kind id) state })
    else (.ok (), self)

/-- The loop that publishes the prepared resources. -/
def publishAll (now : Nat) (scopeId : String) :
    List (RegistryResourcePublish J × String × List UInt8) → List VersionRef → Inner J →
      List VersionRef × Inner J
  | [], entries, self => (entries, self)
  | (resource, contentHash, canonicalJsonBytes) :: prepared, entries, self =>
    let (outcome, self) := self.publishPrepared now scopeId resource contentHash canonicalJsonBytes
    let record := match outcome with
      | .created record | .noop record => record
    publishAll now scopeId prepared (entries ++ [⟨record.kind, record.id, record.version⟩]) self

def lastPublication (self : Inner J) (scopeId : String) : Option (RegistryPublication J) :=
  ((self.scopePublications scopeId).entries.argmax Prod.fst).map Prod.snd

def nextSnapshot (self : Inner J) (scopeId : String) : Nat :=
  match (self.scopePublications scopeId).entries.argmax Prod.fst with
  | some (snapshotVersion, _) => snapshotVersion + 1
  | none => 1

def publicationExists (self : Inner J) (scopeId publicationId : String) : Bool :=
  (self.scopePublications scopeId).values.any (·.publicationId = publicationId)

def addPublication (self : Inner J) (now : Nat) (scopeId publicationId : String)
    (entries : List VersionRef) (sourceConfigRevisions : List ConfigRevisionRef)
    (createdBy : Option String) (metadata : J) : RegistryPublication J × Inner J :=
  let publication : RegistryPublication J := {
    publicationId := publicationId
    scopeId := scopeId
    snapshotVersion := self.nextSnapshot scopeId
    entries := sortPublicationEntries entries
    sourceConfigRevisions := sourceConfigRevisions
    createdBy := createdBy
    createdAtMs := now
    metadata := metadata }
  let publications :=
    (self.scopePublications scopeId).insert publication.snapshotVersion publication
  (publication, { self with publications := self.publications.insert scopeId publications })

def publishResourcesAndCreatePublication (json : RegistryJson J) (self : Inner J) (now : Nat)
    (scopeId publicationId : String) (resources : List (RegistryResourcePublish J))
    (sourceConfigRevisions : List ConfigRevisionRef) (createdBy : Option String) (metadata : J) :
    Reply J (RegistryPublication J) :=
  match validateResourcePublicationRequest publicationId resources with
  | .error error => (.error error, self)
  | .ok () =>
    match prepare json resources with
    | .error error => (.error error, self)
    | .ok prepared =>
      if self.publicationExists scopeId publicationId then
        (.error (.alreadyExists s!"publication/{publicationId}"), self)
      else
        match prepared.forM (fun (resource, _) =>
            self.ensureNotArchived scopeId resource.kind resource.id) with
        | .error error => (.error error, self)
        | .ok () =>
          let (entries, self) := publishAll now scopeId prepared [] self
          let (publication, self) := self.addPublication now scopeId publicationId entries
            sourceConfigRevisions createdBy metadata
          (.ok publication, self)

def validatePublicationEntry (self : Inner J) (scopeId : String) (entry : VersionRef) :
    Except VersionedRegistryError Unit :=
  match self.resources.get (key scopeId entry.kind entry.id) with
  | none => .error (.notFound (resourceName entry.kind entry.id))
  | some state =>
    match state.ensureNotArchived entry.kind entry.id with
    | .error error => .error error
    | .ok () =>
      if (self.get scopeId entry.kind entry.id entry.version).isSome then .ok ()
      else .error (.notFound (versionName entry.kind entry.id entry.version))

def createPublication (self : Inner J) (now : Nat) (scopeId publicationId : String)
    (entries : List VersionRef) (sourceConfigRevisions : List ConfigRevisionRef)
    (createdBy : Option String) (metadata : J) : Reply J (RegistryPublication J) :=
  match validatePublicationRequest publicationId entries with
  | .error error => (.error error, self)
  | .ok () =>
    if self.publicationExists scopeId publicationId then
      (.error (.alreadyExists s!"publication/{publicationId}"), self)
    else
      match entries.forM (self.validatePublicationEntry scopeId) with
      | .error error => (.error error, self)
      | .ok () =>
        let (publication, self) := self.addPublication now scopeId publicationId entries
          sourceConfigRevisions createdBy metadata
        (.ok publication, self)

def getPublication (self : Inner J) (scopeId : String) (snapshotVersion : Nat) :
    Option (RegistryPublication J) :=
  (self.scopePublications scopeId).get snapshotVersion

def rollbackPublication (json : RegistryJson J) (self : Inner J) (now : Nat) (scopeId : String)
    (sourceSnapshotVersion : Nat) (publicationId : String) (createdBy : Option String)
    (metadata : J) : Reply J (RegistryPublication J) :=
  match rollbackSources json (fun snapshotVersion => .ok (self.getPublication scopeId snapshotVersion))
      (fun kind id version => .ok (self.get scopeId kind id version)) scopeId
      sourceSnapshotVersion publicationId with
  | .error error => (.error error, self)
  | .ok (resources, sourceConfigRevisions) =>
    publishResourcesAndCreatePublication json self now scopeId publicationId resources
      sourceConfigRevisions createdBy metadata

def eligible (policy : RegistryRetentionPolicy) (nowMs : Nat) (isProtected : VersionRef → Bool)
    (kind id : String) (currentVersion : Option Nat) :
    Nat → List (VersionedRecord J) → List VersionRef
  | _, [] => []
  | kept, record :: records =>
    if some record.version = currentVersion || isProtected ⟨kind, id, record.version⟩ ||
        policy.keepYoungerThanMs.any (fun window => nowMs - record.createdAtMs < window) then
      eligible policy nowMs isProtected kind id currentVersion kept records
    else if kept < policy.keepLastVersions.getD 0 then
      eligible policy nowMs isProtected kind id currentVersion (kept + 1) records
    else
      ⟨kind, id, record.version⟩ ::
        eligible policy nowMs isProtected kind id currentVersion kept records

def planLe (a b : VersionRef) : Bool :=
  a.kind < b.kind || (a.kind = b.kind && (a.id < b.id || (a.id = b.id && a.version ≤ b.version)))

/-- What a purge decides while it holds the lock for reading. -/
def purgePlan (self : Inner J) (scopeId : String) (nowMs : Nat) (policy : RegistryRetentionPolicy) :
    List VersionRef :=
  let isProtected := fun version => version ∈ policy.protectedVersions ||
    (self.scopePublications scopeId).values.any (fun publication => version ∈ publication.entries)
  let plan := (self.versions.entries.filter (fun e => e.1.1 = scopeId)).flatMap (fun e =>
    eligible policy nowMs isProtected e.1.2.1 e.1.2.2
      ((self.resources.get e.1).bind (·.currentVersion)) 0
      (e.2.mergeSort (fun a b => b.version ≤ a.version)))
  plan.mergeSort planLe

/-- What a purge does while it holds the lock for writing. -/
def purgeDelete (self : Inner J) (scopeId : String) (plan : List VersionRef) : Inner J :=
  let retain := fun (versions : Table ResourceKey (List (VersionedRecord J))) version =>
    versions.modify (key scopeId version.kind version.id)
      (fun records => records.filter (·.version ≠ version.version))
  { self with versions := plan.foldl retain self.versions }

end Inner

end Awaken.Stores.MemoryVersionedRegistry
