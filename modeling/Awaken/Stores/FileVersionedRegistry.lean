import Awaken.Contract.VersionedRegistry
import Awaken.Lib.Table

namespace Awaken.Stores.FileVersionedRegistry

open Awaken.Lib Awaken.Lib.Text Awaken.Contract.VersionedRegistry

structure FileVersionedRecord (J : Type) where
  scopeId : String
  record : VersionedRecord J

structure FileRegistryState (J : Type) where
  resources : List (VersionedResourceState J)
  versions : List (FileVersionedRecord J)
  publications : List (RegistryPublication J)

abbrev Disk (Text : Type) := Table String Text

structure FileVersionedRegistryStore (J Text : Type) where
  basePath : String
  toStringPretty : FileRegistryState J → Except String Text
  fromStr : Text → Except String (FileRegistryState J)
  debug : String → String

variable {J Text : Type}

def updateFirst {α : Type} (p : α → Bool) (f : α → α) : List α → List α
  | [] => []
  | a :: l => if p a then f a :: l else a :: updateFirst p f l

namespace FileRegistryState

def default : FileRegistryState J := ⟨[], [], []⟩

def isResource (scopeId kind id : String) (resource : VersionedResourceState J) : Bool :=
  resource.scopeId = scopeId && resource.kind = kind && resource.id = id

def isVersionOf (scopeId kind id : String) (entry : FileVersionedRecord J) : Bool :=
  entry.scopeId = scopeId && entry.record.kind = kind && entry.record.id = id

def findResource (state : FileRegistryState J) (scopeId kind id : String) :
    Option (VersionedResourceState J) :=
  state.resources.find? (isResource scopeId kind id)

def findVersion (state : FileRegistryState J) (scopeId kind id : String) (version : Nat) :
    Option (VersionedRecord J) := do
  let _ ← state.findResource scopeId kind id
  let entry ← state.versions.find? (fun entry =>
    isVersionOf scopeId kind id entry && entry.record.version = version)
  return entry.record

def currentRecord (state : FileRegistryState J) (scopeId kind id : String) :
    Option (VersionedRecord J) := do
  let resource ← state.findResource scopeId kind id
  let currentVersion ← resource.currentVersion
  state.findVersion scopeId kind id currentVersion

def records (state : FileRegistryState J) (scopeId kind id : String) : List (VersionedRecord J) :=
  (state.versions.filter (isVersionOf scopeId kind id)).map (·.record)

def nextVersion (state : FileRegistryState J) (scopeId kind id : String) : Nat :=
  ((state.records scopeId kind id).map (·.version)).max?.getD 0 + 1

def upsertResource (state : FileRegistryState J) (scopeId kind id : String) (version now : Nat)
    (metadata : J) : FileRegistryState J :=
  if (state.findResource scopeId kind id).isSome then
    let update := fun (resource : VersionedResourceState J) =>
      { resource with currentVersion := some version, updatedAtMs := now, metadata := metadata }
    { state with resources := updateFirst (isResource scopeId kind id) update state.resources }
  else
    { state with
      resources := state.resources ++ [⟨scopeId, kind, id, some version, none, now, now, metadata⟩] }

def ensureNotArchived (state : FileRegistryState J) (scopeId kind id : String) :
    Except VersionedRegistryError Unit :=
  match state.findResource scopeId kind id with
  | some resource => resource.ensureNotArchived kind id
  | none => .ok ()

def addVersion (state : FileRegistryState J) (now : Nat) (scopeId : String)
    (resource : RegistryResourcePublish J) (contentHash : String)
    (canonicalJsonBytes : List UInt8) : VersionedRecord J × FileRegistryState J :=
  let record : VersionedRecord J := {
    kind := resource.kind
    id := resource.id
    version := state.nextVersion scopeId resource.kind resource.id
    contentHash := contentHash
    valueSchemaVersion := resource.valueSchemaVersion
    value := resource.value
    canonicalJsonBytes := canonicalJsonBytes
    createdAtMs := now
    metadata := resource.metadata }
  let entry : FileVersionedRecord J := ⟨scopeId, record⟩
  let state : FileRegistryState J := { state with versions := state.versions ++ [entry] }
  (record, state.upsertResource scopeId resource.kind resource.id record.version now
    resource.metadata)

def unchanged (state : FileRegistryState J) (scopeId : String)
    (resource : RegistryResourcePublish J) (contentHash : String) : Option (VersionedRecord J) :=
  (state.currentRecord scopeId resource.kind resource.id).filter (·.contentHash = contentHash)

/-- The loop that publishes the prepared resources. -/
def publishAll (now : Nat) (scopeId : String) :
    List (RegistryResourcePublish J × String × List UInt8) → List VersionRef →
      FileRegistryState J → List VersionRef × FileRegistryState J
  | [], entries, state => (entries, state)
  | (resource, contentHash, canonicalJsonBytes) :: prepared, entries, state =>
    let published := match state.unchanged scopeId resource contentHash with
      | some current => (current, state)
      | none => state.addVersion now scopeId resource contentHash canonicalJsonBytes
    let entry : VersionRef := ⟨published.1.kind, published.1.id, published.1.version⟩
    publishAll now scopeId prepared (entries ++ [entry]) published.2

def scopePublications (state : FileRegistryState J) (scopeId : String) :
    List (RegistryPublication J) :=
  state.publications.filter (·.scopeId = scopeId)

def publicationExists (state : FileRegistryState J) (scopeId publicationId : String) : Bool :=
  state.publications.any (fun publication =>
    publication.scopeId = scopeId && publication.publicationId = publicationId)

def addPublication (state : FileRegistryState J) (now : Nat) (scopeId publicationId : String)
    (entries : List VersionRef) (sourceConfigRevisions : List ConfigRevisionRef)
    (createdBy : Option String) (metadata : J) : RegistryPublication J × FileRegistryState J :=
  let publication : RegistryPublication J := {
    publicationId := publicationId
    scopeId := scopeId
    snapshotVersion :=
      ((state.scopePublications scopeId).map (·.snapshotVersion)).max?.getD 0 + 1
    entries := sortPublicationEntries entries
    sourceConfigRevisions := sourceConfigRevisions
    createdBy := createdBy
    createdAtMs := now
    metadata := metadata }
  (publication, { state with publications := state.publications ++ [publication] })

def validatePublicationEntry (state : FileRegistryState J) (scopeId : String) (entry : VersionRef) :
    Except VersionedRegistryError Unit :=
  match state.findResource scopeId entry.kind entry.id with
  | none => .error (.notFound (resourceName entry.kind entry.id))
  | some resource =>
    match resource.ensureNotArchived entry.kind entry.id with
    | .error error => .error error
    | .ok () =>
      if (state.findVersion scopeId entry.kind entry.id entry.version).isNone then
        .error (.notFound (versionName entry.kind entry.id entry.version))
      else .ok ()

end FileRegistryState

def hasTwoDots : List Char → Bool
  | '.' :: '.' :: _ => true
  | _ :: chars => hasTwoDots chars
  | [] => false

def invalidCharacters (chars : List Char) : Bool :=
  '/' ∈ chars || '\\' ∈ chars || hasTwoDots chars || '\x00' ∈ chars || chars.any isControl

namespace FileVersionedRegistryStore

open FileRegistryState

variable (store : FileVersionedRegistryStore J Text) (json : RegistryJson J)

def validateId (id label : String) : Except VersionedRegistryError Unit :=
  if isBlank id then .error (.backend s!"io error: {label} cannot be empty")
  else if invalidCharacters id.toList then
    .error (.backend s!"io error: {label} contains invalid characters: {store.debug id}")
  else .ok ()

def validateResourceIdentity (scopeId kind id : String) : Except VersionedRegistryError Unit := do
  store.validateId scopeId "registry scope id"
  store.validateId kind "registry kind"
  store.validateId id "registry id"

def statePath : String := s!"{store.basePath}/versioned_registry/state.json"

def loadState (disk : Disk Text) : Except VersionedRegistryError (FileRegistryState J) :=
  match disk.get store.statePath with
  | none => .ok .default
  | some content =>
    match store.fromStr content with
    | .ok state => .ok state
    | .error message => .error (.serialization message)

def saveState (disk : Disk Text) (state : FileRegistryState J) :
    Except VersionedRegistryError (Disk Text) :=
  match store.toStringPretty state with
  | .ok payload => .ok (disk.insert store.statePath payload)
  | .error message => .error (.serialization message)

def resourceState (disk : Disk Text) (scopeId kind id : String) :
    Except VersionedRegistryError (Option (VersionedResourceState J)) := do
  store.validateResourceIdentity scopeId kind id
  let state ← store.loadState disk
  return state.findResource scopeId kind id

def current (disk : Disk Text) (scopeId kind id : String) :
    Except VersionedRegistryError (Option (VersionedRecord J)) := do
  store.validateResourceIdentity scopeId kind id
  let state ← store.loadState disk
  return state.currentRecord scopeId kind id

def get (disk : Disk Text) (scopeId kind id : String) (version : Nat) :
    Except VersionedRegistryError (Option (VersionedRecord J)) := do
  store.validateResourceIdentity scopeId kind id
  let state ← store.loadState disk
  return state.findVersion scopeId kind id version

def listVersions (disk : Disk Text) (scopeId kind id : String) :
    Except VersionedRegistryError (List (VersionedRecord J)) := do
  store.validateResourceIdentity scopeId kind id
  let state ← store.loadState disk
  return (state.records scopeId kind id).mergeSort (fun a b => a.version ≤ b.version)

def publishResource (disk : Disk Text) (now : Nat) (scopeId : String)
    (resource : RegistryResourcePublish J) :
    Except VersionedRegistryError (PublishOutcome J × Disk Text) := do
  store.validateResourceIdentity scopeId resource.kind resource.id
  let (contentHash, canonicalJsonBytes) ←
    json.registryContentHash resource.valueSchemaVersion resource.value
  let state ← store.loadState disk
  state.ensureNotArchived scopeId resource.kind resource.id
  match state.unchanged scopeId resource contentHash with
  | some current => return (.noop current, disk)
  | none =>
    let (record, state) := state.addVersion now scopeId resource contentHash canonicalJsonBytes
    let disk ← store.saveState disk state
    return (.created record, disk)

def rollbackResource (disk : Disk Text) (now : Nat) (scopeId kind id : String) (toVersion : Nat)
    (metadata : J) : Except VersionedRegistryError (VersionedRecord J × Disk Text) := do
  store.validateResourceIdentity scopeId kind id
  let state ← store.loadState disk
  state.ensureNotArchived scopeId kind id
  match state.findVersion scopeId kind id toVersion with
  | none => .error (.notFound (versionName kind id toVersion))
  | some prior =>
    let metadata ← json.buildRollbackMetadata metadata toVersion
    let (contentHash, canonicalJsonBytes) ←
      json.registryContentHash prior.valueSchemaVersion prior.value
    let (record, state) := state.addVersion now scopeId
      ⟨kind, id, prior.value, prior.valueSchemaVersion, metadata⟩ contentHash canonicalJsonBytes
    let disk ← store.saveState disk state
    return (record, disk)

def archiveResource (disk : Disk Text) (now : Nat) (scopeId kind id : String) :
    Except VersionedRegistryError (Unit × Disk Text) := do
  store.validateResourceIdentity scopeId kind id
  let state ← store.loadState disk
  match state.findResource scopeId kind id with
  | none => .error (.notFound (resourceName kind id))
  | some resource =>
    if resource.archivedAtMs.isNone then
      let archive := fun (resource : VersionedResourceState J) =>
        { resource with archivedAtMs := some now, updatedAtMs := now }
      let disk ← store.saveState disk
        { state with resources := updateFirst (isResource scopeId kind id) archive state.resources }
      return ((), disk)
    else return ((), disk)

def unarchiveResource (disk : Disk Text) (now : Nat) (scopeId kind id : String) :
    Except VersionedRegistryError (Unit × Disk Text) := do
  store.validateResourceIdentity scopeId kind id
  let state ← store.loadState disk
  match state.findResource scopeId kind id with
  | none => .error (.notFound (resourceName kind id))
  | some resource =>
    if resource.archivedAtMs.isSome then
      let unarchive := fun (resource : VersionedResourceState J) =>
        { resource with archivedAtMs := none, updatedAtMs := now }
      let disk ← store.saveState disk
        { state with resources := updateFirst (isResource scopeId kind id) unarchive state.resources }
      return ((), disk)
    else return ((), disk)

def validateResourcePublicationRequest (scopeId : String)
    (resources : List (RegistryResourcePublish J)) : Except VersionedRegistryError Unit :=
  if resources.isEmpty then .error (.invalidRequest "publication resources cannot be empty")
  else validateDistinct (fun resource =>
    store.validateResourceIdentity scopeId resource.kind resource.id) "resource"
    RegistryResourcePublish.identity [] resources

def publishResourcesAndCreatePublication (disk : Disk Text) (now : Nat)
    (scopeId publicationId : String) (resources : List (RegistryResourcePublish J))
    (sourceConfigRevisions : List ConfigRevisionRef) (createdBy : Option String) (metadata : J) :
    Except VersionedRegistryError (RegistryPublication J × Disk Text) := do
  store.validateId scopeId "registry scope id"
  store.validateId publicationId "registry publication id"
  store.validateResourcePublicationRequest scopeId resources
  let prepared ← prepare json resources
  let state ← store.loadState disk
  if state.publicationExists scopeId publicationId then
    .error (.alreadyExists s!"publication/{publicationId}")
  else
    prepared.forM (fun (resource, _) => state.ensureNotArchived scopeId resource.kind resource.id)
    let (entries, state) := publishAll now scopeId prepared [] state
    let (publication, state) := state.addPublication now scopeId publicationId entries
      sourceConfigRevisions createdBy metadata
    let disk ← store.saveState disk state
    return (publication, disk)

def checkEntry (entry : VersionRef) : Except VersionedRegistryError Unit := do
  store.validateResourceIdentity "default" entry.kind entry.id
  entry.checkVersion

def validatePublicationRequest (entries : List VersionRef) : Except VersionedRegistryError Unit :=
  if entries.isEmpty then .error (.invalidRequest "publication entries cannot be empty")
  else validateDistinct store.checkEntry "entry" VersionRef.identity [] entries

def createPublication (disk : Disk Text) (now : Nat) (scopeId publicationId : String)
    (entries : List VersionRef) (sourceConfigRevisions : List ConfigRevisionRef)
    (createdBy : Option String) (metadata : J) :
    Except VersionedRegistryError (RegistryPublication J × Disk Text) := do
  store.validateId scopeId "registry scope id"
  store.validateId publicationId "registry publication id"
  store.validatePublicationRequest entries
  let state ← store.loadState disk
  if state.publicationExists scopeId publicationId then
    .error (.alreadyExists s!"publication/{publicationId}")
  else
    entries.forM (state.validatePublicationEntry scopeId)
    let (publication, state) := state.addPublication now scopeId publicationId entries
      sourceConfigRevisions createdBy metadata
    let disk ← store.saveState disk state
    return (publication, disk)

def latest : List (RegistryPublication J) → Option (RegistryPublication J)
  | [] => none
  | publication :: publications =>
    match latest publications with
    | none => some publication
    | some later =>
      if later.snapshotVersion < publication.snapshotVersion then some publication else some later

def latestPublication (disk : Disk Text) (scopeId : String) :
    Except VersionedRegistryError (Option (RegistryPublication J)) := do
  store.validateId scopeId "registry scope id"
  let state ← store.loadState disk
  return latest (state.scopePublications scopeId)

def getPublication (disk : Disk Text) (scopeId : String) (snapshotVersion : Nat) :
    Except VersionedRegistryError (Option (RegistryPublication J)) := do
  store.validateId scopeId "registry scope id"
  let state ← store.loadState disk
  return state.publications.find? (fun publication =>
    publication.scopeId = scopeId && publication.snapshotVersion = snapshotVersion)

def rollbackPublication (disk : Disk Text) (now : Nat) (scopeId : String)
    (sourceSnapshotVersion : Nat) (publicationId : String) (createdBy : Option String)
    (metadata : J) : Except VersionedRegistryError (RegistryPublication J × Disk Text) := do
  let (resources, sourceConfigRevisions) ← rollbackSources json
    (store.getPublication disk scopeId) (store.get disk scopeId) scopeId sourceSnapshotVersion
    publicationId
  store.publishResourcesAndCreatePublication json disk now scopeId publicationId resources
    sourceConfigRevisions createdBy metadata

end FileVersionedRegistryStore

end Awaken.Stores.FileVersionedRegistry
