import Awaken.Contract.ContentHash
import Awaken.Lib.DepthFirst
import Awaken.Lib.Outcome
import Awaken.Lib.Table
import Mathlib.Data.Prod.Lex
import Mathlib.Data.String.Basic

/-! The published registry graph: the checks on one pinned entry, the entries that its references
stand for, and the search from the roots. The store does not change during a call. -/

namespace Awaken.Contract.RegistryGraph

open Awaken.Lib Awaken.Contract.VersionedRegistry Relation

def registryKindAgent : String := "agent"
def registryKindModel : String := "model"
def registryKindModelPool : String := "model_pool"
def registryKindProvider : String := "provider"
def registryKindSkill : String := "skill"
def registryKindTool : String := "tool"
def registryKindPluginConfig : String := "plugin_config"

structure PinnedRegistryEntry where
  kind : String
  id : String
  version : Nat
  contentHash : String
deriving DecidableEq

structure PinnedRegistryManifest where
  publicationId : Option String
  registrySnapshotVersion : Option Nat
  entries : List PinnedRegistryEntry

inductive VersionSelector where
  | latestPublication (scopeId : String)
  | publication (scopeId : String) (snapshotVersion : Nat)
  | exact (scopeId kind id : String) (version : Nat)
  | manifest (scopeId : String) (manifest : PinnedRegistryManifest)

inductive RegistryReferencePolicy where
  | sameScopeOnly

structure RegistryGraphValidationRequest where
  root : VersionSelector
  referencePolicy : RegistryReferencePolicy

structure RegistryGraphValidationReport where
  entries : List PinnedRegistryEntry
deriving DecidableEq

inductive RegistryGraphValidationError where
  | missingResource (kind id : String)
  | missingVersion (kind id : String) (version : Nat)
  | archivedReference (kind id : String) (version : Option Nat)
  | contentHashMismatch (kind id : String) (version : Nat) (expected actual : String)
  | cycleDetected (path : List VersionRef)
  | invalidReference (kind id reason : String)
  | backend (message : String)
deriving DecidableEq

structure AgentSpec where
  id : String
  modelId : String
  endpointIsNone : Bool
  delegates : List String

structure ModelSpec where
  id : String
  providerId : String

structure ModelPoolSpec where
  id : String
  members : List String

structure SpecDecoder (J : Type) where
  agentSpec : J → Except String AgentSpec
  modelSpec : J → Except String ModelSpec
  modelPoolSpec : J → Except String ModelPoolSpec

structure VersionedRegistryStore (J : Type) where
  latestPublication : String → Except VersionedRegistryError (Option (RegistryPublication J))
  getPublication : String → Nat → Except VersionedRegistryError (Option (RegistryPublication J))
  resourceState : String → String → String →
    Except VersionedRegistryError (Option (VersionedResourceState J))
  current : String → String → String → Except VersionedRegistryError (Option (VersionedRecord J))
  get : String → String → String → Nat → Except VersionedRegistryError (Option (VersionedRecord J))
  stored : String → List VersionRef
  stored_of_get : ∀ scopeId kind id version record,
    get scopeId kind id version = .ok (some record) → ⟨kind, id, version⟩ ∈ stored scopeId

abbrev Checked (α : Type) := Except RegistryGraphValidationError α

variable {J : Type}

def displayError : VersionedRegistryError → String
  | .notFound name => s!"not found: {name}"
  | .archived kind id => s!"already archived: {kind}/{id}"
  | .alreadyExists name => s!"already exists: {name}"
  | .invalidRequest message => s!"invalid request: {message}"
  | .serialization message => s!"serialization error: {message}"
  | .backend message => s!"versioned registry error: {message}"

def fromError {α : Type} : Except VersionedRegistryError α → Checked α
  | .ok value => .ok value
  | .error error => .error (.backend (displayError error))

abbrev ResourceKey := String ×ₗ String

def ResourceKey.new (kind id : String) : ResourceKey := toLex (kind, id)

def PinnedRegistryEntry.key (self : PinnedRegistryEntry) : ResourceKey := .new self.kind self.id

def PinnedRegistryEntry.versionRef (self : PinnedRegistryEntry) : VersionRef :=
  ⟨self.kind, self.id, self.version⟩

namespace VersionedRegistryStore

variable (store : VersionedRegistryStore J)

def pinnedManifestForPublication (scopeId : String) (snapshotVersion : Nat) :
    Except VersionedRegistryError (Option PinnedRegistryManifest) := do
  match ← store.getPublication scopeId snapshotVersion with
  | none => return none
  | some publication =>
    let entries ← publication.entries.mapM (fun entry => do
      match ← store.get scopeId entry.kind entry.id entry.version with
      | none => .error (.notFound (versionName entry.kind entry.id entry.version))
      | some record =>
        return (⟨entry.kind, entry.id, entry.version, record.contentHash⟩ : PinnedRegistryEntry))
    return some ⟨some publication.publicationId, some publication.snapshotVersion, entries⟩

def latestPinnedManifest (scopeId : String) :
    Except VersionedRegistryError (Option PinnedRegistryManifest) := do
  match ← store.latestPublication scopeId with
  | none => return none
  | some publication => store.pinnedManifestForPublication scopeId publication.snapshotVersion

end VersionedRegistryStore

structure ValidationContext where
  scopeId : String
  rootEntries : List PinnedRegistryEntry
  candidateEntries : Table ResourceKey PinnedRegistryEntry
  allowCurrentReferenceResolution : Bool
  rejectArchivedExplicitEntries : Bool

namespace ValidationContext

/-- The loop over the entries of `fromEntries`. -/
def candidates (seen : List ResourceKey)
    (candidateEntries : Table ResourceKey PinnedRegistryEntry) :
    List PinnedRegistryEntry → Checked (Table ResourceKey PinnedRegistryEntry)
  | [] => .ok candidateEntries
  | entry :: entries =>
    if entry.version = 0 then
      .error (.invalidReference entry.kind entry.id "version cannot be 0")
    else if entry.key ∈ seen then
      .error (.invalidReference entry.kind entry.id "duplicate manifest entry")
    else candidates (entry.key :: seen) (candidateEntries.insert entry.key entry) entries

def fromEntries (scopeId : String) (entries : List PinnedRegistryEntry)
    (allowCurrentReferenceResolution rejectArchivedExplicitEntries : Bool) :
    Checked ValidationContext := do
  let candidateEntries ← candidates [] .empty entries
  return ⟨scopeId, entries, candidateEntries, allowCurrentReferenceResolution,
    rejectArchivedExplicitEntries⟩

end ValidationContext

structure StandardRegistryGraphValidator (J : Type) where
  store : VersionedRegistryStore J
  decoder : SpecDecoder J
  sha256 : List UInt8 → List UInt8

namespace StandardRegistryGraphValidator

variable (validator : StandardRegistryGraphValidator J)

def loadRecord (scopeId kind id : String) (version : Nat) : Checked (VersionedRecord J) := do
  match ← fromError (validator.store.get scopeId kind id version) with
  | some record => return record
  | none => .error (.missingVersion kind id version)

def rootContext : VersionSelector → Checked ValidationContext
  | .latestPublication scopeId => do
    match ← fromError (validator.store.latestPinnedManifest scopeId) with
    | none => .error (.missingResource "publication" "latest")
    | some manifest => ValidationContext.fromEntries scopeId manifest.entries false true
  | .publication scopeId snapshotVersion => do
    match ← fromError (validator.store.pinnedManifestForPublication scopeId snapshotVersion) with
    | none => .error (.missingVersion "publication" scopeId snapshotVersion)
    | some manifest => ValidationContext.fromEntries scopeId manifest.entries false false
  | .manifest scopeId manifest => ValidationContext.fromEntries scopeId manifest.entries false false
  | .exact scopeId kind id version => do
    let record ← validator.loadRecord scopeId kind id version
    ValidationContext.fromEntries scopeId [⟨kind, id, version, record.contentHash⟩] true false

def rejectArchived (scopeId kind id : String) (version : Option Nat) : Checked Unit := do
  match ← fromError (validator.store.resourceState scopeId kind id) with
  | none => .error (.missingResource kind id)
  | some state =>
    if state.archivedAtMs.isSome then .error (.archivedReference kind id version) else return ()

def validateStoredEntry (scopeId : String) (entry : PinnedRegistryEntry) (rejectArchived : Bool) :
    Checked (VersionedRecord J) := do
  let () ← (if rejectArchived then
    validator.rejectArchived scopeId entry.kind entry.id (some entry.version) else .ok ())
  let record ← validator.loadRecord scopeId entry.kind entry.id entry.version
  let () ← fromError (record.verifyContentHash validator.sha256)
  if record.contentHash ≠ entry.contentHash then
    .error (.contentHashMismatch entry.kind entry.id entry.version entry.contentHash
      record.contentHash)
  else return record

def resolveReferenceEntry (context : ValidationContext) (kind id : String) :
    Checked PinnedRegistryEntry := do
  match context.candidateEntries.get (.new kind id) with
  | some entry => return entry
  | none =>
    if !context.allowCurrentReferenceResolution then .error (.missingResource kind id)
    else
      let () ← validator.rejectArchived context.scopeId kind id none
      match ← fromError (validator.store.current context.scopeId kind id) with
      | some record => return ⟨kind, id, record.version, record.contentHash⟩
      | none => .error (.missingResource kind id)

def tryReferenceEntry (context : ValidationContext) (kind id : String) :
    Checked (Option PinnedRegistryEntry) := do
  match context.candidateEntries.get (.new kind id) with
  | some entry => return some entry
  | none =>
    if !context.allowCurrentReferenceResolution then return none
    else
      match ← fromError (validator.store.resourceState context.scopeId kind id) with
      | none => return none
      | some _ =>
        let () ← validator.rejectArchived context.scopeId kind id none
        match ← fromError (validator.store.current context.scopeId kind id) with
        | some record => return some ⟨kind, id, record.version, record.contentHash⟩
        | none => return none

def resolveModelOrPoolReference (context : ValidationContext) (id : String) :
    Checked PinnedRegistryEntry := do
  let model ← validator.tryReferenceEntry context registryKindModel id
  let pool ← validator.tryReferenceEntry context registryKindModelPool id
  match model, pool with
  | some _, some _ =>
    .error (.invalidReference registryKindModel id "id resolves to both a model and a model pool")
  | some entry, none => return entry
  | none, some entry => return entry
  | none, none => .error (.missingResource registryKindModel id)

def readSpec {S : Type} (what : String) (decode : J → Except String S) (specId : S → String)
    (entry : PinnedRegistryEntry) (value : J) : Checked S :=
  match decode value with
  | .error error => .error (.invalidReference entry.kind entry.id s!"invalid {what}: {error}")
  | .ok spec =>
    if specId spec ≠ entry.id then
      .error (.invalidReference entry.kind entry.id
        s!"{what}.id {specId spec} does not match registry id")
    else .ok spec

def agentDependencies (context : ValidationContext) (entry : PinnedRegistryEntry) (value : J) :
    Checked (List PinnedRegistryEntry) := do
  let spec ← readSpec "AgentSpec" validator.decoder.agentSpec AgentSpec.id entry value
  let model ← (if spec.endpointIsNone then [spec.modelId] else []).mapM
    (validator.resolveModelOrPoolReference context)
  let delegates ← spec.delegates.mapM (validator.resolveReferenceEntry context registryKindAgent)
  return model ++ delegates

def modelDependencies (context : ValidationContext) (entry : PinnedRegistryEntry) (value : J) :
    Checked (List PinnedRegistryEntry) := do
  let spec ← readSpec "ModelSpec" validator.decoder.modelSpec ModelSpec.id entry value
  let provider ← validator.resolveReferenceEntry context registryKindProvider spec.providerId
  return [provider]

def modelPoolDependencies (context : ValidationContext) (entry : PinnedRegistryEntry) (value : J) :
    Checked (List PinnedRegistryEntry) := do
  let spec ← readSpec "ModelPoolSpec" validator.decoder.modelPoolSpec ModelPoolSpec.id entry value
  spec.members.mapM (validator.resolveReferenceEntry context registryKindModel)

def dependenciesForRecord (context : ValidationContext) (entry : PinnedRegistryEntry)
    (record : VersionedRecord J) : Checked (List PinnedRegistryEntry) :=
  if entry.kind = registryKindAgent then validator.agentDependencies context entry record.value
  else if entry.kind = registryKindModel then validator.modelDependencies context entry record.value
  else if entry.kind = registryKindModelPool then
    validator.modelPoolDependencies context entry record.value
  else if entry.kind ∈ [registryKindProvider, registryKindSkill, registryKindTool,
      registryKindPluginConfig] then .ok []
  else .error (.invalidReference entry.kind entry.id "unsupported registry kind")

def expand (context : ValidationContext) (entry : PinnedRegistryEntry) :
    Checked (List PinnedRegistryEntry) := do
  let record ← validator.validateStoredEntry context.scopeId entry
    context.rejectArchivedExplicitEntries
  validator.dependenciesForRecord context entry record

lemma fromError_ok {α : Type} {x : Except VersionedRegistryError α} {a : α} :
    fromError x = .ok a ↔ x = .ok a := by
  cases x with
  | error error => exact iff_of_false (by rintro ⟨⟩) (by rintro ⟨⟩)
  | ok b => rw [fromError, Except.ok.injEq, Except.ok.injEq]

lemma loadRecord_ok {scopeId kind id : String} {version : Nat} {record : VersionedRecord J} :
    validator.loadRecord scopeId kind id version = .ok record ↔
      validator.store.get scopeId kind id version = .ok (some record) := by
  rw [loadRecord, bind_eq_ok_iff]
  constructor
  · rintro ⟨found, hfound, h⟩
    cases found with
    | none => cases h
    | some other => rw [(fromError_ok).mp hfound, Except.ok.inj h]
  · intro h
    exact ⟨some record, (fromError_ok).mpr h, rfl⟩

def Live (scopeId kind id : String) : Prop :=
  ∃ state, validator.store.resourceState scopeId kind id = .ok (some state) ∧
    state.archivedAtMs = none

lemma rejectArchived_ok {scopeId kind id : String} {version : Option Nat} :
    validator.rejectArchived scopeId kind id version = .ok () ↔ validator.Live scopeId kind id := by
  rw [rejectArchived, bind_eq_ok_iff]
  constructor
  · rintro ⟨found, hfound, h⟩
    cases found with
    | none => cases h
    | some state =>
      by_cases harchived : state.archivedAtMs.isSome = true
      · dsimp only at h
        rw [if_pos harchived] at h
        cases h
      · exact ⟨state, (fromError_ok).mp hfound, by simpa using harchived⟩
  · rintro ⟨state, hstate, hlive⟩
    refine ⟨some state, (fromError_ok).mpr hstate, ?_⟩
    dsimp only
    rw [hlive, Option.isSome_none, if_neg Bool.false_ne_true]
    rfl

structure Pins (context : ValidationContext) (entry : PinnedRegistryEntry)
    (record : VersionedRecord J) : Prop where
  live : context.rejectArchivedExplicitEntries = true →
    validator.Live context.scopeId entry.kind entry.id
  stored : validator.store.get context.scopeId entry.kind entry.id entry.version = .ok (some record)
  verified : record.verifyContentHash validator.sha256 = .ok ()
  hash : record.contentHash = entry.contentHash

lemma validateStoredEntry_ok {context : ValidationContext} {entry : PinnedRegistryEntry}
    {record : VersionedRecord J} :
    validator.validateStoredEntry context.scopeId entry context.rejectArchivedExplicitEntries =
      .ok record ↔ validator.Pins context entry record := by
  have hlive : (if context.rejectArchivedExplicitEntries then
      validator.rejectArchived context.scopeId entry.kind entry.id (some entry.version)
      else .ok ()) =
        .ok () ↔ (context.rejectArchivedExplicitEntries = true →
          validator.Live context.scopeId entry.kind entry.id) := by
    split
    · next h => rw [validator.rejectArchived_ok, forall_prop_of_true h]
    · next h => exact iff_of_true rfl (fun h' => absurd h' h)
  rw [validateStoredEntry, bind_eq_ok_iff]
  constructor
  · rintro ⟨⟨⟩, hchecked, h⟩
    obtain ⟨found, hfound, h⟩ := bind_eq_ok h
    obtain ⟨⟨⟩, hverified, h⟩ := bind_eq_ok h
    by_cases hhash : found.contentHash = entry.contentHash
    · rw [if_neg (not_not.mpr hhash)] at h
      obtain rfl := Except.ok.inj h
      exact ⟨(hlive).mp hchecked, (validator.loadRecord_ok).mp hfound, (fromError_ok).mp hverified,
        hhash⟩
    · rw [if_pos hhash] at h
      cases h
  · intro h
    refine ⟨(), (hlive).mpr h.live, ?_⟩
    simp only [bind_eq_ok_iff]
    refine ⟨record, (validator.loadRecord_ok).mpr h.stored, (), (fromError_ok).mpr h.verified, ?_⟩
    rw [if_neg (not_not.mpr h.hash)]
    rfl

/-- The entry that the name of a resource stands for: the pinned one or, where that is allowed, the
current version. -/
inductive Names (context : ValidationContext) (kind id : String) : PinnedRegistryEntry → Prop
  | pinned {entry : PinnedRegistryEntry} :
    context.candidateEntries.get (.new kind id) = some entry → Names context kind id entry
  | current {record : VersionedRecord J} :
    context.candidateEntries.get (.new kind id) = none →
    context.allowCurrentReferenceResolution = true →
    validator.Live context.scopeId kind id →
    validator.store.current context.scopeId kind id = .ok (some record) →
    Names context kind id ⟨kind, id, record.version, record.contentHash⟩

inductive Absent (context : ValidationContext) (kind id : String) : Prop
  | unpinned : context.candidateEntries.get (.new kind id) = none →
    context.allowCurrentReferenceResolution = false → Absent context kind id
  | missing : context.candidateEntries.get (.new kind id) = none →
    context.allowCurrentReferenceResolution = true →
    validator.store.resourceState context.scopeId kind id = .ok none → Absent context kind id
  | unset : context.candidateEntries.get (.new kind id) = none →
    context.allowCurrentReferenceResolution = true →
    validator.Live context.scopeId kind id →
    validator.store.current context.scopeId kind id = .ok none → Absent context kind id

lemma resolveReferenceEntry_ok {context : ValidationContext} {kind id : String}
    {entry : PinnedRegistryEntry} :
    validator.resolveReferenceEntry context kind id = .ok entry ↔
      validator.Names context kind id entry := by
  unfold resolveReferenceEntry
  constructor
  · intro h
    cases hcandidate : context.candidateEntries.get (.new kind id) with
    | some candidate =>
      rw [hcandidate] at h
      exact .pinned (hcandidate.trans (congrArg _ (Except.ok.inj h)))
    | none =>
      rw [hcandidate] at h
      by_cases hallow : context.allowCurrentReferenceResolution = true
      · simp only [hallow, Bool.not_true, if_neg Bool.false_ne_true] at h
        obtain ⟨⟨⟩, hlive, h⟩ := bind_eq_ok h
        obtain ⟨found, hfound, h⟩ := bind_eq_ok h
        cases found with
        | none => cases h
        | some record =>
          obtain rfl := Except.ok.inj h
          exact .current hcandidate hallow ((validator.rejectArchived_ok).mp hlive)
            ((fromError_ok).mp hfound)
      · simp only [hallow, Bool.not_false, if_true] at h
        cases h
  · intro h
    cases h with
    | pinned hcandidate =>
      rw [hcandidate]
      rfl
    | current hcandidate hallow hlive hcurrent =>
      simp only [hcandidate, hallow, Bool.not_true, if_neg Bool.false_ne_true, bind_eq_ok_iff]
      exact ⟨(), (validator.rejectArchived_ok).mpr hlive, _, (fromError_ok).mpr hcurrent, rfl⟩

lemma tryReferenceEntry_ok {context : ValidationContext} {kind id : String}
    {found : Option PinnedRegistryEntry} :
    validator.tryReferenceEntry context kind id = .ok found ↔
      (∃ entry, found = some entry ∧ validator.Names context kind id entry) ∨
        (found = none ∧ validator.Absent context kind id) := by
  unfold tryReferenceEntry
  constructor
  · intro h
    cases hcandidate : context.candidateEntries.get (.new kind id) with
    | some candidate =>
      rw [hcandidate] at h
      exact .inl ⟨candidate, (Except.ok.inj h).symm, .pinned hcandidate⟩
    | none =>
      rw [hcandidate] at h
      by_cases hallow : context.allowCurrentReferenceResolution = true
      · simp only [hallow, Bool.not_true, if_neg Bool.false_ne_true] at h
        obtain ⟨state, hstate, h⟩ := bind_eq_ok h
        cases state with
        | none =>
          exact .inr ⟨(Except.ok.inj h).symm, .missing hcandidate hallow ((fromError_ok).mp hstate)⟩
        | some state =>
          obtain ⟨⟨⟩, hlive, h⟩ := bind_eq_ok h
          obtain ⟨record, hrecord, h⟩ := bind_eq_ok h
          have hlive := (validator.rejectArchived_ok).mp hlive
          cases record with
          | none =>
            exact .inr ⟨(Except.ok.inj h).symm,
              .unset hcandidate hallow hlive ((fromError_ok).mp hrecord)⟩
          | some record =>
            exact .inl ⟨_, (Except.ok.inj h).symm,
              .current hcandidate hallow hlive ((fromError_ok).mp hrecord)⟩
      · simp only [hallow, Bool.not_false, if_true] at h
        exact .inr ⟨(Except.ok.inj h).symm, .unpinned hcandidate (Bool.not_eq_true _ ▸ hallow)⟩
  · rintro (⟨entry, rfl, h⟩ | ⟨rfl, h⟩)
    · cases h with
      | pinned hcandidate =>
        rw [hcandidate]
        rfl
      | current hcandidate hallow hlive hcurrent =>
        simp only [hcandidate, hallow, Bool.not_true, if_neg Bool.false_ne_true, bind_eq_ok_iff]
        have hpresent := hlive
        obtain ⟨state, hstate, _⟩ := hpresent
        refine ⟨some state, (fromError_ok).mpr hstate, ?_⟩
        simp only [bind_eq_ok_iff]
        exact ⟨(), (validator.rejectArchived_ok).mpr hlive, _, (fromError_ok).mpr hcurrent, rfl⟩
    · cases h with
      | unpinned hcandidate hallow =>
        simp only [hcandidate, hallow]
        rfl
      | missing hcandidate hallow hstate =>
        simp only [hcandidate, hallow, Bool.not_true, if_neg Bool.false_ne_true, bind_eq_ok_iff]
        exact ⟨none, (fromError_ok).mpr hstate, rfl⟩
      | unset hcandidate hallow hlive hcurrent =>
        simp only [hcandidate, hallow, Bool.not_true, if_neg Bool.false_ne_true, bind_eq_ok_iff]
        have hpresent := hlive
        obtain ⟨state, hstate, _⟩ := hpresent
        refine ⟨some state, (fromError_ok).mpr hstate, ?_⟩
        simp only [bind_eq_ok_iff]
        exact ⟨(), (validator.rejectArchived_ok).mpr hlive, _, (fromError_ok).mpr hcurrent, rfl⟩

inductive Reference where
  | resource (kind id : String)
  | modelOrPool (id : String)

inductive Denotes (context : ValidationContext) : Reference → PinnedRegistryEntry → Prop
  | resource {kind id : String} {entry : PinnedRegistryEntry} :
    validator.Names context kind id entry → Denotes context (.resource kind id) entry
  | model {id : String} {entry : PinnedRegistryEntry} :
    validator.Names context registryKindModel id entry →
    validator.Absent context registryKindModelPool id → Denotes context (.modelOrPool id) entry
  | pool {id : String} {entry : PinnedRegistryEntry} :
    validator.Absent context registryKindModel id →
    validator.Names context registryKindModelPool id entry →
    Denotes context (.modelOrPool id) entry

inductive References (entry : PinnedRegistryEntry) (value : J) : List Reference → Prop
  | agent {spec : AgentSpec} : entry.kind = registryKindAgent →
    validator.decoder.agentSpec value = .ok spec → spec.id = entry.id →
    References entry value ((if spec.endpointIsNone then [spec.modelId] else []).map .modelOrPool ++
      spec.delegates.map (.resource registryKindAgent))
  | model {spec : ModelSpec} : entry.kind = registryKindModel →
    validator.decoder.modelSpec value = .ok spec → spec.id = entry.id →
    References entry value [.resource registryKindProvider spec.providerId]
  | modelPool {spec : ModelPoolSpec} : entry.kind = registryKindModelPool →
    validator.decoder.modelPoolSpec value = .ok spec → spec.id = entry.id →
    References entry value (spec.members.map (.resource registryKindModel))
  | leaf : entry.kind ∈ [registryKindProvider, registryKindSkill, registryKindTool,
      registryKindPluginConfig] → References entry value []

variable {validator} {context : ValidationContext}

lemma resolveModelOrPoolReference_ok {id : String} {entry : PinnedRegistryEntry} :
    validator.resolveModelOrPoolReference context id = .ok entry ↔
      validator.Denotes context (.modelOrPool id) entry := by
  constructor
  · intro h
    obtain ⟨model, hmodel, h⟩ := bind_eq_ok h
    obtain ⟨pool, hpool, h⟩ := bind_eq_ok h
    rcases (validator.tryReferenceEntry_ok).mp hmodel with ⟨first, rfl, hfirst⟩ | ⟨rfl, hfirst⟩
    · rcases (validator.tryReferenceEntry_ok).mp hpool with ⟨second, rfl, hsecond⟩ | ⟨rfl, hsecond⟩
      · cases h
      · obtain rfl := Except.ok.inj h
        exact .model hfirst hsecond
    · rcases (validator.tryReferenceEntry_ok).mp hpool with ⟨second, rfl, hsecond⟩ | ⟨rfl, hsecond⟩
      · obtain rfl := Except.ok.inj h
        exact .pool hfirst hsecond
      · cases h
  · intro h
    simp only [resolveModelOrPoolReference, bind_eq_ok_iff]
    cases h with
    | model hmodel hpool =>
      exact ⟨some entry, (validator.tryReferenceEntry_ok).mpr (.inl ⟨entry, rfl, hmodel⟩), none,
        (validator.tryReferenceEntry_ok).mpr (.inr ⟨rfl, hpool⟩), rfl⟩
    | pool hmodel hpool =>
      exact ⟨none, (validator.tryReferenceEntry_ok).mpr (.inr ⟨rfl, hmodel⟩), some entry,
        (validator.tryReferenceEntry_ok).mpr (.inl ⟨entry, rfl, hpool⟩), rfl⟩

lemma denotes_resource {kind id : String} {entry : PinnedRegistryEntry} :
    validator.Denotes context (.resource kind id) entry ↔
      validator.Names context kind id entry := by
  constructor
  · intro h
    cases h with
    | resource h => exact h
  · exact .resource

lemma readSpec_ok {S : Type} {what : String} {decode : J → Except String S} {specId : S → String}
    {entry : PinnedRegistryEntry} {value : J} {spec : S} :
    readSpec what decode specId entry value = .ok spec ↔
      decode value = .ok spec ∧ specId spec = entry.id := by
  unfold readSpec
  cases decode value with
  | error error => exact iff_of_false (by rintro ⟨⟩) (by rintro ⟨⟨⟩, _⟩)
  | ok found =>
    dsimp only
    by_cases hid : specId found = entry.id
    · rw [if_neg (not_not.mpr hid)]
      constructor
      · intro h
        obtain rfl := Except.ok.inj h
        exact ⟨rfl, hid⟩
      · rintro ⟨h, _⟩
        rw [Except.ok.inj h]
    · rw [if_pos hid]
      refine iff_of_false (by rintro ⟨⟩) ?_
      rintro ⟨h, hspec⟩
      exact hid (Except.ok.inj h ▸ hspec)

lemma mapM_resolve_ok {kind : String} {ids : List String} {entries : List PinnedRegistryEntry} :
    ids.mapM (validator.resolveReferenceEntry context kind) = .ok entries ↔
      List.Forall₂ (validator.Denotes context) (ids.map (.resource kind)) entries := by
  simp only [mapM_eq_ok_iff, resolveReferenceEntry_ok, List.forall₂_map_left_iff, denotes_resource]

lemma mapM_model_ok {ids : List String} {entries : List PinnedRegistryEntry} :
    ids.mapM (validator.resolveModelOrPoolReference context) = .ok entries ↔
      List.Forall₂ (validator.Denotes context) (ids.map .modelOrPool) entries := by
  simp only [mapM_eq_ok_iff, resolveModelOrPoolReference_ok, List.forall₂_map_left_iff]

lemma forall₂_append_left {α β : Type} {R : α → β → Prop} {as as' : List α} {bs : List β} :
    List.Forall₂ R (as ++ as') bs ↔
      ∃ front back, List.Forall₂ R as front ∧ List.Forall₂ R as' back ∧ bs = front ++ back := by
  constructor
  · intro h
    induction as generalizing bs with
    | nil => exact ⟨[], bs, .nil, h, rfl⟩
    | cons a as ih =>
      obtain ⟨b, rest, hab, hrest, rfl⟩ := List.forall₂_cons_left_iff.mp h
      obtain ⟨front, back, hfront, hback, rfl⟩ := ih hrest
      exact ⟨b :: front, back, .cons hab hfront, hback, rfl⟩
  · rintro ⟨front, back, hfront, hback, rfl⟩
    exact List.rel_append hfront hback

lemma dependenciesForRecord_ok {entry : PinnedRegistryEntry} {record : VersionedRecord J}
    {entries : List PinnedRegistryEntry} :
    validator.dependenciesForRecord context entry record = .ok entries ↔
      ∃ references, validator.References entry record.value references ∧
        List.Forall₂ (validator.Denotes context) references entries := by
  unfold dependenciesForRecord
  constructor
  · intro h
    by_cases hagent : entry.kind = registryKindAgent
    · rw [if_pos hagent] at h
      obtain ⟨spec, hspec, h⟩ := bind_eq_ok h
      obtain ⟨model, hmodel, h⟩ := bind_eq_ok h
      obtain ⟨delegates, hdelegates, h⟩ := bind_eq_ok h
      obtain rfl := Except.ok.inj h
      obtain ⟨hdecoded, hid⟩ := (readSpec_ok).mp hspec
      exact ⟨_, .agent hagent hdecoded hid,
        List.rel_append ((mapM_model_ok).mp hmodel) ((mapM_resolve_ok).mp hdelegates)⟩
    rw [if_neg hagent] at h
    by_cases hmodel : entry.kind = registryKindModel
    · rw [if_pos hmodel] at h
      obtain ⟨spec, hspec, h⟩ := bind_eq_ok h
      obtain ⟨provider, hprovider, h⟩ := bind_eq_ok h
      obtain rfl := Except.ok.inj h
      obtain ⟨hdecoded, hid⟩ := (readSpec_ok).mp hspec
      exact ⟨_, .model hmodel hdecoded hid,
        .cons (.resource ((validator.resolveReferenceEntry_ok).mp hprovider)) .nil⟩
    rw [if_neg hmodel] at h
    by_cases hpool : entry.kind = registryKindModelPool
    · rw [if_pos hpool] at h
      obtain ⟨spec, hspec, h⟩ := bind_eq_ok h
      obtain ⟨hdecoded, hid⟩ := (readSpec_ok).mp hspec
      exact ⟨_, .modelPool hpool hdecoded hid, (mapM_resolve_ok).mp h⟩
    rw [if_neg hpool] at h
    by_cases hleaf : entry.kind ∈ [registryKindProvider, registryKindSkill, registryKindTool,
        registryKindPluginConfig]
    · rw [if_pos hleaf] at h
      obtain rfl := Except.ok.inj h
      exact ⟨[], .leaf hleaf, .nil⟩
    · rw [if_neg hleaf] at h
      cases h
  · rintro ⟨references, hreferences, hall⟩
    cases hreferences with
    | agent hkind hdecoded hid =>
      obtain ⟨model, delegates, hmodel, hdelegates, rfl⟩ := (forall₂_append_left).mp hall
      rw [if_pos hkind]
      simp only [agentDependencies, bind_eq_ok_iff]
      exact ⟨_, (readSpec_ok).mpr ⟨hdecoded, hid⟩, model, (mapM_model_ok).mpr hmodel, delegates,
        (mapM_resolve_ok).mpr hdelegates, rfl⟩
    | model hkind hdecoded hid =>
      obtain ⟨provider, rest, hprovider, hrest, rfl⟩ := List.forall₂_cons_left_iff.mp hall
      rw [List.forall₂_nil_left_iff] at hrest
      subst hrest
      have hagent : entry.kind ≠ registryKindAgent := hkind ▸ (by decide)
      rw [if_neg hagent, if_pos hkind]
      simp only [modelDependencies, bind_eq_ok_iff]
      exact ⟨_, (readSpec_ok).mpr ⟨hdecoded, hid⟩, provider,
        (validator.resolveReferenceEntry_ok).mpr ((denotes_resource).mp hprovider), rfl⟩
    | modelPool hkind hdecoded hid =>
      have hagent : entry.kind ≠ registryKindAgent := hkind ▸ (by decide)
      have hmodel : entry.kind ≠ registryKindModel := hkind ▸ (by decide)
      rw [if_neg hagent, if_neg hmodel, if_pos hkind]
      simp only [modelPoolDependencies, bind_eq_ok_iff]
      exact ⟨_, (readSpec_ok).mpr ⟨hdecoded, hid⟩, (mapM_resolve_ok).mpr hall⟩
    | leaf hkind =>
      have hreferring : ∀ kind ∈ [registryKindProvider, registryKindSkill, registryKindTool,
          registryKindPluginConfig], kind ≠ registryKindAgent ∧ kind ≠ registryKindModel ∧
            kind ≠ registryKindModelPool := by decide
      obtain ⟨hagent, hmodel, hpool⟩ := hreferring _ hkind
      rw [List.forall₂_nil_left_iff] at hall
      rw [if_neg hagent, if_neg hmodel, if_neg hpool, if_pos hkind, hall]

lemma expand_ok {entry : PinnedRegistryEntry} {entries : List PinnedRegistryEntry} :
    validator.expand context entry = .ok entries ↔
      ∃ record references, validator.Pins context entry record ∧
        validator.References entry record.value references ∧
        List.Forall₂ (validator.Denotes context) references entries := by
  simp only [expand, bind_eq_ok_iff, validateStoredEntry_ok, dependenciesForRecord_ok]
  constructor
  · rintro ⟨record, hpins, references, hreferences, hall⟩
    exact ⟨record, references, hpins, hreferences, hall⟩
  · rintro ⟨record, references, hpins, hreferences, hall⟩
    exact ⟨record, hpins, references, hreferences, hall⟩

/-- The references of the entry resolve. -/
def Resolves (validator : StandardRegistryGraphValidator J) (context : ValidationContext)
    (entry : PinnedRegistryEntry) : Prop :=
  ∃ record references, validator.Pins context entry record ∧
    validator.References entry record.value references ∧
    ∀ reference ∈ references, ∃ target, validator.Denotes context reference target

/-- A reference inside the first entry denotes the second. -/
def Refers (validator : StandardRegistryGraphValidator J) (context : ValidationContext)
    (entry target : PinnedRegistryEntry) : Prop :=
  ∃ record references reference, validator.Pins context entry record ∧
    validator.References entry record.value references ∧ reference ∈ references ∧
    validator.Denotes context reference target

/-- The entry is a root or reached from one by references. -/
def Reaches (validator : StandardRegistryGraphValidator J) (context : ValidationContext)
    (entry : PinnedRegistryEntry) : Prop :=
  ∃ root ∈ context.rootEntries, ReflTransGen (validator.Refers context) root entry

def graph (validator : StandardRegistryGraphValidator J) (context : ValidationContext) :
    DepthFirst.Graph PinnedRegistryEntry ResourceKey VersionRef RegistryGraphValidationError where
  key := PinnedRegistryEntry.key
  name := PinnedRegistryEntry.versionRef
  expand := validator.expand context
  conflict := fun entry =>
    .invalidReference entry.kind entry.id "conflicting versions for the same resource"
  cycle := fun visiting entry =>
    .cycleDetected (visiting.dropWhile (· ≠ entry.versionRef) ++ [entry.versionRef])
  named := validator.store.stored context.scopeId
  named_of_expand := by
    intro entry entries h
    obtain ⟨record, _, hpins, _⟩ := (expand_ok).mp h
    exact validator.store.stored_of_get _ _ _ _ record hpins.stored
  key_of_name := by
    intro entry entry' h
    have hkind : entry.kind = entry'.kind := congrArg VersionRef.kind h
    have hid : entry.id = entry'.id := congrArg VersionRef.id h
    rw [PinnedRegistryEntry.key, PinnedRegistryEntry.key, hkind, hid]

def validate (validator : StandardRegistryGraphValidator J)
    (request : RegistryGraphValidationRequest) : Checked RegistryGraphValidationReport := do
  let context ← validator.rootContext request.root
  let accepted ← (validator.graph context).visitAll [] [] context.rootEntries
  return ⟨accepted⟩

end StandardRegistryGraphValidator

end Awaken.Contract.RegistryGraph
