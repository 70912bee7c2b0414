import Awaken.Stores.FileVersionedRegistry.Document

namespace Awaken.Stores.FileVersionedRegistry

open Awaken.Lib Awaken.Lib.Text Awaken.Contract.VersionedRegistry FileRegistryState
open Awaken.Stores.MemoryVersionedRegistry (Inner key checkNames)

variable {J Text α : Type}

namespace FileVersionedRegistryStore

/-- A document with no value that the JSON parser refuses (it is nested too deeply) or reads back
as another (a float that is not read exactly) is read back as it was written. A rollback adds no
such value. -/
structure Lossless (store : FileVersionedRegistryStore J Text) (json : RegistryJson J)
    (restorable : J → Prop) : Prop where
  document : ∀ state : FileRegistryState J, state.Holds restorable →
    ∃ payload, store.toStringPretty state = .ok payload ∧ store.fromStr payload = .ok state
  rollback : ∀ metadata version metadata', restorable metadata →
    json.buildRollbackMetadata metadata version = .ok metadata' → restorable metadata'
  source : ∀ publication entry record, restorable record.metadata →
    restorable (json.rollbackSource publication entry record)

/-- The file store takes the id; the store in memory refuses blank ids only. -/
def Accepts (store : FileVersionedRegistryStore J Text) (id : String) : Prop :=
  ∀ label, store.validateId id label = .ok ()

def NamesAccepted (store : FileVersionedRegistryStore J Text) (inner : Inner J) : Prop :=
  ∀ scopeId, ∀ publication ∈ (inner.scopePublications scopeId).values,
    ∀ entry ∈ publication.entries, store.Accepts entry.kind ∧ store.Accepts entry.id

structure Simulates (store : FileVersionedRegistryStore J Text) (restorable : J → Prop)
    (disk : Disk Text) (inner : Inner J) : Prop where
  loaded : ∃ state, store.loadState disk = .ok state ∧ Represents state inner ∧
    state.Holds restorable
  named : store.NamesAccepted inner

inductive Agrees (store : FileVersionedRegistryStore J Text) (restorable : J → Prop)
    (disk : Disk Text) : Except VersionedRegistryError α × Inner J →
      Except VersionedRegistryError (α × Disk Text) → Prop
  | done {value : α} {inner : Inner J} {disk' : Disk Text} (h : store.Simulates restorable disk' inner) :
      Agrees store restorable disk (.ok value, inner) (.ok (value, disk'))
  | failed {error error' : VersionedRegistryError} {inner : Inner J}
      (h : store.Simulates restorable disk inner) : Agrees store restorable disk (.error error, inner) (.error error')

variable {store : FileVersionedRegistryStore J Text} {json : RegistryJson J}
  {restorable : J → Prop} {disk : Disk Text} {inner : Inner J}

lemma simulates_default : store.Simulates restorable .empty .default where
  loaded := ⟨.default, rfl, represents_default, holds_default⟩
  named _ _ hmem := by cases hmem

lemma loadState_saveState (hstore : store.Lossless json restorable) (disk : Disk Text)
    {state : FileRegistryState J} (hheld : state.Holds restorable) :
    ∃ disk', store.saveState disk state = .ok disk' ∧ store.loadState disk' = .ok state := by
  obtain ⟨payload, hwrite, hread⟩ := hstore.document state hheld
  refine ⟨disk.insert store.statePath payload, by rw [saveState, hwrite], ?_⟩
  rw [loadState, Table.get_insert, if_pos rfl]
  simp only [hread]

lemma Accepts.nonblank {id : String} (h : store.Accepts id) : isBlank id = false := by
  have h := h ""
  unfold validateId at h
  split at h
  · cases h
  · next hblank => simpa using hblank

lemma accepts_of {id : String} {chars : List Char} (hid : id.toList = chars)
    (hblank : chars.all isWhiteSpace = false) (hchars : invalidCharacters chars = false) :
    store.Accepts id := by
  intro label
  rw [validateId, isBlank, hid, hblank, hchars]
  rfl

lemma accepts_default : store.Accepts "default" := by
  have hchars : "default".toList = ['d', 'e', 'f', 'a', 'u', 'l', 't'] := rfl
  exact accepts_of hchars (by decide) (by decide +kernel)

lemma validateResourceIdentity_ok {scopeId kind id : String} (hscope : store.Accepts scopeId)
    (hkind : store.Accepts kind) (hid : store.Accepts id) :
    store.validateResourceIdentity scopeId kind id = .ok () := by
  rw [validateResourceIdentity, hscope, hkind, hid]
  rfl

section Reads

variable (h : store.Simulates restorable disk inner) {scopeId kind id : String}
  (hscope : store.Accepts scopeId) (hkind : store.Accepts kind) (hid : store.Accepts id)
include h hscope

lemma latestPublication_eq :
    store.latestPublication disk scopeId = .ok (inner.lastPublication scopeId) := by
  obtain ⟨state, hload, hstate, -⟩ := h.loaded
  rw [latestPublication, hscope, hload, ← hstate.latestPublication]
  rfl

lemma getPublication_eq (snapshotVersion : Nat) :
    store.getPublication disk scopeId snapshotVersion =
      .ok (inner.getPublication scopeId snapshotVersion) := by
  obtain ⟨state, hload, hstate, -⟩ := h.loaded
  rw [getPublication, hscope, hload, ← hstate.getPublication]
  rfl

include hkind hid

lemma resourceState_eq :
    store.resourceState disk scopeId kind id = .ok (inner.resourceState scopeId kind id) := by
  obtain ⟨state, hload, hstate, -⟩ := h.loaded
  rw [resourceState, validateResourceIdentity_ok hscope hkind hid, hload, ← hstate.resources]
  rfl

lemma current_eq : store.current disk scopeId kind id = .ok (inner.current scopeId kind id) := by
  obtain ⟨state, hload, hstate, -⟩ := h.loaded
  rw [current, validateResourceIdentity_ok hscope hkind hid, hload, ← hstate.currentRecord]
  rfl

lemma get_eq (version : Nat) :
    store.get disk scopeId kind id version = .ok (inner.get scopeId kind id version) := by
  obtain ⟨state, hload, hstate, -⟩ := h.loaded
  rw [get, validateResourceIdentity_ok hscope hkind hid, hload, ← hstate.findVersion]
  rfl

lemma listVersions_eq :
    store.listVersions disk scopeId kind id = .ok (inner.listVersions scopeId kind id) := by
  obtain ⟨state, hload, hstate, -⟩ := h.loaded
  rw [listVersions, validateResourceIdentity_ok hscope hkind hid, hload, ← hstate.listVersions]
  rfl

end Reads

lemma validateDistinct_congr {check check' : α → Except VersionedRegistryError Unit} {what : String}
    {identity : α → String × String} {items : List α} (h : ∀ item ∈ items, check item = check' item)
    (seen : List (String × String)) :
    validateDistinct check what identity seen items =
      validateDistinct check' what identity seen items := by
  induction items generalizing seen with
  | nil => rfl
  | cons item items ih =>
    rw [List.forall_mem_cons] at h
    rw [validateDistinct, validateDistinct, h.1]
    simp only [ih h.2]

lemma validatePublicationRequest_eq {publicationId : String} {entries : List VersionRef}
    (hid : store.Accepts publicationId)
    (hentries : ∀ entry ∈ entries, store.Accepts entry.kind ∧ store.Accepts entry.id) :
    store.validatePublicationRequest entries =
      MemoryVersionedRegistry.validatePublicationRequest publicationId entries := by
  unfold validatePublicationRequest MemoryVersionedRegistry.validatePublicationRequest
  rw [hid.nonblank, if_neg Bool.false_ne_true]
  cases entries with
  | nil => rfl
  | cons entry entries =>
    refine validateDistinct_congr (fun entry hentry => ?_) []
    rw [checkEntry, validateResourceIdentity_ok accepts_default (hentries entry hentry).1
      (hentries entry hentry).2]
    rfl

lemma validateResourcePublicationRequest_eq {scopeId publicationId : String}
    {resources : List (RegistryResourcePublish J)} (hscope : store.Accepts scopeId)
    (hid : store.Accepts publicationId)
    (hresources : ∀ resource ∈ resources,
      store.Accepts resource.kind ∧ store.Accepts resource.id) :
    store.validateResourcePublicationRequest scopeId resources =
      MemoryVersionedRegistry.validateResourcePublicationRequest publicationId resources := by
  unfold validateResourcePublicationRequest
    MemoryVersionedRegistry.validateResourcePublicationRequest
  rw [hid.nonblank, if_neg Bool.false_ne_true]
  congr 1
  refine validateDistinct_congr (fun resource hresource => ?_) []
  obtain ⟨hkind, hid⟩ := hresources resource hresource
  rw [validateResourceIdentity_ok hscope hkind hid, checkNames, hkind.nonblank, hid.nonblank]
  rfl

lemma prepare_resources {resources : List (RegistryResourcePublish J)}
    {prepared : List (RegistryResourcePublish J × String × List UInt8)}
    (h : prepare json resources = .ok prepared) : ∀ p ∈ prepared, p.1 ∈ resources := by
  intro p hp
  obtain ⟨resource, hresource, heq⟩ := mem_of_mapM h p hp
  obtain ⟨hashed, -, hpure⟩ := bind_eq_ok heq
  cases hpure
  exact hresource

lemma publishAll_names (h : inner.Ordered) (now : Nat) (scopeId : String)
    (prepared : List (RegistryResourcePublish J × String × List UInt8)) (entries : List VersionRef) :
    ∀ entry ∈ (Inner.publishAll now scopeId prepared entries inner).1, entry ∈ entries ∨
      ∃ p ∈ prepared, entry.kind = p.1.kind ∧ entry.id = p.1.id := by
  induction prepared generalizing entries inner with
  | nil => exact fun entry hentry => .inl hentry
  | cons first prepared ih =>
    obtain ⟨resource, contentHash, canonicalJsonBytes⟩ := first
    have hnext : ∀ (record : VersionedRecord J) (inner' : Inner J), inner'.Ordered →
        record.kind = resource.kind ∧ record.id = resource.id →
        ∀ entry ∈ (Inner.publishAll now scopeId prepared
          (entries ++ [⟨record.kind, record.id, record.version⟩]) inner').1, entry ∈ entries ∨
          ∃ p ∈ (resource, contentHash, canonicalJsonBytes) :: prepared,
            entry.kind = p.1.kind ∧ entry.id = p.1.id := by
      intro record inner' hordered hnames entry hentry
      rcases ih hordered _ entry hentry with hmem | ⟨p, hp, heq⟩
      · rcases List.mem_append.mp hmem with hmem | hmem
        · exact .inl hmem
        · rw [List.mem_singleton.mp hmem]
          exact .inr ⟨_, List.mem_cons_self, hnames⟩
      · exact .inr ⟨p, List.mem_cons_of_mem _ hp, heq⟩
    simp only [Inner.publishAll, Inner.publishPrepared]
    cases hcurrent : (inner.current scopeId resource.kind resource.id).filter
        (·.contentHash = contentHash) with
    | some current =>
      obtain ⟨version, -, hfound⟩ :=
        Option.bind_eq_some_iff.mp (Option.filter_eq_some_iff.mp hcurrent).1
      exact hnext current inner h (h.named _ _ _ current (List.mem_of_find?_eq_some hfound))
    | none =>
      exact hnext _ _ (Inner.addVersion_spec now scopeId resource contentHash canonicalJsonBytes
        h).1 ⟨rfl, rfl⟩

lemma named_addPublication (h : store.NamesAccepted inner) (now : Nat)
    (scopeId publicationId : String) {entries : List VersionRef}
    (sourceConfigRevisions : List ConfigRevisionRef) (createdBy : Option String) (metadata : J)
    (hentries : ∀ entry ∈ entries, store.Accepts entry.kind ∧ store.Accepts entry.id) :
    store.NamesAccepted (inner.addPublication now scopeId publicationId entries
      sourceConfigRevisions createdBy metadata).2 := by
  intro scope publication hmem entry hentry
  rw [Table.values, Inner.entries_addPublication, List.map_append, List.mem_append] at hmem
  rcases hmem with hmem | hmem
  · exact h scope publication hmem entry hentry
  · split at hmem
    · obtain rfl := List.mem_singleton.mp hmem
      exact hentries entry (List.mem_mergeSort.mp hentry)
    · cases hmem

lemma named_publishAll (h : store.NamesAccepted inner) (hordered : inner.Ordered) (now : Nat)
    (scopeId : String) (prepared : List (RegistryResourcePublish J × String × List UInt8)) :
    store.NamesAccepted (Inner.publishAll now scopeId prepared [] inner).2 := by
  have hnone : ∀ entry ∈ ([] : List VersionRef), inner.Stored scopeId entry := by simp
  obtain ⟨entries', inner', heq, -, -, -, hpub, -⟩ :=
    Inner.publishAll_spec hordered now scopeId prepared hnone
  intro scope publication hmem
  rw [heq, Inner.scopePublications, hpub] at hmem
  exact h scope publication hmem

lemma rollbackSources_eq (h : store.Simulates restorable disk inner) {scopeId : String}
    (hscope : store.Accepts scopeId) (sourceSnapshotVersion : Nat) (publicationId : String) :
    rollbackSources json (store.getPublication disk scopeId) (store.get disk scopeId) scopeId
        sourceSnapshotVersion publicationId =
      rollbackSources json (fun snapshotVersion => .ok (inner.getPublication scopeId snapshotVersion))
        (fun kind id version => .ok (inner.get scopeId kind id version)) scopeId
        sourceSnapshotVersion publicationId := by
  unfold rollbackSources
  rw [getPublication_eq h hscope]
  split
  · rfl
  · simp only [Except.bind, bind]
    cases hpublication : inner.getPublication scopeId sourceSnapshotVersion with
    | none => rfl
    | some publication =>
      have hmem : publication ∈ (inner.scopePublications scopeId).values :=
        Table.mem_values.mpr ⟨_, hpublication⟩
      simp only
      rw [mapM_congr (fun entry hentry => ?_)]
      obtain ⟨hkind, hid⟩ := h.named scopeId publication hmem entry hentry
      rw [get_eq h hscope hkind hid]

lemma rollbackSources_spec (hstore : store.Lossless json restorable)
    (h : store.Simulates restorable disk inner) {scopeId : String}
    {sourceSnapshotVersion : Nat} {publicationId : String}
    {resources : List (RegistryResourcePublish J)} {sourceConfigRevisions : List ConfigRevisionRef}
    (hsources : rollbackSources json
        (fun snapshotVersion => .ok (inner.getPublication scopeId snapshotVersion))
        (fun kind id version => .ok (inner.get scopeId kind id version)) scopeId
        sourceSnapshotVersion publicationId = .ok (resources, sourceConfigRevisions)) :
    ∀ resource ∈ resources, (store.Accepts resource.kind ∧ store.Accepts resource.id) ∧
      restorable resource.value ∧ restorable resource.metadata := by
  obtain ⟨state, -, hstate, hheld⟩ := h.loaded
  unfold rollbackSources at hsources
  split at hsources
  · cases hsources
  · obtain ⟨found, hfound, hsources⟩ := bind_eq_ok hsources
    cases hfound
    split at hsources
    · cases hsources
    · next publication hpublication =>
      obtain ⟨resources', hresources, hsources⟩ := bind_eq_ok hsources
      cases hsources
      intro resource hresource
      obtain ⟨entry, hentry, heq⟩ := mem_of_mapM hresources resource hresource
      obtain ⟨read, hread, heq⟩ := bind_eq_ok heq
      cases hread
      split at heq
      · cases heq
      · next record hrecord =>
        cases heq
        obtain ⟨hvalue, hmetadata⟩ :=
          hheld.findVersion ((hstate.findVersion _ _ _ _).trans hrecord)
        exact ⟨h.named scopeId publication (Table.mem_values.mpr ⟨_, hpublication⟩) entry hentry,
          hvalue, hstore.source _ _ _ hmetadata⟩

section Writes

variable (hstore : store.Lossless json restorable)
include hstore

lemma agrees_save {state : FileRegistryState J} {inner' : Inner J} (hstate : Represents state inner')
    (hheld : state.Holds restorable) (hnamed : store.NamesAccepted inner') (value : α) :
    Agrees store restorable disk (.ok value, inner') (do
      let disk ← store.saveState disk state
      return (value, disk)) := by
  obtain ⟨disk', hsave, hload⟩ := loadState_saveState hstore disk hheld
  rw [hsave]
  exact .done ⟨⟨state, hload, hstate, hheld⟩, hnamed⟩

variable (h : store.Simulates restorable disk inner) {scopeId kind id : String}
  (hscope : store.Accepts scopeId)
include h hscope

lemma publishResource_agrees (now : Nat) {resource : RegistryResourcePublish J}
    (hkind : store.Accepts resource.kind) (hid : store.Accepts resource.id)
    (hresource : restorable resource.value ∧ restorable resource.metadata) :
    Agrees store restorable disk (Inner.publishResource json inner now scopeId resource)
      (store.publishResource json disk now scopeId resource) := by
  obtain ⟨state, hload, hstate, hheld⟩ := h.loaded
  unfold Inner.publishResource publishResource Inner.publishPrepared
  rw [validateResourceIdentity_ok hscope hkind hid]
  simp only [Except.bind, bind, hload, hstate.ensureNotArchived, hstate.unchanged]
  cases json.registryContentHash resource.valueSchemaVersion resource.value with
  | error error => exact .failed h
  | ok hashed =>
    obtain ⟨contentHash, canonicalJsonBytes⟩ := hashed
    simp only
    cases inner.ensureNotArchived scopeId resource.kind resource.id with
    | error error => exact .failed h
    | ok _ =>
      simp only
      cases (inner.current scopeId resource.kind resource.id).filter
          (·.contentHash = contentHash) with
      | some current => exact .done h
      | none =>
        obtain ⟨hrecord, hnext⟩ :=
          addVersion_represents hstate now scopeId resource contentHash canonicalJsonBytes
        simp only [hrecord]
        exact agrees_save hstore hnext
          (hheld.addVersion now scopeId contentHash canonicalJsonBytes hresource) h.named _

lemma rollbackResource_agrees (now : Nat) (hkind : store.Accepts kind) (hid : store.Accepts id)
    (toVersion : Nat) {metadata : J} (hmetadata : restorable metadata) :
    Agrees store restorable disk (Inner.rollbackResource json inner now scopeId kind id toVersion metadata)
      (store.rollbackResource json disk now scopeId kind id toVersion metadata) := by
  obtain ⟨state, hload, hstate, hheld⟩ := h.loaded
  unfold Inner.rollbackResource Inner.rollbackPrior Inner.rollbackWrite rollbackResource
  rw [validateResourceIdentity_ok hscope hkind hid]
  simp only [Except.bind, bind, hload, hstate.ensureNotArchived, hstate.findVersion]
  cases hprior : inner.get scopeId kind id toVersion with
  | none =>
    cases inner.ensureNotArchived scopeId kind id with
    | error error => exact .failed h
    | ok _ => exact .failed h
  | some prior =>
    simp only
    cases hbuilt : json.buildRollbackMetadata metadata toVersion with
    | error error =>
      cases inner.ensureNotArchived scopeId kind id with
      | error error => exact .failed h
      | ok _ => exact .failed h
    | ok metadata =>
      simp only
      cases json.registryContentHash prior.valueSchemaVersion prior.value with
      | error error =>
        cases inner.ensureNotArchived scopeId kind id with
        | error error => exact .failed h
        | ok _ => exact .failed h
      | ok hashed =>
        obtain ⟨contentHash, canonicalJsonBytes⟩ := hashed
        simp only
        cases inner.ensureNotArchived scopeId kind id with
        | error error => exact .failed h
        | ok _ =>
          obtain ⟨hrecord, hnext⟩ := addVersion_represents hstate now scopeId
            ⟨kind, id, prior.value, prior.valueSchemaVersion, metadata⟩ contentHash
            canonicalJsonBytes
          have hvalue := (hheld.findVersion ((hstate.findVersion _ _ _ _).trans hprior)).1
          have hadded := hstore.rollback _ _ _ hmetadata hbuilt
          simp only [hrecord]
          exact agrees_save hstore hnext (hheld.addVersion now scopeId contentHash
            canonicalJsonBytes ⟨hvalue, hadded⟩) h.named _

lemma archiveResource_agrees (now : Nat) (hkind : store.Accepts kind) (hid : store.Accepts id) :
    Agrees store restorable disk (inner.archiveResource now scopeId kind id)
      (store.archiveResource disk now scopeId kind id) := by
  obtain ⟨state, hload, hstate, hheld⟩ := h.loaded
  have hresources := hstate.resources scopeId kind id
  rw [Inner.resourceState] at hresources
  unfold Inner.archiveResource archiveResource
  rw [validateResourceIdentity_ok hscope hkind hid]
  simp only [Except.bind, bind, hload, hresources]
  cases hresource : inner.resources.get (key scopeId kind id) with
  | none => exact .failed h
  | some resource =>
    simp only
    split
    · exact agrees_save hstore (setResource_represents hstate hresource
        (fun resource => { resource with archivedAtMs := some now, updatedAtMs := now })
        (fun _ => rfl) rfl) (hheld.setResource _ (fun _ hold => hold)) h.named ()
    · exact .done h

lemma unarchiveResource_agrees (now : Nat) (hkind : store.Accepts kind) (hid : store.Accepts id) :
    Agrees store restorable disk (inner.unarchiveResource now scopeId kind id)
      (store.unarchiveResource disk now scopeId kind id) := by
  obtain ⟨state, hload, hstate, hheld⟩ := h.loaded
  have hresources := hstate.resources scopeId kind id
  rw [Inner.resourceState] at hresources
  unfold Inner.unarchiveResource unarchiveResource
  rw [validateResourceIdentity_ok hscope hkind hid]
  simp only [Except.bind, bind, hload, hresources]
  cases hresource : inner.resources.get (key scopeId kind id) with
  | none => exact .failed h
  | some resource =>
    simp only
    split
    · exact agrees_save hstore (setResource_represents hstate hresource
        (fun resource => { resource with archivedAtMs := none, updatedAtMs := now })
        (fun _ => rfl) rfl) (hheld.setResource _ (fun _ hold => hold)) h.named ()
    · exact .done h

lemma createPublication_agrees (now : Nat) {publicationId : String}
    (hid : store.Accepts publicationId) {entries : List VersionRef}
    (hentries : ∀ entry ∈ entries, store.Accepts entry.kind ∧ store.Accepts entry.id)
    (sourceConfigRevisions : List ConfigRevisionRef) (createdBy : Option String) {metadata : J}
    (hmetadata : restorable metadata) :
    Agrees store restorable disk (inner.createPublication now scopeId publicationId entries
        sourceConfigRevisions createdBy metadata)
      (store.createPublication disk now scopeId publicationId entries sourceConfigRevisions
        createdBy metadata) := by
  obtain ⟨state, hload, hstate, hheld⟩ := h.loaded
  unfold Inner.createPublication createPublication
  rw [hscope, hid, validatePublicationRequest_eq hid hentries]
  simp only [Except.bind, bind, hload, hstate.publicationExists]
  rw [show state.validatePublicationEntry scopeId = inner.validatePublicationEntry scopeId from
    funext (hstate.validatePublicationEntry scopeId)]
  cases MemoryVersionedRegistry.validatePublicationRequest publicationId entries with
  | error error => exact .failed h
  | ok _ =>
    simp only
    cases inner.publicationExists scopeId publicationId with
    | true => exact .failed h
    | false =>
      simp only [Bool.false_eq_true, if_false]
      cases entries.forM (inner.validatePublicationEntry scopeId) with
      | error error => exact .failed h
      | ok _ =>
        obtain ⟨hpublication, hnext⟩ := addPublication_represents hstate now scopeId
          publicationId entries sourceConfigRevisions createdBy metadata
        simp only [hpublication]
        exact agrees_save hstore hnext (hheld.addPublication now scopeId publicationId entries
          sourceConfigRevisions createdBy hmetadata) (named_addPublication h.named now scopeId
          publicationId sourceConfigRevisions createdBy metadata hentries) _

lemma publishResourcesAndCreatePublication_agrees (now : Nat) {publicationId : String}
    (hid : store.Accepts publicationId) {resources : List (RegistryResourcePublish J)}
    (hresources : ∀ resource ∈ resources, store.Accepts resource.kind ∧ store.Accepts resource.id)
    (hvalues : ∀ resource ∈ resources, restorable resource.value ∧ restorable resource.metadata)
    (sourceConfigRevisions : List ConfigRevisionRef) (createdBy : Option String) {metadata : J}
    (hmetadata : restorable metadata) :
    Agrees store restorable disk (Inner.publishResourcesAndCreatePublication json inner now scopeId
        publicationId resources sourceConfigRevisions createdBy metadata)
      (store.publishResourcesAndCreatePublication json disk now scopeId publicationId resources
        sourceConfigRevisions createdBy metadata) := by
  obtain ⟨state, hload, hstate, hheld⟩ := h.loaded
  unfold Inner.publishResourcesAndCreatePublication publishResourcesAndCreatePublication
  rw [hscope, hid, validateResourcePublicationRequest_eq hscope hid hresources]
  simp only [Except.bind, bind, hload, hstate.publicationExists, hstate.ensureNotArchived]
  cases MemoryVersionedRegistry.validateResourcePublicationRequest publicationId resources with
  | error error => exact .failed h
  | ok _ =>
    simp only
    cases hprepared : prepare json resources with
    | error error => exact .failed h
    | ok prepared =>
      simp only
      cases inner.publicationExists scopeId publicationId with
      | true => exact .failed h
      | false =>
        simp only [Bool.false_eq_true, if_false]
        generalize (prepared.forM _ : Except VersionedRegistryError PUnit) = checks
        cases checks with
        | error error => exact .failed h
        | ok _ =>
          obtain ⟨hentries, hall⟩ := publishAll_represents hstate now scopeId prepared []
          obtain ⟨hpublication, hnext⟩ := addPublication_represents hall now scopeId publicationId
            (Inner.publishAll now scopeId prepared [] inner).1 sourceConfigRevisions createdBy
            metadata
          have haccepted : ∀ entry ∈ (Inner.publishAll now scopeId prepared [] inner).1,
              store.Accepts entry.kind ∧ store.Accepts entry.id := by
            intro entry hentry
            rcases publishAll_names hstate.ordered now scopeId prepared [] entry hentry with
              hmem | ⟨p, hp, hkind, hid⟩
            · cases hmem
            · rw [hkind, hid]
              exact hresources p.1 (prepare_resources hprepared p hp)
          have hpublished := hheld.publishAll now scopeId [] (fun p hp =>
            hvalues p.1 (prepare_resources hprepared p hp))
          simp only [hentries, hpublication]
          exact agrees_save hstore hnext (hpublished.addPublication now scopeId publicationId _
            sourceConfigRevisions createdBy hmetadata) (named_addPublication
            (named_publishAll h.named hstate.ordered now scopeId prepared) now scopeId publicationId
            sourceConfigRevisions createdBy metadata haccepted) _

lemma rollbackPublication_agrees (now : Nat) (sourceSnapshotVersion : Nat) {publicationId : String}
    (hid : store.Accepts publicationId) (createdBy : Option String) {metadata : J}
    (hmetadata : restorable metadata) :
    Agrees store restorable disk (Inner.rollbackPublication json inner now scopeId sourceSnapshotVersion
        publicationId createdBy metadata)
      (store.rollbackPublication json disk now scopeId sourceSnapshotVersion publicationId createdBy
        metadata) := by
  unfold Inner.rollbackPublication rollbackPublication
  rw [rollbackSources_eq h hscope]
  cases hsources : rollbackSources json
      (fun snapshotVersion => .ok (inner.getPublication scopeId snapshotVersion))
      (fun kind id version => .ok (inner.get scopeId kind id version)) scopeId
      sourceSnapshotVersion publicationId with
  | error error => exact .failed h
  | ok sources =>
    obtain ⟨resources, sourceConfigRevisions⟩ := sources
    have hresources := rollbackSources_spec hstore h hsources
    exact publishResourcesAndCreatePublication_agrees hstore h hscope now hid
      (fun resource hmem => (hresources resource hmem).1)
      (fun resource hmem => (hresources resource hmem).2) sourceConfigRevisions createdBy hmetadata

end Writes

end FileVersionedRegistryStore

end Awaken.Stores.FileVersionedRegistry
