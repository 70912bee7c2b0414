import Awaken.Stores.FileVersionedRegistry
import Awaken.Stores.MemoryVersionedRegistry.Integrity

namespace Awaken.Stores.FileVersionedRegistry

open Awaken.Lib Awaken.Contract.VersionedRegistry
open Awaken.Stores.MemoryVersionedRegistry (Inner key)

variable {J α : Type}

lemma mem_updateFirst {p : α → Bool} {f : α → α} {l : List α} {a : α}
    (h : a ∈ updateFirst p f l) : a ∈ l ∨ ∃ b ∈ l, a = f b := by
  induction l with
  | nil => cases h
  | cons b l ih =>
    rw [updateFirst] at h
    split at h
    · rcases List.mem_cons.mp h with rfl | h
      · exact .inr ⟨b, List.mem_cons_self, rfl⟩
      · exact .inl (List.mem_cons_of_mem _ h)
    · rcases List.mem_cons.mp h with rfl | h
      · exact .inl List.mem_cons_self
      · rcases ih h with hmem | ⟨c, hc, rfl⟩
        · exact .inl (List.mem_cons_of_mem _ hmem)
        · exact .inr ⟨c, List.mem_cons_of_mem _ hc, rfl⟩

lemma find?_updateFirst {p : α → Bool} {f : α → α} (hf : ∀ a, p a = true → p (f a) = true)
    (l : List α) : (updateFirst p f l).find? p = (l.find? p).map f := by
  induction l with
  | nil => rfl
  | cons a l ih =>
    rw [updateFirst, List.find?_cons]
    split
    · next hp => rw [List.find?_cons, hf a hp, hp, Option.map_some]
    · next hp =>
      rw [List.find?_cons]
      simp only [Bool.not_eq_true] at hp
      rw [hp]
      exact ih

lemma find?_updateFirst_of_ne {p q : α → Bool} {f : α → α}
    (hf : ∀ a, p a = true → q a = false ∧ q (f a) = false) (l : List α) :
    (updateFirst p f l).find? q = l.find? q := by
  induction l with
  | nil => rfl
  | cons a l ih =>
    rw [updateFirst]
    split
    · next hp => rw [List.find?_cons, List.find?_cons, (hf a hp).1, (hf a hp).2]
    · rw [List.find?_cons, List.find?_cons, ih]

lemma max?_of_pairwise {l : List Nat} (h : l.Pairwise (· < ·)) : l.max? = l.getLast? := by
  cases hlast : l.getLast? with
  | none => rw [List.getLast?_eq_none_iff.mp hlast, List.max?_nil]
  | some last =>
    obtain ⟨before, rfl⟩ := List.getLast?_eq_some_iff.mp hlast
    rw [List.pairwise_append] at h
    refine List.max?_eq_some_iff.mpr ⟨by simp, fun b hb => ?_⟩
    rcases List.mem_append.mp hb with hb | hb
    · exact Nat.le_of_lt (h.2.2 b hb last List.mem_cons_self)
    · rw [List.mem_singleton.mp hb]

lemma argmax_of_pairwise {l : List (Nat × α)} (h : (l.map Prod.fst).Pairwise (· < ·)) :
    l.argmax Prod.fst = l.getLast? := by
  cases hlast : l.getLast? with
  | none => rw [List.getLast?_eq_none_iff.mp hlast, List.argmax_nil]
  | some last =>
    obtain ⟨before, rfl⟩ := List.getLast?_eq_some_iff.mp hlast
    rw [List.map_append, List.pairwise_append] at h
    have hlt : ∀ e ∈ before, e.1 < last.1 :=
      fun e he => h.2.2 e.1 (List.mem_map_of_mem he) last.1 (by simp)
    rw [List.argmax_concat]
    cases hmax : before.argmax Prod.fst with
    | none => rfl
    | some e => exact if_pos (hlt e (List.argmax_mem hmax))

lemma latest_of_pairwise {publications : List (RegistryPublication J)}
    (h : (publications.map (·.snapshotVersion)).Pairwise (· < ·)) :
    FileVersionedRegistryStore.latest publications = publications.getLast? := by
  induction publications with
  | nil => rfl
  | cons publication publications ih =>
    rw [List.map_cons, List.pairwise_cons] at h
    rw [FileVersionedRegistryStore.latest, ih h.2, List.getLast?_cons]
    cases hlast : publications.getLast? with
    | none => rfl
    | some later =>
      have hlt := h.1 _ (List.mem_map_of_mem (List.mem_of_getLast? hlast))
      exact if_neg (Nat.not_lt.mpr (Nat.le_of_lt hlt))

namespace FileRegistryState

structure Represents (state : FileRegistryState J) (inner : Inner J) : Prop where
  resources : ∀ scopeId kind id,
    state.findResource scopeId kind id = inner.resourceState scopeId kind id
  records : ∀ scopeId kind id, state.records scopeId kind id = inner.listVersions scopeId kind id
  publications : ∀ scopeId,
    state.scopePublications scopeId = (inner.scopePublications scopeId).values
  keyed : ∀ scopeId, ∀ e ∈ (inner.scopePublications scopeId).entries, e.1 = e.2.snapshotVersion
  ordered : inner.Ordered

variable {state : FileRegistryState J} {inner : Inner J}

lemma represents_default : Represents (default : FileRegistryState J) .default where
  resources _ _ _ := rfl
  records _ _ _ := rfl
  publications _ := rfl
  keyed _ _ he := by cases he
  ordered := Inner.ordered_default

namespace Represents

variable (h : Represents state inner)
include h

lemma findVersion (scopeId kind id : String) (version : Nat) :
    state.findVersion scopeId kind id version = inner.get scopeId kind id version := by
  have hrecords : inner.records (key scopeId kind id) = state.records scopeId kind id :=
    (h.records scopeId kind id).symm
  have hstored : (inner.get scopeId kind id version) =
      (state.versions.find? (fun entry => isVersionOf scopeId kind id entry &&
        entry.record.version = version)).map (·.record) := by
    rw [Inner.get, hrecords, FileRegistryState.records, List.find?_map, List.find?_filter]
    congr 2
    funext entry
    simp
  unfold FileRegistryState.findVersion
  cases hresource : state.findResource scopeId kind id with
  | some resource =>
    rw [hstored, Option.map_eq_bind]
    rfl
  | none =>
    rw [h.resources, Inner.resourceState] at hresource
    have hcurrent := h.ordered.current (key scopeId kind id)
    rw [hresource, Option.bind_none, eq_comm, Option.map_eq_none_iff,
      List.getLast?_eq_none_iff] at hcurrent
    rw [Inner.get, hcurrent]
    rfl

lemma currentRecord (scopeId kind id : String) :
    state.currentRecord scopeId kind id = inner.current scopeId kind id := by
  unfold FileRegistryState.currentRecord Inner.current Inner.currentRecord
  rw [h.resources, Inner.resourceState]
  cases inner.resources.get (key scopeId kind id) with
  | none => rfl
  | some resource =>
    cases hcurrent : resource.currentVersion with
    | none => simp [hcurrent]
    | some version =>
      simp only [Option.bind_eq_bind, Option.bind_some, hcurrent]
      exact h.findVersion scopeId kind id version

lemma nextVersion (scopeId kind id : String) :
    state.nextVersion scopeId kind id = inner.nextVersion (key scopeId kind id) := by
  unfold FileRegistryState.nextVersion Inner.nextVersion
  rw [h.records, Inner.listVersions, max?_of_pairwise (h.ordered.versions _), List.getLast?_map]
  cases (inner.records (key scopeId kind id)).getLast? <;> rfl

lemma ensureNotArchived (scopeId kind id : String) :
    state.ensureNotArchived scopeId kind id = inner.ensureNotArchived scopeId kind id := by
  unfold FileRegistryState.ensureNotArchived Inner.ensureNotArchived
  rw [h.resources]
  rfl

lemma unchanged (scopeId : String) (resource : RegistryResourcePublish J) (contentHash : String) :
    state.unchanged scopeId resource contentHash =
      (inner.current scopeId resource.kind resource.id).filter (·.contentHash = contentHash) := by
  rw [FileRegistryState.unchanged, h.currentRecord]

lemma publicationExists (scopeId publicationId : String) :
    state.publicationExists scopeId publicationId =
      inner.publicationExists scopeId publicationId := by
  rw [Inner.publicationExists, ← h.publications, FileRegistryState.scopePublications,
    List.any_filter]
  rfl

lemma validatePublicationEntry (scopeId : String) (entry : VersionRef) :
    state.validatePublicationEntry scopeId entry = inner.validatePublicationEntry scopeId entry := by
  unfold FileRegistryState.validatePublicationEntry Inner.validatePublicationEntry
  rw [h.resources, h.findVersion, Inner.resourceState]
  cases inner.get scopeId entry.kind entry.id entry.version <;> rfl

lemma entries (scopeId : String) : (inner.scopePublications scopeId).entries =
    (state.scopePublications scopeId).map (fun publication =>
      (publication.snapshotVersion, publication)) := by
  rw [h.publications, Table.values, List.map_map]
  refine (List.map_id _).symm.trans (List.map_congr_left (fun e he => ?_))
  exact Prod.ext (h.keyed scopeId e he) rfl

lemma snapshots (scopeId : String) :
    ((state.scopePublications scopeId).map (·.snapshotVersion)).Pairwise (· < ·) := by
  have hkeys := h.ordered.snapshots scopeId
  rwa [Table.keys, h.entries, List.map_map] at hkeys

lemma argmax (scopeId : String) : (inner.scopePublications scopeId).entries.argmax Prod.fst =
    (state.scopePublications scopeId).getLast?.map (fun publication =>
      (publication.snapshotVersion, publication)) := by
  have hkeys := h.ordered.snapshots scopeId
  rw [Table.keys] at hkeys
  rw [argmax_of_pairwise hkeys, h.entries, List.getLast?_map]

lemma nextSnapshot (scopeId : String) :
    ((state.scopePublications scopeId).map (·.snapshotVersion)).max?.getD 0 + 1 =
      inner.nextSnapshot scopeId := by
  rw [max?_of_pairwise (h.snapshots scopeId), List.getLast?_map, Inner.nextSnapshot, h.argmax]
  cases (state.scopePublications scopeId).getLast? <;> rfl

lemma listVersions (scopeId kind id : String) :
    (state.records scopeId kind id).mergeSort (fun a b => a.version ≤ b.version) =
      inner.listVersions scopeId kind id := by
  rw [h.records, Inner.listVersions]
  refine List.mergeSort_of_pairwise ?_
  have hpair := List.pairwise_map.mp (h.ordered.versions (key scopeId kind id))
  exact hpair.imp (fun hlt => decide_eq_true (Nat.le_of_lt hlt))

lemma getPublication (scopeId : String) (snapshotVersion : Nat) :
    state.publications.find? (fun publication =>
        publication.scopeId = scopeId && publication.snapshotVersion = snapshotVersion) =
      inner.getPublication scopeId snapshotVersion := by
  have hscope : state.publications.find? (fun publication =>
      publication.scopeId = scopeId && publication.snapshotVersion = snapshotVersion) =
      (state.scopePublications scopeId).find? (·.snapshotVersion = snapshotVersion) := by
    rw [FileRegistryState.scopePublications, List.find?_filter]
    congr 1
    funext publication
    simp
  rw [hscope, Inner.getPublication, Table.get, h.entries, List.find?_map, Option.map_map]
  exact Option.map_id'.symm

lemma latestPublication (scopeId : String) :
    FileVersionedRegistryStore.latest (state.scopePublications scopeId) =
      inner.lastPublication scopeId := by
  rw [latest_of_pairwise (h.snapshots scopeId), Inner.lastPublication, h.argmax, Option.map_map]
  exact Option.map_id'.symm

end Represents

section Updates

lemma isResource_iff {scopeId kind id : String} {resource : VersionedResourceState J} :
    isResource scopeId kind id resource = true ↔
      key resource.scopeId resource.kind resource.id = key scopeId kind id := by
  simp [isResource, key, and_assoc]

lemma isVersionOf_iff {scopeId kind id : String} {entry : FileVersionedRecord J} :
    isVersionOf scopeId kind id entry = true ↔
      key entry.scopeId entry.record.kind entry.record.id = key scopeId kind id := by
  simp [isVersionOf, key, and_assoc]

lemma findResource_update {scopeId kind id : String}
    (update : VersionedResourceState J → VersionedResourceState J)
    (hnames : ∀ resource, key (update resource).scopeId (update resource).kind (update resource).id =
      key resource.scopeId resource.kind resource.id) (scopeId' kind' id' : String) :
    (updateFirst (isResource scopeId kind id) update state.resources).find?
        (isResource scopeId' kind' id') =
      if key scopeId' kind' id' = key scopeId kind id then
        (state.findResource scopeId kind id).map update
      else state.findResource scopeId' kind' id' := by
  split
  · next heq =>
    simp only [key, Prod.mk.injEq] at heq
    obtain ⟨rfl, rfl, rfl⟩ := heq
    refine find?_updateFirst (fun resource hresource => ?_) _
    rw [isResource_iff] at hresource ⊢
    exact (hnames resource).trans hresource
  · next hne =>
    refine find?_updateFirst_of_ne (fun resource hresource => ?_) _
    rw [isResource_iff] at hresource
    rw [← Bool.not_eq_true, ← Bool.not_eq_true, isResource_iff, isResource_iff, hnames, hresource]
    exact ⟨Ne.symm hne, Ne.symm hne⟩

lemma setResource_represents (h : Represents state inner) {scopeId kind id : String}
    {resource : VersionedResourceState J}
    (hresource : inner.resources.get (key scopeId kind id) = some resource)
    (update : VersionedResourceState J → VersionedResourceState J)
    (hnames : ∀ resource, key (update resource).scopeId (update resource).kind (update resource).id =
      key resource.scopeId resource.kind resource.id)
    (hcurrent : (update resource).currentVersion = resource.currentVersion) :
    Represents
      { state with resources := updateFirst (isResource scopeId kind id) update state.resources }
      { inner with
        resources := inner.resources.insert (key scopeId kind id) (update resource) } := by
  refine ⟨?_, h.records, h.publications, h.keyed,
    (Inner.setState_adds h.ordered hresource hcurrent).ordered⟩
  intro scopeId' kind' id'
  refine (findResource_update update hnames scopeId' kind' id').trans ?_
  rw [Inner.resourceState, Table.get_insert, h.resources, Inner.resourceState, hresource,
    h.resources]
  rfl

lemma findResource_upsertResource (h : ∀ scopeId kind id,
      state.findResource scopeId kind id = inner.resourceState scopeId kind id)
    (scopeId kind id : String)
    (version now : Nat) (metadata : J) (scopeId' kind' id' : String) :
    (state.upsertResource scopeId kind id version now metadata).findResource scopeId' kind' id' =
      (inner.upsertResourceState scopeId kind id version now metadata).resourceState scopeId' kind'
        id' := by
  unfold Inner.resourceState Inner.upsertResourceState upsertResource
  rw [Table.get_insert]
  split
  · next hsome =>
    obtain ⟨resource, hresource⟩ := Option.isSome_iff_exists.mp hsome
    have hmem : inner.resources.get (key scopeId kind id) = some resource :=
      (h scopeId kind id).symm.trans hresource
    refine (findResource_update (fun resource =>
      { resource with currentVersion := some version, updatedAtMs := now, metadata := metadata })
      (fun _ => rfl) scopeId' kind' id').trans ?_
    rw [hresource, hmem, h]
    rfl
  · next hnone =>
    have hresource : state.findResource scopeId kind id = none := by simpa using hnone
    have hmem : inner.resources.get (key scopeId kind id) = none :=
      (h scopeId kind id).symm.trans hresource
    rw [hmem]
    unfold findResource
    rw [List.find?_append]
    split
    · next heq =>
      simp only [key, Prod.mk.injEq] at heq
      obtain ⟨rfl, rfl, rfl⟩ := heq
      rw [show state.resources.find? _ = none from hresource]
      simp [isResource]
    · next hne =>
      have hother : isResource scopeId' kind' id'
          ⟨scopeId, kind, id, some version, none, now, now, metadata⟩ = false := by
        rw [← Bool.not_eq_true, isResource_iff]
        exact Ne.symm hne
      have hsame := h scopeId' kind' id'
      rw [findResource, Inner.resourceState] at hsame
      rw [hsame, List.find?_singleton, hother]
      simp

lemma records_upsertResource (scopeId kind id : String) (version now : Nat) (metadata : J)
    (scopeId' kind' id' : String) :
    (state.upsertResource scopeId kind id version now metadata).records scopeId' kind' id' =
      state.records scopeId' kind' id' := by
  unfold upsertResource
  split <;> rfl

lemma publications_upsertResource (scopeId kind id : String) (version now : Nat) (metadata : J) :
    (state.upsertResource scopeId kind id version now metadata).publications =
      state.publications := by
  unfold upsertResource
  split <;> rfl

lemma addVersion_represents (h : Represents state inner) (now : Nat) (scopeId : String)
    (resource : RegistryResourcePublish J) (contentHash : String)
    (canonicalJsonBytes : List UInt8) :
    (state.addVersion now scopeId resource contentHash canonicalJsonBytes).1 =
        (inner.addVersion now scopeId resource contentHash canonicalJsonBytes).1 ∧
      Represents (state.addVersion now scopeId resource contentHash canonicalJsonBytes).2
        (inner.addVersion now scopeId resource contentHash canonicalJsonBytes).2 := by
  have hrecord : (state.addVersion now scopeId resource contentHash canonicalJsonBytes).1 =
      (inner.addVersion now scopeId resource contentHash canonicalJsonBytes).1 := by
    simp only [addVersion, Inner.addVersion, h.nextVersion]
  refine ⟨hrecord, ⟨?_, ?_, ?_, h.keyed, (Inner.addVersion_spec now scopeId resource contentHash
    canonicalJsonBytes h.ordered).1⟩⟩
  · intro scopeId' kind' id'
    have hresources : ∀ versions versions' scopeId kind id,
        ({ state with versions } : FileRegistryState J).findResource scopeId kind id =
          ({ inner with versions := versions' } : Inner J).resourceState scopeId kind id :=
      fun _ _ => h.resources
    simp only [addVersion, Inner.addVersion, h.nextVersion]
    exact findResource_upsertResource (hresources _ _) _ _ _ _ _ _ _ _ _
  · intro scopeId' kind' id'
    rw [Inner.listVersions, Inner.records_addVersion, ← hrecord]
    simp only [addVersion, records_upsertResource]
    rw [records, List.filter_append, List.map_append]
    have hold := h.records scopeId' kind' id'
    rw [records, Inner.listVersions] at hold
    rw [hold]
    split
    · next heq =>
      rw [List.filter_cons_of_pos (isVersionOf_iff.mpr heq.symm)]
      rfl
    · next hne =>
      rw [List.filter_cons_of_neg (fun hentry => hne (isVersionOf_iff.mp hentry).symm)]
      exact List.append_nil _
  · intro scope
    simp only [addVersion, scopePublications, publications_upsertResource]
    exact h.publications scope

lemma publishAll_represents (h : Represents state inner) (now : Nat) (scopeId : String)
    (prepared : List (RegistryResourcePublish J × String × List UInt8))
    (entries : List VersionRef) :
    (publishAll now scopeId prepared entries state).1 =
        (Inner.publishAll now scopeId prepared entries inner).1 ∧
      Represents (publishAll now scopeId prepared entries state).2
        (Inner.publishAll now scopeId prepared entries inner).2 := by
  induction prepared generalizing entries state inner with
  | nil => exact ⟨rfl, h⟩
  | cons first prepared ih =>
    obtain ⟨resource, contentHash, canonicalJsonBytes⟩ := first
    simp only [publishAll, Inner.publishAll, Inner.publishPrepared, h.unchanged]
    cases (inner.current scopeId resource.kind resource.id).filter
        (·.contentHash = contentHash) with
    | some current => exact ih h _
    | none =>
      obtain ⟨hrecord, hnext⟩ :=
        addVersion_represents h now scopeId resource contentHash canonicalJsonBytes
      simp only [hrecord]
      exact ih hnext _

lemma addPublication_represents (h : Represents state inner) (now : Nat)
    (scopeId publicationId : String) (entries : List VersionRef)
    (sourceConfigRevisions : List ConfigRevisionRef) (createdBy : Option String) (metadata : J) :
    (state.addPublication now scopeId publicationId entries sourceConfigRevisions createdBy
        metadata).1 =
        (inner.addPublication now scopeId publicationId entries sourceConfigRevisions createdBy
          metadata).1 ∧
      Represents (state.addPublication now scopeId publicationId entries sourceConfigRevisions
          createdBy metadata).2
        (inner.addPublication now scopeId publicationId entries sourceConfigRevisions createdBy
          metadata).2 := by
  have hpublication : (state.addPublication now scopeId publicationId entries sourceConfigRevisions
      createdBy metadata).1 = (inner.addPublication now scopeId publicationId entries
        sourceConfigRevisions createdBy metadata).1 := by
    simp only [addPublication, Inner.addPublication, h.nextSnapshot]
  refine ⟨hpublication, ⟨h.resources, h.records, ?_, ?_, (Inner.addPublication_spec now scopeId
    publicationId entries sourceConfigRevisions createdBy metadata h.ordered).1⟩⟩
  · intro scope
    rw [Table.values, Inner.entries_addPublication, List.map_append, ← hpublication]
    have hold := h.publications scope
    rw [scopePublications, Table.values] at hold
    rw [← hold]
    change List.filter _ (state.publications ++ [_]) = _
    rw [List.filter_append]
    congr 1
    split
    · next hscope =>
      subst hscope
      exact List.filter_cons_of_pos (decide_eq_true rfl)
    · next hscope =>
      exact List.filter_cons_of_neg (by simpa [addPublication, eq_comm] using hscope)
  · intro scope e he
    rw [Inner.entries_addPublication] at he
    rcases List.mem_append.mp he with he | he
    · exact h.keyed scope e he
    · split at he
      · rw [List.mem_singleton.mp he]
        rfl
      · cases he

end Updates

section Values

variable {restorable : J → Prop}

structure Holds (restorable : J → Prop) (state : FileRegistryState J) : Prop where
  resources : ∀ resource ∈ state.resources, restorable resource.metadata
  versions : ∀ entry ∈ state.versions,
    restorable entry.record.value ∧ restorable entry.record.metadata
  publications : ∀ publication ∈ state.publications, restorable publication.metadata

lemma holds_default : (default : FileRegistryState J).Holds restorable := ⟨nofun, nofun, nofun⟩

lemma Holds.findVersion (h : state.Holds restorable) {scopeId kind id : String} {version : Nat}
    {record : VersionedRecord J} (hfound : state.findVersion scopeId kind id version = some record) :
    restorable record.value ∧ restorable record.metadata := by
  obtain ⟨-, -, hfound⟩ := Option.bind_eq_some_iff.mp hfound
  obtain ⟨entry, hentry, heq⟩ := Option.bind_eq_some_iff.mp hfound
  rw [← Option.some.inj heq]
  exact h.versions entry (List.mem_of_find?_eq_some hentry)

lemma Holds.setResource (h : state.Holds restorable) (p : VersionedResourceState J → Bool)
    {update : VersionedResourceState J → VersionedResourceState J}
    (hupdate : ∀ resource, restorable resource.metadata → restorable (update resource).metadata) :
    ({ state with resources := updateFirst p update state.resources } :
      FileRegistryState J).Holds restorable := by
  refine ⟨fun resource hmem => ?_, h.versions, h.publications⟩
  rcases mem_updateFirst hmem with hmem | ⟨old, hold, rfl⟩
  · exact h.resources resource hmem
  · exact hupdate old (h.resources old hold)

lemma Holds.upsertResource (h : state.Holds restorable) (scopeId kind id : String)
    (version now : Nat) {metadata : J} (hmetadata : restorable metadata) :
    (state.upsertResource scopeId kind id version now metadata).Holds restorable := by
  unfold FileRegistryState.upsertResource
  split
  · exact h.setResource _ (fun _ _ => hmetadata)
  · refine ⟨fun resource hmem => ?_, h.versions, h.publications⟩
    rcases List.mem_append.mp hmem with hmem | hmem
    · exact h.resources resource hmem
    · rw [List.mem_singleton.mp hmem]
      exact hmetadata

lemma Holds.addVersion (h : state.Holds restorable) (now : Nat) (scopeId : String)
    {resource : RegistryResourcePublish J} (contentHash : String) (canonicalJsonBytes : List UInt8)
    (hresource : restorable resource.value ∧ restorable resource.metadata) :
    (state.addVersion now scopeId resource contentHash canonicalJsonBytes).2.Holds restorable := by
  refine Holds.upsertResource ?_ scopeId resource.kind resource.id _ now hresource.2
  refine ⟨h.resources, fun entry hmem => ?_, h.publications⟩
  rcases List.mem_append.mp hmem with hmem | hmem
  · exact h.versions entry hmem
  · rw [List.mem_singleton.mp hmem]
    exact hresource

lemma Holds.publishAll (h : state.Holds restorable) (now : Nat) (scopeId : String)
    {prepared : List (RegistryResourcePublish J × String × List UInt8)} (entries : List VersionRef)
    (hprepared : ∀ p ∈ prepared, restorable p.1.value ∧ restorable p.1.metadata) :
    (publishAll now scopeId prepared entries state).2.Holds restorable := by
  induction prepared generalizing entries state with
  | nil => exact h
  | cons first prepared ih =>
    obtain ⟨resource, contentHash, canonicalJsonBytes⟩ := first
    rw [List.forall_mem_cons] at hprepared
    rw [FileRegistryState.publishAll]
    cases state.unchanged scopeId resource contentHash with
    | some current => exact ih h _ hprepared.2
    | none =>
      exact ih (h.addVersion now scopeId contentHash canonicalJsonBytes hprepared.1) _ hprepared.2

lemma Holds.addPublication (h : state.Holds restorable) (now : Nat)
    (scopeId publicationId : String) (entries : List VersionRef)
    (sourceConfigRevisions : List ConfigRevisionRef) (createdBy : Option String) {metadata : J}
    (hmetadata : restorable metadata) :
    (state.addPublication now scopeId publicationId entries sourceConfigRevisions createdBy
      metadata).2.Holds restorable := by
  refine ⟨h.resources, h.versions, fun publication hmem => ?_⟩
  rcases List.mem_append.mp hmem with hmem | hmem
  · exact h.publications publication hmem
  · rw [List.mem_singleton.mp hmem]
    exact hmetadata

end Values

end FileRegistryState

end Awaken.Stores.FileVersionedRegistry
