import Awaken.Stores.FileVersionedRegistry.Agreement
import Awaken.Stores.MemoryVersionedRegistry.PurgeRuns

namespace Awaken.Stores.FileVersionedRegistry

open Awaken.Lib Awaken.Contract.VersionedRegistry FileVersionedRegistryStore
open Awaken.Stores.MemoryVersionedRegistry (Inner)

variable {J Text α : Type}

inductive Op (J : Type) where
  | resourceState (scopeId kind id : String)
  | current (scopeId kind id : String)
  | get (scopeId kind id : String) (version : Nat)
  | listVersions (scopeId kind id : String)
  | publishResource (now : Nat) (scopeId : String) (resource : RegistryResourcePublish J)
  | rollbackResource (now : Nat) (scopeId kind id : String) (toVersion : Nat) (metadata : J)
  | rollbackPublication (now : Nat) (scopeId : String) (sourceSnapshotVersion : Nat)
      (publicationId : String) (createdBy : Option String) (metadata : J)
  | archiveResource (now : Nat) (scopeId kind id : String)
  | unarchiveResource (now : Nat) (scopeId kind id : String)
  | publishResourcesAndCreatePublication (now : Nat) (scopeId publicationId : String)
      (resources : List (RegistryResourcePublish J))
      (sourceConfigRevisions : List ConfigRevisionRef) (createdBy : Option String) (metadata : J)
  | createPublication (now : Nat) (scopeId publicationId : String) (entries : List VersionRef)
      (sourceConfigRevisions : List ConfigRevisionRef) (createdBy : Option String) (metadata : J)
  | latestPublication (scopeId : String)
  | getPublication (scopeId : String) (snapshotVersion : Nat)

def Op.ids : Op J → List String
  | .resourceState scopeId kind id | .current scopeId kind id | .get scopeId kind id _
  | .listVersions scopeId kind id | .rollbackResource _ scopeId kind id _ _
  | .archiveResource _ scopeId kind id | .unarchiveResource _ scopeId kind id =>
    [scopeId, kind, id]
  | .publishResource _ scopeId resource => [scopeId, resource.kind, resource.id]
  | .rollbackPublication _ scopeId _ publicationId _ _ => [scopeId, publicationId]
  | .publishResourcesAndCreatePublication _ scopeId publicationId resources _ _ _ =>
    scopeId :: publicationId :: resources.flatMap (fun resource => [resource.kind, resource.id])
  | .createPublication _ scopeId publicationId entries _ _ _ =>
    scopeId :: publicationId :: entries.flatMap (fun entry => [entry.kind, entry.id])
  | .latestPublication scopeId | .getPublication scopeId _ => [scopeId]

def Op.values : Op J → List J
  | .publishResource _ _ resource => [resource.value, resource.metadata]
  | .rollbackResource _ _ _ _ _ metadata | .rollbackPublication _ _ _ _ _ metadata
  | .createPublication _ _ _ _ _ _ metadata => [metadata]
  | .publishResourcesAndCreatePublication _ _ _ resources _ _ metadata =>
    metadata :: resources.flatMap (fun resource => [resource.value, resource.metadata])
  | .resourceState .. | .current .. | .get .. | .listVersions .. | .archiveResource ..
  | .unarchiveResource .. | .latestPublication _ | .getPublication .. => []

inductive Returned (J : Type) where
  | resourceState (state : Option (VersionedResourceState J))
  | record (record : Option (VersionedRecord J))
  | records (records : List (VersionedRecord J))
  | outcome (outcome : PublishOutcome J)
  | restored (record : VersionedRecord J)
  | done
  | published (publication : RegistryPublication J)
  | publication (publication : Option (RegistryPublication J))
deriving DecidableEq

abbrev Answer (J S : Type) := Except VersionedRegistryError (Returned J) × S

def Answer.ofReply {S : Type} (wrap : α → Returned J) (reply : Except VersionedRegistryError α × S) :
    Answer J S :=
  (reply.1.map wrap, reply.2)

def Answer.ofResult {S : Type} (wrap : α → Returned J) (state : S)
    (result : Except VersionedRegistryError (α × S)) : Answer J S :=
  match result with
  | .ok (value, state) => (.ok (wrap value), state)
  | .error error => (.error error, state)

def memoryCall (json : RegistryJson J) (inner : Inner J) : Op J → Answer J (Inner J)
  | .resourceState scopeId kind id =>
    (.ok (.resourceState (inner.resourceState scopeId kind id)), inner)
  | .current scopeId kind id => (.ok (.record (inner.current scopeId kind id)), inner)
  | .get scopeId kind id version => (.ok (.record (inner.get scopeId kind id version)), inner)
  | .listVersions scopeId kind id => (.ok (.records (inner.listVersions scopeId kind id)), inner)
  | .publishResource now scopeId resource =>
    .ofReply .outcome (Inner.publishResource json inner now scopeId resource)
  | .rollbackResource now scopeId kind id toVersion metadata =>
    .ofReply .restored (Inner.rollbackResource json inner now scopeId kind id toVersion metadata)
  | .rollbackPublication now scopeId sourceSnapshotVersion publicationId createdBy metadata =>
    .ofReply .published (Inner.rollbackPublication json inner now scopeId sourceSnapshotVersion
      publicationId createdBy metadata)
  | .archiveResource now scopeId kind id =>
    .ofReply (fun _ => .done) (inner.archiveResource now scopeId kind id)
  | .unarchiveResource now scopeId kind id =>
    .ofReply (fun _ => .done) (inner.unarchiveResource now scopeId kind id)
  | .publishResourcesAndCreatePublication now scopeId publicationId resources
      sourceConfigRevisions createdBy metadata =>
    .ofReply .published (Inner.publishResourcesAndCreatePublication json inner now scopeId
      publicationId resources sourceConfigRevisions createdBy metadata)
  | .createPublication now scopeId publicationId entries sourceConfigRevisions createdBy metadata =>
    .ofReply .published (inner.createPublication now scopeId publicationId entries
      sourceConfigRevisions createdBy metadata)
  | .latestPublication scopeId => (.ok (.publication (inner.lastPublication scopeId)), inner)
  | .getPublication scopeId snapshotVersion =>
    (.ok (.publication (inner.getPublication scopeId snapshotVersion)), inner)

def fileCall (store : FileVersionedRegistryStore J Text) (json : RegistryJson J)
    (disk : Disk Text) : Op J → Answer J (Disk Text)
  | .resourceState scopeId kind id =>
    ((store.resourceState disk scopeId kind id).map .resourceState, disk)
  | .current scopeId kind id => ((store.current disk scopeId kind id).map .record, disk)
  | .get scopeId kind id version => ((store.get disk scopeId kind id version).map .record, disk)
  | .listVersions scopeId kind id => ((store.listVersions disk scopeId kind id).map .records, disk)
  | .publishResource now scopeId resource =>
    .ofResult .outcome disk (store.publishResource json disk now scopeId resource)
  | .rollbackResource now scopeId kind id toVersion metadata =>
    .ofResult .restored disk
      (store.rollbackResource json disk now scopeId kind id toVersion metadata)
  | .rollbackPublication now scopeId sourceSnapshotVersion publicationId createdBy metadata =>
    .ofResult .published disk (store.rollbackPublication json disk now scopeId
      sourceSnapshotVersion publicationId createdBy metadata)
  | .archiveResource now scopeId kind id =>
    .ofResult (fun _ => .done) disk (store.archiveResource disk now scopeId kind id)
  | .unarchiveResource now scopeId kind id =>
    .ofResult (fun _ => .done) disk (store.unarchiveResource disk now scopeId kind id)
  | .publishResourcesAndCreatePublication now scopeId publicationId resources
      sourceConfigRevisions createdBy metadata =>
    .ofResult .published disk (store.publishResourcesAndCreatePublication json disk now scopeId
      publicationId resources sourceConfigRevisions createdBy metadata)
  | .createPublication now scopeId publicationId entries sourceConfigRevisions createdBy metadata =>
    .ofResult .published disk (store.createPublication disk now scopeId publicationId entries
      sourceConfigRevisions createdBy metadata)
  | .latestPublication scopeId => ((store.latestPublication disk scopeId).map .publication, disk)
  | .getPublication scopeId snapshotVersion =>
    ((store.getPublication disk scopeId snapshotVersion).map .publication, disk)

def answers {S : Type} (call : S → Op J → Answer J S) : S → List (Op J) →
    List (Except VersionedRegistryError (Returned J))
  | _, [] => []
  | state, op :: ops => (call state op).1 :: answers call (call state op).2 ops

section Steps

variable {store : FileVersionedRegistryStore J Text} {restorable : J → Prop} {disk : Disk Text}
  {inner : Inner J}

lemma FileVersionedRegistryStore.Agrees.answer {reply : Except VersionedRegistryError α × Inner J}
    {result : Except VersionedRegistryError (α × Disk Text)} (h : store.Agrees restorable disk reply result)
    (wrap : α → Returned J) :
    (Answer.ofReply wrap reply).1.toOption = (Answer.ofResult wrap disk result).1.toOption ∧
      store.Simulates restorable (Answer.ofResult wrap disk result).2 (Answer.ofReply wrap reply).2 := by
  cases h with
  | done h => exact ⟨rfl, h⟩
  | failed h => exact ⟨rfl, h⟩

lemma call_agrees {json : RegistryJson J} (hstore : store.Lossless json restorable)
    (h : store.Simulates restorable disk inner) {op : Op J}
    (hop : ∀ id ∈ op.ids, store.Accepts id) (hvalues : ∀ v ∈ op.values, restorable v) :
    (memoryCall json inner op).1.toOption = (fileCall store json disk op).1.toOption ∧
      store.Simulates restorable (fileCall store json disk op).2 (memoryCall json inner op).2 := by
  cases op with
  | resourceState scopeId kind id =>
    simp only [Op.ids, List.forall_mem_cons] at hop
    rw [fileCall, resourceState_eq h hop.1 hop.2.1 hop.2.2.1]
    exact ⟨rfl, h⟩
  | current scopeId kind id =>
    simp only [Op.ids, List.forall_mem_cons] at hop
    rw [fileCall, current_eq h hop.1 hop.2.1 hop.2.2.1]
    exact ⟨rfl, h⟩
  | get scopeId kind id version =>
    simp only [Op.ids, List.forall_mem_cons] at hop
    rw [fileCall, get_eq h hop.1 hop.2.1 hop.2.2.1]
    exact ⟨rfl, h⟩
  | listVersions scopeId kind id =>
    simp only [Op.ids, List.forall_mem_cons] at hop
    rw [fileCall, listVersions_eq h hop.1 hop.2.1 hop.2.2.1]
    exact ⟨rfl, h⟩
  | publishResource now scopeId resource =>
    simp only [Op.ids, List.forall_mem_cons] at hop
    simp only [Op.values, List.forall_mem_cons] at hvalues
    exact (publishResource_agrees hstore h hop.1 now hop.2.1 hop.2.2.1
      ⟨hvalues.1, hvalues.2.1⟩).answer _
  | rollbackResource now scopeId kind id toVersion metadata =>
    simp only [Op.ids, List.forall_mem_cons] at hop
    exact (rollbackResource_agrees hstore h hop.1 now hop.2.1 hop.2.2.1 toVersion
      (hvalues metadata List.mem_cons_self)).answer _
  | rollbackPublication now scopeId sourceSnapshotVersion publicationId createdBy metadata =>
    simp only [Op.ids, List.forall_mem_cons] at hop
    exact (rollbackPublication_agrees hstore h hop.1 now sourceSnapshotVersion hop.2.1 createdBy
      (hvalues metadata List.mem_cons_self)).answer _
  | archiveResource now scopeId kind id =>
    simp only [Op.ids, List.forall_mem_cons] at hop
    exact (archiveResource_agrees hstore h hop.1 now hop.2.1 hop.2.2.1).answer _
  | unarchiveResource now scopeId kind id =>
    simp only [Op.ids, List.forall_mem_cons] at hop
    exact (unarchiveResource_agrees hstore h hop.1 now hop.2.1 hop.2.2.1).answer _
  | publishResourcesAndCreatePublication now scopeId publicationId resources
      sourceConfigRevisions createdBy metadata =>
    simp only [Op.ids, List.forall_mem_cons, List.forall_mem_flatMap] at hop
    have hresources : ∀ resource ∈ resources,
        store.Accepts resource.kind ∧ store.Accepts resource.id := fun resource hresource =>
      ⟨(hop.2.2 resource hresource).1, (hop.2.2 resource hresource).2.1⟩
    simp only [Op.values, List.forall_mem_cons, List.forall_mem_flatMap] at hvalues
    exact (publishResourcesAndCreatePublication_agrees hstore h hop.1 now hop.2.1 hresources
      (fun resource hmem => ⟨(hvalues.2 resource hmem).1, (hvalues.2 resource hmem).2.1⟩)
      sourceConfigRevisions createdBy hvalues.1).answer _
  | createPublication now scopeId publicationId entries sourceConfigRevisions createdBy metadata =>
    simp only [Op.ids, List.forall_mem_cons, List.forall_mem_flatMap] at hop
    have hentries : ∀ entry ∈ entries, store.Accepts entry.kind ∧ store.Accepts entry.id :=
      fun entry hentry => ⟨(hop.2.2 entry hentry).1, (hop.2.2 entry hentry).2.1⟩
    exact (createPublication_agrees hstore h hop.1 now hop.2.1 hentries sourceConfigRevisions
      createdBy (hvalues metadata List.mem_cons_self)).answer _
  | latestPublication scopeId =>
    simp only [Op.ids, List.forall_mem_cons] at hop
    rw [fileCall, latestPublication_eq h hop.1]
    exact ⟨rfl, h⟩
  | getPublication scopeId snapshotVersion =>
    simp only [Op.ids, List.forall_mem_cons] at hop
    rw [fileCall, getPublication_eq h hop.1]
    exact ⟨rfl, h⟩

lemma answers_agree {json : RegistryJson J} (hstore : store.Lossless json restorable)
    (h : store.Simulates restorable disk inner) {ops : List (Op J)}
    (hops : ∀ op ∈ ops, ∀ id ∈ op.ids, store.Accepts id)
    (hvalues : ∀ op ∈ ops, ∀ v ∈ op.values, restorable v) :
    (answers (memoryCall json) inner ops).map Except.toOption =
      (answers (fileCall store json) disk ops).map Except.toOption := by
  induction ops generalizing disk inner with
  | nil => rfl
  | cons op ops ih =>
    rw [List.forall_mem_cons] at hops hvalues
    obtain ⟨hanswer, hnext⟩ := call_agrees hstore h hops.1 hvalues.1
    rw [answers, answers, List.map_cons, List.map_cons, hanswer, ih hnext hops.2 hvalues.2]

end Steps

/-- From new stores both registries answer every sequence of calls alike: the same calls fail, and
the others return the same values. -/
theorem registries_agree (store : FileVersionedRegistryStore J Text) (json : RegistryJson J)
    (restorable : J → Prop) (hstore : store.Lossless json restorable) (ops : List (Op J))
    (hops : ∀ op ∈ ops, ∀ id ∈ op.ids, store.Accepts id)
    (hvalues : ∀ op ∈ ops, ∀ v ∈ op.values, restorable v) :
    (answers (memoryCall json) .default ops).map Except.toOption =
      (answers (fileCall store json) .empty ops).map Except.toOption :=
  answers_agree hstore simulates_default hops hvalues

section Examples

open Awaken.Stores.MemoryVersionedRegistry (numberJson agentValue firstVersion)

def documentStore : FileVersionedRegistryStore Nat (FileRegistryState Nat) where
  basePath := "registry"
  toStringPretty := .ok
  fromStr state :=
    if state.versions.all (fun entry => entry.record.value < 128) then .ok state
    else .error "recursion limit exceeded"
  debug text := text

def releaseOps : List (Op Nat) :=
  [.publishResource 0 "default" (agentValue 7),
    .createPublication 1 "default" "release" [firstVersion] [] none 0,
    .rollbackResource 2 "default" "agent" "a" 1 0, .rollbackPublication 3 "default" 1 "again" none 0,
    .listVersions "default" "agent" "a", .latestPublication "default"]

theorem registries_agree_release :
    documentStore.Lossless numberJson (· < 128) ∧
    (answers (memoryCall numberJson) .default releaseOps).map Except.toOption =
      (answers (fileCall documentStore numberJson) .empty releaseOps).map Except.toOption := by
  have hstore : documentStore.Lossless numberJson (· < 128) := by
    refine ⟨fun state hheld => ⟨state, rfl, if_pos ?_⟩, fun _ _ _ hold hbuilt => ?_,
      fun _ _ _ hold => hold⟩
    · exact List.all_eq_true.mpr (fun entry hmem => decide_eq_true (hheld.versions entry hmem).1)
    · rw [← Except.ok.inj hbuilt]
      exact hold
  have hops : ∀ op ∈ releaseOps, ∀ id ∈ op.ids, documentStore.Accepts id := by
    have hdefault : documentStore.Accepts "default" := accepts_default
    have hagent : documentStore.Accepts "agent" :=
      accepts_of (rfl : "agent".toList = ['a', 'g', 'e', 'n', 't']) (by decide) (by decide +kernel)
    have ha : documentStore.Accepts "a" :=
      accepts_of (rfl : "a".toList = ['a']) (by decide) (by decide +kernel)
    have hrelease : documentStore.Accepts "release" :=
      accepts_of (rfl : "release".toList = ['r', 'e', 'l', 'e', 'a', 's', 'e']) (by decide)
        (by decide +kernel)
    have hagain : documentStore.Accepts "again" :=
      accepts_of (rfl : "again".toList = ['a', 'g', 'a', 'i', 'n']) (by decide) (by decide +kernel)
    simp [releaseOps, Op.ids, agentValue, firstVersion, hdefault, hagent, ha, hrelease, hagain]
  have hvalues : ∀ op ∈ releaseOps, ∀ v ∈ op.values, v < 128 := by decide
  exact ⟨hstore, registries_agree documentStore numberJson (· < 128) hstore releaseOps hops hvalues⟩

end Examples

end Awaken.Stores.FileVersionedRegistry
