import Awaken.Contract.RegistryValidation
import Awaken.Stores.MemoryVersionedRegistry.PurgeRuns

namespace Awaken.Stores.MemoryVersionedRegistry

open Awaken.Lib Awaken.Contract.VersionedRegistry Awaken.Contract.RegistryGraph
open StandardRegistryGraphValidator

variable {J : Type}

namespace Inner

variable {self self' : Inner J}

def storedVersions (self : Inner J) (scopeId : String) : List VersionRef :=
  (self.versions.entries.filter (fun e => e.1.1 = scopeId)).flatMap (fun e =>
    e.2.map (fun record => ⟨e.1.2.1, e.1.2.2, record.version⟩))

lemma mem_storedVersions {scopeId : String} {version : VersionRef} :
    version ∈ self.storedVersions scopeId ↔
      ∃ record ∈ self.records (key scopeId version.kind version.id),
        record.version = version.version := by
  obtain ⟨kind, id, number⟩ := version
  simp only [storedVersions, List.mem_flatMap, List.mem_filter, decide_eq_true_eq, List.mem_map,
    VersionRef.mk.injEq, Inner.records, key]
  constructor
  · rintro ⟨⟨⟨scope, kind', id'⟩, records⟩, ⟨hentry, rfl⟩, record, hrecord, rfl, rfl, rfl⟩
    rw [(Table.get_eq_some).mpr hentry]
    exact ⟨record, hrecord, rfl⟩
  · rintro ⟨record, hrecord, rfl⟩
    cases hfound : self.versions.get (scopeId, kind, id) with
    | none =>
      rw [hfound] at hrecord
      cases hrecord
    | some records =>
      rw [hfound] at hrecord
      exact ⟨((scopeId, kind, id), records), ⟨(Table.get_eq_some).mp hfound, rfl⟩, record, hrecord,
        rfl, rfl, rfl⟩

def store (self : Inner J) : VersionedRegistryStore J where
  latestPublication := fun scopeId => .ok (self.lastPublication scopeId)
  getPublication := fun scopeId snapshotVersion => .ok (self.getPublication scopeId snapshotVersion)
  resourceState := fun scopeId kind id => .ok (self.resourceState scopeId kind id)
  current := fun scopeId kind id => .ok (self.current scopeId kind id)
  get := fun scopeId kind id version => .ok (self.get scopeId kind id version)
  stored := self.storedVersions
  stored_of_get := by
    intro scopeId kind id version record h
    have hfound := Option.mem_def.mpr (Except.ok.inj h)
    refine (mem_storedVersions).mpr ⟨record, List.mem_of_find?_eq_some hfound, ?_⟩
    simpa using List.find?_some hfound

def Counted (self : Inner J) : Prop := ∀ k, ∀ record ∈ self.records k, record.version ≠ 0

lemma counted_addVersion (h : self.Counted) (now : Nat) (scopeId : String)
    (resource : RegistryResourcePublish J) (contentHash : String)
    (canonicalJsonBytes : List UInt8) :
    (self.addVersion now scopeId resource contentHash canonicalJsonBytes).2.Counted := by
  intro k record hrecord
  rw [records_addVersion] at hrecord
  split at hrecord
  · cases List.mem_append.mp hrecord with
    | inl hold => exact h k record hold
    | inr hnew =>
      rw [List.mem_singleton.mp hnew]
      change self.nextVersion _ ≠ 0
      unfold nextVersion
      split
      · exact Nat.succ_ne_zero _
      · exact Nat.one_ne_zero
  · exact h k record hrecord

lemma counted_publishPrepared (h : self.Counted) (now : Nat) (scopeId : String)
    (resource : RegistryResourcePublish J) (contentHash : String)
    (canonicalJsonBytes : List UInt8) :
    (self.publishPrepared now scopeId resource contentHash canonicalJsonBytes).2.Counted := by
  unfold publishPrepared
  split
  · exact h
  · exact counted_addVersion h now scopeId resource contentHash canonicalJsonBytes

lemma counted_publishAll (h : self.Counted) (now : Nat) (scopeId : String)
    (prepared : List (RegistryResourcePublish J × String × List UInt8))
    (entries : List VersionRef) : (publishAll now scopeId prepared entries self).2.Counted := by
  induction prepared generalizing entries self with
  | nil => exact h
  | cons first prepared ih =>
    exact ih (counted_publishPrepared h now scopeId first.1 first.2.1 first.2.2) _

variable (json : RegistryJson J)

lemma counted_publishResources (h : self.Counted) (now : Nat) (scopeId publicationId : String)
    (resources : List (RegistryResourcePublish J))
    (sourceConfigRevisions : List ConfigRevisionRef) (createdBy : Option String) (metadata : J) :
    (publishResourcesAndCreatePublication json self now scopeId publicationId resources
      sourceConfigRevisions createdBy metadata).2.Counted := by
  unfold publishResourcesAndCreatePublication
  split
  · exact h
  · split
    · exact h
    · next prepared _ =>
      split
      · exact h
      · split
        · exact h
        · exact counted_publishAll h now scopeId prepared []

lemma counted_step {world : World J} (h : world.inner.Counted) (call : Call J) :
    (world.step json call).inner.Counted := by
  cases call with
  | publishResource now scopeId resource =>
    rw [World.step]
    dsimp only
    unfold publishResource
    split
    · exact h
    · split
      · exact h
      · exact counted_publishPrepared h _ _ _ _ _
  | rollbackRead scopeId kind id toVersion metadata =>
    rw [World.step]
    split <;> exact h
  | rollbackWrite now index =>
    rw [World.step]
    split
    · exact h
    · dsimp only
      unfold rollbackWrite
      split
      · exact h
      · split
        · exact h
        · split
          · exact h
          · exact counted_addVersion h _ _ _ _ _
  | archiveResource now scopeId kind id =>
    rw [World.step]
    dsimp only
    unfold archiveResource
    split
    · exact h
    · split <;> exact h
  | unarchiveResource now scopeId kind id =>
    rw [World.step]
    dsimp only
    unfold unarchiveResource
    split
    · exact h
    · split <;> exact h
  | publishResourcesAndCreatePublication now scopeId publicationId resources
      sourceConfigRevisions createdBy metadata =>
    exact counted_publishResources json h _ _ _ _ _ _ _
  | createPublication now scopeId publicationId entries sourceConfigRevisions createdBy metadata =>
    rw [World.step]
    dsimp only
    unfold createPublication
    split
    · exact h
    · split
      · exact h
      · split <;> exact h
  | purgePlan scopeId nowMs policy dryRun =>
    simp only [World.step]
    split <;> exact h
  | purgeDelete index =>
    rw [World.step]
    split
    · exact h
    · intro k record hrecord
      dsimp only at hrecord
      rw [records_purgeDelete] at hrecord
      exact h k record (List.mem_filter.mp hrecord).1

end Inner

open Awaken.Stores.MemoryVersionedRegistry.Inner

variable {json : RegistryJson J} {world world' : World J} {call : Call J} {tr tr' : Trace J}

/-- A deletion leaves the version. -/
def Spares (scopeId : String) (version : VersionRef) (τ : Transition (World J) (Call J)) : Prop :=
  ∀ index purge, τ.label = .purgeDelete index → τ.pre.purges[index]? = some purge →
    purge.scopeId = scopeId → version ∉ purge.plan

lemma get_eq_some_iff {inner : Inner J} (h : inner.Ordered) {scopeId kind id : String}
    {version : Nat} {record : VersionedRecord J} :
    inner.get scopeId kind id version = some record ↔
      record ∈ inner.records (key scopeId kind id) ∧ record.version = version := by
  constructor
  · intro hfound
    exact ⟨List.mem_of_find?_eq_some hfound, by simpa using List.find?_some hfound⟩
  · rintro ⟨hmem, rfl⟩
    cases hfound : inner.get scopeId kind id record.version with
    | none => simpa using List.find?_eq_none.mp hfound record hmem
    | some other =>
      have hother := List.mem_of_find?_eq_some hfound
      have hversion : other.version = record.version := by simpa using List.find?_some hfound
      have hinj := List.inj_on_of_nodup_map
        ((h.versions (key scopeId kind id)).imp (fun hlt => ne_of_lt hlt))
      rw [hinj hother hmem hversion]

lemma get_step (h : RunInv world) {scopeId : String} {version : VersionRef}
    {record : VersionedRecord J}
    (hspares : Spares scopeId version ⟨world, call, world.step json call⟩)
    (hget : world.inner.get scopeId version.kind version.id version.version = some record) :
    (world.step json call).inner.get scopeId version.kind version.id version.version =
      some record := by
  have hordered : (world.step json call).inner.Ordered := ((step_spec h rfl).1).ordered
  obtain ⟨hmem, hversion⟩ := (get_eq_some_iff h.ordered).mp hget
  refine (get_eq_some_iff hordered).mpr ⟨?_, hversion⟩
  cases step_cases json h call with
  | inl hadds => exact (hadds.1.kept _).subset hmem
  | inr hdeletes =>
    obtain ⟨index, purge, hcall, hpurge, hinner, _⟩ := hdeletes
    rw [hinner, records_purgeDelete]
    refine List.mem_filter.mpr ⟨hmem, decide_eq_true ?_⟩
    rintro ⟨hscope, hplan⟩
    rw [hversion] at hplan
    exact hspares index purge hcall hpurge hscope.symm hplan

lemma get_run (h : RunInv world) (hrun : Run (Step json) world tr world') {scopeId : String}
    {version : VersionRef} (hspares : ∀ τ ∈ tr, Spares scopeId version τ)
    {record : VersionedRecord J}
    (hget : world.inner.get scopeId version.kind version.id version.version = some record) :
    world'.inner.get scopeId version.kind version.id version.version = some record := by
  let kept : World J → Prop := fun world =>
    RunInv world ∧
      world.inner.get scopeId version.kind version.id version.version = some record
  have hstep : ∀ τ : Transition (World J) (Call J), Step json τ.pre τ.label τ.post →
      Spares scopeId version τ → kept τ.pre → kept τ.post := by
    rintro ⟨pre, label, post⟩ hstep hspares ⟨hinv, hget⟩
    obtain rfl : post = pre.step json label := hstep
    exact ⟨(step_spec hinv rfl).1, get_step hinv hspares hget⟩
  exact (Run.invariant (I := kept) hstep hrun hspares ⟨h, hget⟩).1.2

lemma runInv_of_run (hrun : Run (Step json) World.default tr world) : RunInv world :=
  Run.invariant_all (fun _ _ _ hstep hinv => (step_spec hinv hstep).1) hrun runInv_default

lemma counted_of_run (hrun : Run (Step json) World.default tr world) : world.inner.Counted := by
  have hstep : ∀ (before : World J) (call : Call J) (after : World J), Step json before call after →
      before.inner.Counted → after.inner.Counted := by
    rintro before call after rfl h
    exact counted_step json h call
  have hstart : (World.default : World J).inner.Counted := by
    intro k record hrecord
    simp [World.default, Inner.default, Inner.records] at hrecord
  exact Run.invariant_all (I := fun world : World J => world.inner.Counted) hstep hrun hstart

/-- A manifest that was frozen from the report on a current version validates to that report in every
later state, as long as no purge has deleted one of its versions. -/
theorem frozen_manifest_survives (json : RegistryJson J) {world world' : World J} {tr tr' : Trace J}
    (hrun : Run (Step json) World.default tr world) (decoder : SpecDecoder J)
    (sha256 : List UInt8 → List UInt8) {scopeId kind id : String} {version : Nat}
    {policy : RegistryReferencePolicy} {report : RegistryGraphValidationReport}
    (hreport : StandardRegistryGraphValidator.validate ⟨world.inner.store, decoder, sha256⟩
      ⟨.exact scopeId kind id version, policy⟩ = .ok report)
    (hrun' : Run (Step json) world tr' world')
    (hspares : ∀ τ ∈ tr', ∀ entry ∈ report.entries, Spares scopeId entry.versionRef τ)
    (publicationId : Option String) (registrySnapshotVersion : Option Nat) :
    StandardRegistryGraphValidator.validate ⟨world'.inner.store, decoder, sha256⟩
      ⟨.manifest scopeId ⟨publicationId, registrySnapshotVersion, report.entries⟩, policy⟩ =
        .ok report := by
  have hversions : ∀ version ∈ world.inner.store.stored scopeId, version.version ≠ 0 := by
    intro version hversion
    obtain ⟨record, hrecord, heq⟩ := (mem_storedVersions).mp hversion
    exact heq ▸ counted_of_run hrun _ record hrecord
  refine frozen_validates ⟨world.inner.store, decoder, sha256⟩ hreport hversions ?_ _ _
  intro entry hentry
  obtain ⟨record, hrecord⟩ := stored_of_report hreport hentry
  refine Eq.trans (congrArg Except.ok ?_) hrecord.symm
  exact get_run (runInv_of_run hrun) hrun' (fun τ hτ => hspares τ hτ entry hentry) (Except.ok.inj hrecord)

section Sample

def lengthJson : RegistryJson String where
  registryContentHash _ value :=
    .ok (hashText [value.length.toUInt8], [value.length.toUInt8])
  buildRollbackMetadata metadata _ := .ok metadata
  rollbackSource _ _ record := record.metadata

def cloudDecoder : SpecDecoder String where
  agentSpec _ := .error "no agents"
  modelSpec _ := .ok ⟨"fast", "cloud"⟩
  modelPoolSpec _ := .error "no pools"

def firstCalls : List (Call String) :=
  [.publishResource 0 "default" ⟨registryKindProvider, "cloud", "v1", 1, ""⟩,
    .publishResource 1 "default" ⟨registryKindModel, "fast", "v1", 1, ""⟩]

def laterCalls : List (Call String) :=
  [.archiveResource 2 "default" registryKindProvider "cloud",
    .publishResource 3 "default" ⟨registryKindModel, "fast", "version 2", 1, ""⟩]

def frozenWorld : World String := firstCalls.foldl (World.step lengthJson) World.default

def frozenEntry (kind id : String) : PinnedRegistryEntry := ⟨kind, id, 1, hashText [2]⟩

def frozenReport : RegistryGraphValidationReport :=
  ⟨[frozenEntry registryKindModel "fast", frozenEntry registryKindProvider "cloud"]⟩

lemma frozenReport_validates : StandardRegistryGraphValidator.validate
    ⟨frozenWorld.inner.store, cloudDecoder, id⟩
    ⟨.exact "default" registryKindModel "fast" 1, .sameScopeOnly⟩ = .ok frozenReport := by
  let root := frozenEntry registryKindModel "fast"
  let provider := frozenEntry registryKindProvider "cloud"
  let context : ValidationContext := ⟨"default", [root], ⟨[(root.key, root)], by simp⟩, true, false⟩
  let g := StandardRegistryGraphValidator.graph ⟨frozenWorld.inner.store, cloudDecoder, id⟩ context
  have hprovider : g.visit [root.versionRef] [] provider = .ok [provider] :=
    (g.visit_ok).mpr (.inr ⟨rfl, by decide, [], [], by decide, g.visitAll_nil, rfl⟩)
  have hroot : g.visit [] [] root = .ok frozenReport.entries :=
    (g.visit_ok).mpr (.inr ⟨rfl, by decide, [provider], [provider], by decide,
      (g.visitAll_cons).mpr ⟨_, hprovider, g.visitAll_nil⟩, by decide⟩)
  refine (bind_eq_ok_iff).mpr ⟨context, rfl, ?_⟩
  exact (bind_eq_ok_iff).mpr ⟨frozenReport.entries,
    (g.visitAll_cons).mpr ⟨_, hroot, g.visitAll_nil⟩, rfl⟩

theorem frozen_manifest_survives_archived : StandardRegistryGraphValidator.validate
    ⟨(laterCalls.foldl (World.step lengthJson) frozenWorld).inner.store, cloudDecoder, id⟩
    ⟨.manifest "default" ⟨none, none, frozenReport.entries⟩, .sameScopeOnly⟩ = .ok frozenReport := by
  refine frozen_manifest_survives lengthJson (run_trace _ _ firstCalls) cloudDecoder id
    frozenReport_validates (run_trace _ _ laterCalls) ?_ none none
  rintro τ (_ | ⟨_, _ | ⟨_, hτ⟩⟩) entry _ index purge hlabel
  · cases hlabel
  · cases hlabel
  · cases hτ

end Sample

end Awaken.Stores.MemoryVersionedRegistry
