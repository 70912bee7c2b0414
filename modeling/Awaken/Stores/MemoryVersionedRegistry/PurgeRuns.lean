import Awaken.Stores.MemoryVersionedRegistry.Integrity

namespace Awaken.Stores.MemoryVersionedRegistry

open Awaken.Lib Awaken.Contract.VersionedRegistry Awaken.Stores.MemoryVersionedRegistry.Inner

variable {J : Type}

structure Rollback (J : Type) where
  scopeId : String
  kind : String
  id : String
  toVersion : Nat
  metadata : J
  prior : VersionedRecord J
deriving DecidableEq

structure Purge where
  scopeId : String
  plan : List VersionRef
deriving DecidableEq

structure World (J : Type) where
  inner : Inner J
  rollbacks : List (Rollback J)
  purges : List Purge

inductive Call (J : Type) where
  | publishResource (now : Nat) (scopeId : String) (resource : RegistryResourcePublish J)
  | rollbackRead (scopeId kind id : String) (toVersion : Nat) (metadata : J)
  | rollbackWrite (now index : Nat)
  | archiveResource (now : Nat) (scopeId kind id : String)
  | unarchiveResource (now : Nat) (scopeId kind id : String)
  | publishResourcesAndCreatePublication (now : Nat) (scopeId publicationId : String)
      (resources : List (RegistryResourcePublish J))
      (sourceConfigRevisions : List ConfigRevisionRef) (createdBy : Option String) (metadata : J)
  | createPublication (now : Nat) (scopeId publicationId : String) (entries : List VersionRef)
      (sourceConfigRevisions : List ConfigRevisionRef) (createdBy : Option String) (metadata : J)
  | purgePlan (scopeId : String) (nowMs : Nat) (policy : RegistryRetentionPolicy) (dryRun : Bool)
  | purgeDelete (index : Nat)

namespace World

def default : World J := ⟨.default, [], []⟩

def step (json : RegistryJson J) (world : World J) : Call J → World J
  | .publishResource now scopeId resource =>
    { world with inner := (publishResource json world.inner now scopeId resource).2 }
  | .rollbackRead scopeId kind id toVersion metadata =>
    match world.inner.rollbackPrior scopeId kind id toVersion with
    | .error _ => world
    | .ok prior =>
      { world with
        rollbacks := world.rollbacks ++ [⟨scopeId, kind, id, toVersion, metadata, prior⟩] }
  | .rollbackWrite now index =>
    match world.rollbacks[index]? with
    | none => world
    | some rollback =>
      let inner := (rollbackWrite json world.inner now rollback.scopeId rollback.kind rollback.id
        rollback.toVersion rollback.metadata rollback.prior).2
      { world with inner, rollbacks := world.rollbacks.eraseIdx index }
  | .archiveResource now scopeId kind id =>
    { world with inner := (world.inner.archiveResource now scopeId kind id).2 }
  | .unarchiveResource now scopeId kind id =>
    { world with inner := (world.inner.unarchiveResource now scopeId kind id).2 }
  | .publishResourcesAndCreatePublication now scopeId publicationId resources
      sourceConfigRevisions createdBy metadata =>
    let inner := (publishResourcesAndCreatePublication json world.inner now scopeId publicationId
      resources sourceConfigRevisions createdBy metadata).2
    { world with inner }
  | .createPublication now scopeId publicationId entries sourceConfigRevisions createdBy metadata =>
    let inner := (world.inner.createPublication now scopeId publicationId entries
      sourceConfigRevisions createdBy metadata).2
    { world with inner }
  | .purgePlan scopeId nowMs policy dryRun =>
    let plan := world.inner.purgePlan scopeId nowMs policy
    if dryRun || plan.isEmpty then world
    else { world with purges := world.purges ++ [⟨scopeId, plan⟩] }
  | .purgeDelete index =>
    match world.purges[index]? with
    | none => world
    | some purge =>
      let inner := world.inner.purgeDelete purge.scopeId purge.plan
      { world with inner, purges := world.purges.eraseIdx index }

end World

def Step (json : RegistryJson J) (world : World J) (call : Call J) (world' : World J) : Prop :=
  world' = world.step json call

abbrev Trace (J : Type) := List (Transition (World J) (Call J))

/-- In every state what is published or current is stored, versions and snapshots are in order,
and what a state stores an earlier one has stored or has only older versions. -/
structure KeepsPublished (tr : Trace J) : Prop where
  intact : ∀ τ ∈ tr, τ.post.inner.Intact
  ordered : ∀ τ ∈ tr, τ.post.inner.Ordered
  grow : tr.Pairwise (fun earlier later => VersionsGrow earlier.post.inner later.post.inner)

/-- A deletion meets its plan with nothing of it published. -/
def DeletesUnpublished (τ : Transition (World J) (Call J)) : Prop :=
  ∀ index purge, τ.label = .purgeDelete index → τ.pre.purges[index]? = some purge →
    τ.pre.inner.Unpublished purge.scopeId purge.plan

structure RunInv (world : World J) : Prop where
  ordered : world.inner.Ordered
  outdated : ∀ purge ∈ world.purges, world.inner.Outdated purge.scopeId purge.plan

section Steps

variable {json : RegistryJson J} {world world' : World J} {call : Call J} {tr : Trace J}

lemma runInv_default : RunInv (World.default : World J) := ⟨ordered_default, by simp [World.default]⟩

lemma intact_default : (Inner.default : Inner J).Intact where
  entries _ _ hmem := by cases hmem
  current _ _ _ _ _ hstate := by cases hstate

lemma step_cases (json : RegistryJson J) (h : RunInv world) (call : Call J) :
    (world.inner.Adds (world.step json call).inner ∧
      ∀ purge ∈ (world.step json call).purges, purge ∈ world.purges ∨
        (world.step json call).inner.Outdated purge.scopeId purge.plan) ∨
    ∃ index purge, call = .purgeDelete index ∧ world.purges[index]? = some purge ∧
      (world.step json call).inner = world.inner.purgeDelete purge.scopeId purge.plan ∧
      (world.step json call).purges = world.purges.eraseIdx index := by
  have hkeep : ∀ inner, world.inner.Adds inner → (world.inner.Adds inner ∧
      ∀ purge ∈ world.purges, purge ∈ world.purges ∨
        inner.Outdated purge.scopeId purge.plan) := fun _ hadds => ⟨hadds, fun _ => .inl⟩
  cases call with
  | publishResource now scopeId resource =>
    exact .inl (hkeep _ (publishResource_adds json h.ordered now scopeId resource))
  | rollbackRead scopeId kind id toVersion metadata =>
    left
    rw [World.step]
    split
    · exact hkeep _ (.refl h.ordered)
    · exact hkeep _ (.refl h.ordered)
  | rollbackWrite now index =>
    left
    rw [World.step]
    split
    · exact hkeep _ (.refl h.ordered)
    · exact hkeep _ (rollbackWrite_adds json h.ordered _ _ _ _ _ _ _)
  | archiveResource now scopeId kind id =>
    exact .inl (hkeep _ (archiveResource_adds h.ordered now scopeId kind id))
  | unarchiveResource now scopeId kind id =>
    exact .inl (hkeep _ (unarchiveResource_adds h.ordered now scopeId kind id))
  | publishResourcesAndCreatePublication now scopeId publicationId resources
      sourceConfigRevisions createdBy metadata =>
    exact .inl (hkeep _ (publishResourcesAndCreatePublication_adds json h.ordered _ _ _ _ _ _ _))
  | createPublication now scopeId publicationId entries sourceConfigRevisions createdBy metadata =>
    exact .inl (hkeep _ (createPublication_adds h.ordered _ _ _ _ _ _ _))
  | purgePlan scopeId nowMs policy dryRun =>
    left
    simp only [World.step]
    split
    · exact hkeep _ (.refl h.ordered)
    · refine ⟨.refl h.ordered, fun purge hmem => ?_⟩
      rcases List.mem_append.mp hmem with hmem | hmem
      · exact .inl hmem
      · rw [List.mem_singleton.mp hmem]
        exact .inr (purgePlan_outdated h.ordered scopeId nowMs policy)
  | purgeDelete index =>
    cases hpurge : world.purges[index]? with
    | none =>
      left
      simp only [World.step, hpurge]
      exact hkeep _ (.refl h.ordered)
    | some purge =>
      right
      refine ⟨index, purge, rfl, hpurge, ?_, ?_⟩ <;> simp only [World.step, hpurge]

lemma step_spec (h : RunInv world) (hstep : Step json world call world') :
    RunInv world' ∧ VersionsGrow world.inner world'.inner := by
  subst hstep
  rcases step_cases json h call with
    ⟨hadds, hpurges⟩ | ⟨index, purge, -, hpurge, hinner, hpurges⟩
  · refine ⟨⟨hadds.ordered, fun purge hmem => ?_⟩, hadds.grow⟩
    rcases hpurges purge hmem with hmem | houtdated
    · exact (h.outdated purge hmem).mono hadds.grow
    · exact houtdated
  · have houtdated := h.outdated purge (List.mem_of_getElem? hpurge)
    obtain ⟨hordered, hgrow⟩ := purgeDelete_spec h.ordered houtdated
    rw [← hinner] at hordered hgrow
    refine ⟨⟨hordered, fun other hmem => ?_⟩, hgrow⟩
    rw [hpurges] at hmem
    exact (h.outdated other (List.mem_of_mem_eraseIdx hmem)).mono hgrow

lemma step_intact (h : RunInv world) (hintact : world.inner.Intact)
    (hstep : Step json world call world') :
    world'.inner.Intact ↔ DeletesUnpublished ⟨world, call, world'⟩ := by
  subst hstep
  rcases step_cases json h call with
    ⟨hadds, -⟩ | ⟨index, purge, rfl, hpurge, hinner, -⟩
  · refine ⟨fun hafter => ?_, fun _ => hadds.intact hintact⟩
    rintro index purge rfl hpurge
    have heq : (world.step json (.purgeDelete index)).inner =
        world.inner.purgeDelete purge.scopeId purge.plan := by
      simp only [World.step]
      rw [show world.purges[index]? = some purge from hpurge]
    rw [heq] at hafter
    exact (intact_purgeDelete h.ordered hintact
      (h.outdated purge (List.mem_of_getElem? hpurge))).mp hafter
  · rw [hinner, intact_purgeDelete h.ordered hintact
      (h.outdated purge (List.mem_of_getElem? hpurge))]
    constructor
    · intro hfree index' purge' hlabel hpurge'
      cases hlabel
      obtain rfl : purge = purge' := by
        have : some purge = some purge' := hpurge.symm.trans hpurge'
        exact Option.some.inj this
      exact hfree
    · intro hcond
      exact hcond index purge rfl hpurge

lemma run_ordered (h : Run (Step json) world tr world') (hinv : RunInv world) :
    (∀ τ ∈ tr, RunInv τ.pre ∧ RunInv τ.post) ∧
      (∀ τ ∈ tr, VersionsGrow world.inner τ.post.inner) ∧
      tr.Pairwise (fun earlier later => VersionsGrow earlier.post.inner later.post.inner) := by
  induction h with
  | nil => simp
  | @cons s s₁ s' l tr hstep _ ih =>
    obtain ⟨h₁, hgrow⟩ := step_spec hinv hstep
    obtain ⟨hall, hfrom, hpair⟩ := ih h₁
    refine ⟨?_, ?_, List.pairwise_cons.mpr ⟨hfrom, hpair⟩⟩
    · rintro τ (_ | ⟨_, hmem⟩)
      · exact ⟨hinv, h₁⟩
      · exact hall τ hmem
    · rintro τ (_ | ⟨_, hmem⟩)
      · exact hgrow
      · exact hgrow.trans (hfrom τ hmem) hinv.ordered

lemma run_intact (h : Run (Step json) world tr world') (hinv : RunInv world)
    (hintact : world.inner.Intact) :
    (∀ τ ∈ tr, τ.post.inner.Intact) ↔ ∀ τ ∈ tr, DeletesUnpublished τ := by
  induction h with
  | nil => simp
  | @cons s s₁ s' l tr hstep _ ih =>
    obtain ⟨h₁, -⟩ := step_spec hinv hstep
    have hiff := step_intact hinv hintact hstep
    rw [List.forall_mem_cons, List.forall_mem_cons, ← hiff]
    exact and_congr_right (fun hfirst => ih h₁ hfirst)

end Steps

/-- A run of the registry keeps what is published exactly when every deletion of a purge meets
its plan with nothing of it published in the meantime. -/
theorem keepsPublished_iff (json : RegistryJson J) (tr : Trace J) (world : World J)
    (h : Run (Step json) World.default tr world) :
    KeepsPublished tr ↔ ∀ τ ∈ tr, DeletesUnpublished τ := by
  obtain ⟨hall, -, hpair⟩ := run_ordered h runInv_default
  rw [← run_intact h runInv_default intact_default]
  exact ⟨fun hkeeps => hkeeps.intact,
    fun hintact => ⟨hintact, fun τ hτ => (hall τ hτ).2.ordered, hpair⟩⟩

section Examples

def numberJson : RegistryJson Nat where
  registryContentHash _ value := .ok (toString value, [])
  buildRollbackMetadata metadata _ := .ok metadata
  rollbackSource _ _ record := record.metadata

def agentValue (value : Nat) : RegistryResourcePublish Nat := ⟨"agent", "a", value, 1, 0⟩

def firstVersion : VersionRef := ⟨"agent", "a", 1⟩

def racedCalls : List (Call Nat) :=
  [.publishResource 0 "default" (agentValue 7), .publishResource 1 "default" (agentValue 8),
    .purgePlan "default" 2 ⟨none, none, []⟩ false,
    .createPublication 3 "default" "release" [firstVersion] [] none 0, .purgeDelete 0]

def publishedTwice : World Nat := (racedCalls.take 2).foldl (World.step numberJson) .default

example : publishedTwice.inner.records (key "default" "agent" "a") =
  [⟨"agent", "a", 1, "7", 1, 7, [], 0, 0⟩, ⟨"agent", "a", 2, "8", 1, 8, [], 1, 0⟩] := rfl

lemma purgePlan_publishedTwice :
    publishedTwice.inner.purgePlan "default" 2 ⟨none, none, []⟩ = [firstVersion] := by
  have hsort : ([⟨"agent", "a", 1, "7", 1, 7, [], 0, 0⟩, ⟨"agent", "a", 2, "8", 1, 8, [], 1, 0⟩] :
      List (VersionedRecord Nat)).mergeSort (fun a b => b.version ≤ a.version) =
      [⟨"agent", "a", 2, "8", 1, 8, [], 1, 0⟩, ⟨"agent", "a", 1, "7", 1, 7, [], 0, 0⟩] := by
    simp [List.mergeSort, List.MergeSort.Internal.splitInTwo]
  have hentries : publishedTwice.inner.versions.entries =
      [(("default", "agent", "a"), [⟨"agent", "a", 1, "7", 1, 7, [], 0, 0⟩,
        ⟨"agent", "a", 2, "8", 1, 8, [], 1, 0⟩])] := rfl
  have hcurrent : (publishedTwice.inner.resources.get ("default", "agent", "a")).bind
      (·.currentVersion) = some 2 := rfl
  have hpublications : (publishedTwice.inner.scopePublications "default").values = [] := rfl
  simp only [purgePlan, hentries, hpublications]
  simp [hsort, hcurrent, eligible, firstVersion]

lemma createPublication_publishedTwice :
    (publishedTwice.inner.createPublication 3 "default" "release" [firstVersion] [] none 0).2 =
      { publishedTwice.inner with
        publications := Table.empty.insert "default" (Table.empty.insert 1
          ⟨"release", "default", 1, [firstVersion], [], none, 3, 0⟩) } := by
  have hsort : sortPublicationEntries [firstVersion] = [firstVersion] := List.mergeSort_singleton _
  have hadd : (publishedTwice.inner.createPublication 3 "default" "release" [firstVersion] [] none
      0).2 = (publishedTwice.inner.addPublication 3 "default" "release" [firstVersion] [] none
        0).2 := rfl
  rw [hadd]
  simp only [addPublication, hsort]
  rfl

theorem published_version_deleted :
    ¬ ∀ (json : RegistryJson Nat) (tr : Trace Nat) (world : World Nat),
      Run (Step json) World.default tr world → KeepsPublished tr := by
  intro hall
  have hrun := run_trace (World.step numberJson) World.default racedCalls
  have hkeeps := hall numberJson _ _ hrun
  let planned : World Nat :=
    ⟨publishedTwice.inner, [], [⟨"default", [firstVersion]⟩]⟩
  have hplan : World.step numberJson publishedTwice
      (.purgePlan "default" 2 ⟨none, none, []⟩ false) = planned := by
    simp only [World.step, purgePlan_publishedTwice]
    rfl
  have hintact : (racedCalls.foldl (World.step numberJson) World.default).inner.Intact :=
    hkeeps.intact ⟨_, .purgeDelete 0, _⟩ (List.mem_cons_of_mem _ (List.mem_cons_of_mem _
      (List.mem_cons_of_mem _ (List.mem_cons_of_mem _ List.mem_cons_self))))
  let published : World Nat := { planned with
    inner := (planned.inner.createPublication 3 "default" "release" [firstVersion] [] none 0).2 }
  have hfinal : racedCalls.foldl (World.step numberJson) World.default =
      World.step numberJson published (.purgeDelete 0) :=
    congrArg (fun world => World.step numberJson (World.step numberJson world
      (.createPublication 3 "default" "release" [firstVersion] [] none 0)) (.purgeDelete 0)) hplan
  rw [hfinal] at hintact
  have hinner : (World.step numberJson published (.purgeDelete 0)).inner =
      published.inner.purgeDelete "default" [firstVersion] := rfl
  rw [hinner] at hintact
  have hstored := hintact.entries "default"
    ⟨"release", "default", 1, [firstVersion], [], none, 3, 0⟩ ?_ firstVersion
    List.mem_cons_self
  · exact (stored_purgeDelete.mp hstored).2 ⟨rfl, List.mem_cons_self⟩
  · change _ ∈ (published.inner.scopePublications "default").values
    simp only [published, planned, createPublication_publishedTwice]
    exact List.mem_cons_self

def secondVersion : VersionRef := ⟨"agent", "a", 2⟩

def emptyPolicy : RegistryRetentionPolicy := ⟨none, none, []⟩

def sparedCalls : List (Call Nat) :=
  [.publishResource 0 "default" (agentValue 7), .publishResource 1 "default" (agentValue 8),
    .publishResource 2 "default" (agentValue 9),
    .createPublication 3 "default" "release" [secondVersion] [] none 0,
    .purgePlan "default" 4 emptyPolicy false, .purgeDelete 0]

def publishedThrice : World Nat := (sparedCalls.take 3).foldl (World.step numberJson) .default

def sparedInner : Inner Nat :=
  { publishedThrice.inner with
    publications := Table.empty.insert "default" (Table.empty.insert 1
      ⟨"release", "default", 1, [secondVersion], [], none, 3, 0⟩) }

lemma createPublication_publishedThrice :
    (publishedThrice.inner.createPublication 3 "default" "release" [secondVersion] [] none 0).2 =
      sparedInner := by
  have hsort : sortPublicationEntries [secondVersion] = [secondVersion] :=
    List.mergeSort_singleton _
  have hadd : (publishedThrice.inner.createPublication 3 "default" "release" [secondVersion] [] none
      0).2 = (publishedThrice.inner.addPublication 3 "default" "release" [secondVersion] [] none
        0).2 := rfl
  rw [hadd]
  simp only [addPublication, hsort]
  rfl

lemma purgePlan_spared : sparedInner.purgePlan "default" 4 emptyPolicy = [firstVersion] := by
  have hsort : ([⟨"agent", "a", 1, "7", 1, 7, [], 0, 0⟩, ⟨"agent", "a", 2, "8", 1, 8, [], 1, 0⟩,
      ⟨"agent", "a", 3, "9", 1, 9, [], 2, 0⟩] :
        List (VersionedRecord Nat)).mergeSort (fun a b => b.version ≤ a.version) =
      [⟨"agent", "a", 3, "9", 1, 9, [], 2, 0⟩, ⟨"agent", "a", 2, "8", 1, 8, [], 1, 0⟩,
        ⟨"agent", "a", 1, "7", 1, 7, [], 0, 0⟩] := by
    simp [List.mergeSort, List.MergeSort.Internal.splitInTwo]
  have hentries : sparedInner.versions.entries =
      [(("default", "agent", "a"), [⟨"agent", "a", 1, "7", 1, 7, [], 0, 0⟩,
        ⟨"agent", "a", 2, "8", 1, 8, [], 1, 0⟩, ⟨"agent", "a", 3, "9", 1, 9, [], 2, 0⟩])] := rfl
  have hcurrent : (sparedInner.resources.get ("default", "agent", "a")).bind
      (·.currentVersion) = some 3 := rfl
  have hpublications : (sparedInner.scopePublications "default").values =
      [⟨"release", "default", 1, [secondVersion], [], none, 3, 0⟩] := rfl
  simp only [purgePlan, hentries, hpublications]
  simp [hsort, hcurrent, eligible, firstVersion, secondVersion, emptyPolicy]

lemma planned_spared : (sparedCalls.take 5).foldl (World.step numberJson) .default =
    ⟨sparedInner, [], [⟨"default", [firstVersion]⟩]⟩ := by
  have hcreate : World.step numberJson publishedThrice
      (.createPublication 3 "default" "release" [secondVersion] [] none 0) =
        ⟨sparedInner, [], []⟩ :=
    congrArg (fun inner => (⟨inner, [], []⟩ : World Nat)) createPublication_publishedThrice
  have hplan : World.step numberJson ⟨sparedInner, [], []⟩ (.purgePlan "default" 4 emptyPolicy false) =
      ⟨sparedInner, [], [⟨"default", [firstVersion]⟩]⟩ := by
    simp only [World.step, purgePlan_spared]
    rfl
  exact (congrArg (fun world => World.step numberJson world
    (.purgePlan "default" 4 emptyPolicy false)) hcreate).trans hplan

theorem keepsPublished_spared :
    KeepsPublished (trace (World.step numberJson) World.default sparedCalls) ∧
      (sparedCalls.foldl (World.step numberJson) World.default).inner.records
        (key "default" "agent" "a") =
          [⟨"agent", "a", 2, "8", 1, 8, [], 1, 0⟩, ⟨"agent", "a", 3, "9", 1, 9, [], 2, 0⟩] := by
  have hrun := run_trace (World.step numberJson) World.default sparedCalls
  refine ⟨(keepsPublished_iff numberJson _ _ hrun).mpr ?_, ?_⟩
  · rintro τ (_ | ⟨_, _ | ⟨_, _ | ⟨_, _ | ⟨_, _ | ⟨_, _ | ⟨_, hτ⟩⟩⟩⟩⟩⟩) index purge hlabel hpurge
    · cases hlabel
    · cases hlabel
    · cases hlabel
    · cases hlabel
    · cases hlabel
    · cases hlabel
      intro publication hmem version hversion hplanned
      change ((sparedCalls.take 5).foldl (World.step numberJson) .default).purges[0]? = _ at hpurge
      rw [planned_spared] at hpurge
      obtain rfl := Option.some.inj hpurge
      change _ ∈ (((sparedCalls.take 5).foldl (World.step numberJson)
        .default).inner.scopePublications "default").values at hmem
      rw [planned_spared] at hmem
      obtain rfl := List.mem_singleton.mp hmem
      obtain rfl := List.mem_singleton.mp hversion
      exact absurd hplanned (by decide)
    · cases hτ
  · change (World.step numberJson ((sparedCalls.take 5).foldl (World.step numberJson) .default)
      (.purgeDelete 0)).inner.records _ = _
    rw [planned_spared]
    rfl

end Examples

end Awaken.Stores.MemoryVersionedRegistry
