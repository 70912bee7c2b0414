import Awaken.Stores.MemoryVersionedRegistry.Versions
import Awaken.Lib.Run

namespace Awaken.Stores.MemoryVersionedRegistry

open Awaken.Lib Awaken.Contract.VersionedRegistry

variable {J : Type}

namespace Inner

variable {self self' self'' : Inner J}

structure Intact (inner : Inner J) : Prop where
  entries : ∀ scopeId, ∀ publication ∈ (inner.scopePublications scopeId).values,
    ∀ entry ∈ publication.entries, inner.Stored scopeId entry
  current : ∀ scopeId kind id state version, inner.resources.get (key scopeId kind id) = some state →
    state.currentVersion = some version → inner.Stored scopeId ⟨kind, id, version⟩

lemma Ordered.current_stored (h : Ordered self) {scopeId kind id : String}
    {state : VersionedResourceState J} {version : Nat}
    (hstate : self.resources.get (key scopeId kind id) = some state)
    (hversion : state.currentVersion = some version) :
    self.Stored scopeId ⟨kind, id, version⟩ := by
  have hlast := h.current (key scopeId kind id)
  rw [hstate, Option.bind_some, hversion] at hlast
  obtain ⟨record, hrecord, heq⟩ := Option.map_eq_some_iff.mp hlast.symm
  exact stored_iff.mpr ⟨record, List.mem_of_getLast? hrecord, heq⟩

structure Adds (before after : Inner J) : Prop where
  ordered : Ordered after
  grow : VersionsGrow before after
  kept : Extends before after
  published : ∀ scopeId, ∀ publication ∈ (after.scopePublications scopeId).values,
    publication ∈ (before.scopePublications scopeId).values ∨
      ∀ entry ∈ publication.entries, after.Stored scopeId entry

lemma Adds.refl (h : Ordered self) : Adds self self where
  ordered := h
  grow := .refl self
  kept _ := List.prefix_refl _
  published _ _ hmem := .inl hmem

lemma Adds.intact (h : Adds self self') (hintact : Intact self) : Intact self' where
  entries scopeId publication hmem entry hentry := by
    rcases h.published scopeId publication hmem with hmem | hstored
    · exact (hintact.entries scopeId publication hmem entry hentry).mono h.kept
    · exact hstored entry hentry
  current _ _ _ _ _ := h.ordered.current_stored

lemma adds_of_publications (hordered : Ordered self') (hgrow : VersionsGrow self self')
    (hkept : Extends self self') (hpub : self'.publications = self.publications) :
    Adds self self' where
  ordered := hordered
  grow := hgrow
  kept := hkept
  published scopeId publication hmem := by
    left
    rw [scopePublications, hpub] at hmem
    exact hmem

variable (json : RegistryJson J)

lemma publishResource_adds (h : Ordered self) (now : Nat) (scopeId : String)
    (resource : RegistryResourcePublish J) :
    Adds self (publishResource json self now scopeId resource).2 := by
  unfold publishResource
  split
  · exact .refl h
  · next contentHash canonicalJsonBytes _ =>
    split
    · exact .refl h
    · obtain ⟨outcome, self', heq, hordered, hgrow, hkept, hpub, -⟩ :=
        publishPrepared_spec h now scopeId resource contentHash canonicalJsonBytes
      rw [heq]
      exact adds_of_publications hordered hgrow hkept hpub

lemma rollbackWrite_adds (h : Ordered self) (now : Nat) (scopeId kind id : String)
    (toVersion : Nat) (metadata : J) (prior : VersionedRecord J) :
    Adds self (rollbackWrite json self now scopeId kind id toVersion metadata prior).2 := by
  unfold rollbackWrite
  split
  · exact .refl h
  · split
    · exact .refl h
    · split
      · exact .refl h
      · obtain ⟨hordered, hgrow⟩ := addVersion_spec now scopeId _ _ _ h
        exact adds_of_publications hordered hgrow (extends_addVersion _ _ _ _ _) rfl

lemma setState_adds (h : Ordered self) {k : ResourceKey} {old state : VersionedResourceState J}
    (hold : self.resources.get k = some old) (hsame : state.currentVersion = old.currentVersion) :
    Adds self { self with resources := self.resources.insert k state } := by
  have hgrow : VersionsGrow self { self with resources := self.resources.insert k state } :=
    ⟨fun _ _ hmem => .inl hmem, fun _ last hlast => ⟨last, hlast, Nat.le_refl _⟩,
      fun _ => List.prefix_refl _⟩
  refine adds_of_publications ⟨h.versions, ?_, h.snapshots, h.named⟩ hgrow
    (fun _ => List.prefix_refl _) rfl
  intro k'
  change ((self.resources.insert k state).get k').bind _ = (self.records k').getLast?.map _
  rw [Table.get_insert, ← h.current k']
  split
  · next hk =>
    subst hk
    rw [hold]
    exact hsame
  · rfl

lemma archiveResource_adds (h : Ordered self) (now : Nat) (scopeId kind id : String) :
    Adds self (self.archiveResource now scopeId kind id).2 := by
  unfold archiveResource
  split
  · exact .refl h
  · next state hstate =>
    split
    · exact setState_adds h hstate rfl
    · exact .refl h

lemma unarchiveResource_adds (h : Ordered self) (now : Nat) (scopeId kind id : String) :
    Adds self (self.unarchiveResource now scopeId kind id).2 := by
  unfold unarchiveResource
  split
  · exact .refl h
  · next state hstate =>
    split
    · exact setState_adds h hstate rfl
    · exact .refl h

lemma addPublication_adds (h : Ordered self) (now : Nat) (scopeId publicationId : String)
    {entries : List VersionRef} (sourceConfigRevisions : List ConfigRevisionRef)
    (createdBy : Option String) (metadata : J)
    (hentries : ∀ entry ∈ entries, self.Stored scopeId entry) :
    Adds self (self.addPublication now scopeId publicationId entries sourceConfigRevisions
      createdBy metadata).2 := by
  obtain ⟨hordered, hgrow⟩ := addPublication_spec now scopeId publicationId entries
    sourceConfigRevisions createdBy metadata h
  refine ⟨hordered, hgrow, fun _ => List.prefix_refl _, ?_⟩
  intro scope publication hmem
  rw [Table.values, entries_addPublication, List.map_append, List.mem_append] at hmem
  rcases hmem with hmem | hmem
  · exact .inl hmem
  · split at hmem
    · next hscope =>
      subst hscope
      obtain rfl := List.mem_singleton.mp hmem
      exact .inr (fun entry hentry => hentries entry (List.mem_mergeSort.mp hentry))
    · cases hmem

lemma publishResourcesAndCreatePublication_adds (h : Ordered self) (now : Nat)
    (scopeId publicationId : String) (resources : List (RegistryResourcePublish J))
    (sourceConfigRevisions : List ConfigRevisionRef) (createdBy : Option String) (metadata : J) :
    Adds self (publishResourcesAndCreatePublication json self now scopeId publicationId resources
      sourceConfigRevisions createdBy metadata).2 := by
  unfold publishResourcesAndCreatePublication
  split
  · exact .refl h
  · split
    · exact .refl h
    · next prepared _ =>
      split
      · exact .refl h
      · split
        · exact .refl h
        · have hnone : ∀ entry ∈ ([] : List VersionRef), self.Stored scopeId entry := by simp
          obtain ⟨entries, self₁, heq, hordered, hgrow, hkept, hpub, hstored⟩ :=
            publishAll_spec h now scopeId prepared hnone
          have hadds := addPublication_adds hordered now scopeId publicationId
            sourceConfigRevisions createdBy metadata hstored
          rw [heq]
          refine ⟨hadds.ordered, hgrow.trans hadds.grow h, fun k => (hkept k).trans (hadds.kept k),
            ?_⟩
          intro scope publication hmem
          have := hadds.published scope publication hmem
          rwa [scopePublications, hpub] at this

lemma createPublication_adds (h : Ordered self) (now : Nat) (scopeId publicationId : String)
    (entries : List VersionRef) (sourceConfigRevisions : List ConfigRevisionRef)
    (createdBy : Option String) (metadata : J) :
    Adds self (self.createPublication now scopeId publicationId entries sourceConfigRevisions
      createdBy metadata).2 := by
  unfold createPublication
  split
  · exact .refl h
  · split
    · exact .refl h
    · split
      · exact .refl h
      · next hvalid =>
        refine addPublication_adds h now scopeId publicationId sourceConfigRevisions createdBy
          metadata ?_
        intro entry hentry
        have hentry := forM_eq_ok hvalid entry hentry
        unfold validatePublicationEntry at hentry
        split at hentry
        · cases hentry
        · split at hentry
          · cases hentry
          · split at hentry
            · next hstored => exact hstored
            · cases hentry

section Purge

lemma mem_eligible {policy : RegistryRetentionPolicy} {nowMs : Nat}
    {isProtected : VersionRef → Bool} {kind id : String} {currentVersion : Option Nat} {kept : Nat}
    {records : List (VersionedRecord J)} {version : VersionRef}
    (h : version ∈ eligible policy nowMs isProtected kind id currentVersion kept records) :
    version.kind = kind ∧ version.id = id ∧ some version.version ≠ currentVersion ∧
      ∃ record ∈ records, record.version = version.version := by
  induction records generalizing kept with
  | nil => cases h
  | cons record records ih =>
    have hskip : ∀ kept, version ∈ eligible policy nowMs isProtected kind id currentVersion kept
        records → version.kind = kind ∧ version.id = id ∧ some version.version ≠ currentVersion ∧
          ∃ record' ∈ record :: records, record'.version = version.version := by
      intro kept hmem
      obtain ⟨hkind, hid, hcurrent, record', hmem', hversion⟩ := ih hmem
      exact ⟨hkind, hid, hcurrent, record', List.mem_cons_of_mem _ hmem', hversion⟩
    rw [eligible] at h
    split at h
    · exact hskip _ h
    · next hgo =>
      split at h
      · exact hskip _ h
      · rcases List.mem_cons.mp h with rfl | h
        · refine ⟨rfl, rfl, ?_, record, List.mem_cons_self, rfl⟩
          intro hcurrent
          simp [hcurrent] at hgo
        · exact hskip _ h

def Outdated (self : Inner J) (scopeId : String) (plan : List VersionRef) : Prop :=
  ∀ version ∈ plan, ∃ last, (self.records (key scopeId version.kind version.id)).getLast? =
    some last ∧ version.version < last.version

lemma Outdated.mono {scopeId : String} {plan : List VersionRef} (h : self.Outdated scopeId plan)
    (hgrow : VersionsGrow self self') : self'.Outdated scopeId plan := by
  intro version hversion
  obtain ⟨last, hlast, hlt⟩ := h version hversion
  obtain ⟨last', hlast', hle⟩ := hgrow.last _ last hlast
  exact ⟨last', hlast', Nat.lt_of_lt_of_le hlt hle⟩

lemma purgePlan_outdated (h : Ordered self) (scopeId : String) (nowMs : Nat)
    (policy : RegistryRetentionPolicy) :
    self.Outdated scopeId (self.purgePlan scopeId nowMs policy) := by
  intro version hversion
  unfold purgePlan at hversion
  obtain ⟨⟨⟨scope, kind, id⟩, records⟩, he, helig⟩ :=
    List.mem_flatMap.mp (List.mem_mergeSort.mp hversion)
  obtain ⟨hmem, hscope⟩ := List.mem_filter.mp he
  obtain rfl : scope = scopeId := by simpa using hscope
  obtain ⟨rfl, rfl, hcurrent, record, hrecord, heq⟩ := mem_eligible helig
  rw [List.mem_mergeSort] at hrecord
  have hrecords : self.records (key scope version.kind version.id) = records := by
    rw [Inner.records, key, Table.get_eq_some.mpr hmem]
    rfl
  have hne : records ≠ [] := List.ne_nil_of_mem hrecord
  obtain ⟨last, hlast⟩ := Option.ne_none_iff_exists'.mp
    (fun hnone => hne (List.getLast?_eq_none_iff.mp hnone))
  rw [← hrecords] at hrecord hlast
  refine ⟨last, hlast, ?_⟩
  have hle := h.le_last hrecord hlast
  have hcur := h.current (key scope version.kind version.id)
  rw [hlast] at hcur
  rw [key] at hcur
  rw [hcur] at hcurrent
  have : version.version ≠ last.version := fun heq' => hcurrent (congrArg some heq')
  omega

lemma records_purgeDelete (scopeId : String) (plan : List VersionRef) (k : ResourceKey) :
    (self.purgeDelete scopeId plan).records k = (self.records k).filter (fun record =>
      ¬ (k.1 = scopeId ∧ (⟨k.2.1, k.2.2, record.version⟩ : VersionRef) ∈ plan)) := by
  obtain ⟨scope, kind, id⟩ := k
  unfold purgeDelete Inner.records
  simp only
  induction plan generalizing self with
  | nil => simp
  | cons version plan ih =>
    rw [List.foldl_cons]
    let versions := self.versions.modify (key scopeId version.kind version.id)
      (fun records => records.filter (·.version ≠ version.version))
    refine (@ih { self with versions }).trans ?_
    simp only [versions]
    rw [Table.get_modify]
    split
    · next hk =>
      obtain ⟨rfl, rfl, rfl⟩ : scope = scopeId ∧ kind = version.kind ∧ id = version.id := by
        simpa [key] using hk
      cases self.versions.get (scope, version.kind, version.id) with
      | none => rfl
      | some records =>
        rw [Option.map_some, Option.getD_some, Option.getD_some, List.filter_filter]
        refine List.filter_congr (fun record _ => ?_)
        obtain ⟨kind, id, number⟩ := version
        simp only [List.mem_cons, VersionRef.mk.injEq, true_and]
        by_cases heq : record.version = number <;> simp [heq]
    · next hk =>
      refine List.filter_congr (fun record _ => ?_)
      have hne : scope = scopeId → (⟨kind, id, record.version⟩ : VersionRef) ≠ version := by
        rintro rfl rfl
        exact hk rfl
      by_cases hscope : scope = scopeId
      · simp [hscope, hne hscope]
      · simp [hscope]

lemma getLast?_purgeDelete {scopeId : String} {plan : List VersionRef}
    (h : self.Outdated scopeId plan) (k : ResourceKey) :
    ((self.purgeDelete scopeId plan).records k).getLast? = (self.records k).getLast? := by
  rw [records_purgeDelete]
  cases hlast : (self.records k).getLast? with
  | none => simp [List.getLast?_eq_none_iff.mp hlast]
  | some last =>
    have hkept : ¬ (k.1 = scopeId ∧ (⟨k.2.1, k.2.2, last.version⟩ : VersionRef) ∈ plan) := by
      rintro ⟨rfl, hmem⟩
      obtain ⟨last', hlast', hlt⟩ := h _ hmem
      rw [key, hlast] at hlast'
      cases hlast'
      exact Nat.lt_irrefl _ hlt
    obtain ⟨before, hsplit⟩ := List.getLast?_eq_some_iff.mp hlast
    rw [hsplit, List.filter_append, List.filter_singleton]
    simp [hkept]

lemma purgeDelete_spec (h : Ordered self) {scopeId : String} {plan : List VersionRef}
    (hplan : self.Outdated scopeId plan) :
    Ordered (self.purgeDelete scopeId plan) ∧ VersionsGrow self (self.purgeDelete scopeId plan) := by
  refine ⟨⟨?_, ?_, h.snapshots, ?_⟩, ⟨?_, ?_, fun _ => List.prefix_refl _⟩⟩
  · intro k
    rw [records_purgeDelete]
    exact (h.versions k).sublist (List.filter_sublist.map _)
  · intro k
    rw [getLast?_purgeDelete hplan]
    exact h.current k
  · intro scope kind id record hrecord
    rw [records_purgeDelete] at hrecord
    exact h.named scope kind id record (List.mem_filter.mp hrecord).1
  · intro k record hrecord
    rw [records_purgeDelete] at hrecord
    exact .inl (List.mem_filter.mp hrecord).1
  · intro k old hold
    exact ⟨old, (getLast?_purgeDelete hplan k).trans hold, Nat.le_refl _⟩

lemma stored_purgeDelete {scopeId scope : String} {plan : List VersionRef} {version : VersionRef} :
    (self.purgeDelete scopeId plan).Stored scope version ↔
      self.Stored scope version ∧ ¬ (scope = scopeId ∧ version ∈ plan) := by
  rw [stored_iff, stored_iff, records_purgeDelete]
  obtain ⟨kind, id, number⟩ := version
  constructor
  · rintro ⟨record, hrecord, rfl⟩
    obtain ⟨hmem, hkept⟩ := List.mem_filter.mp hrecord
    exact ⟨⟨record, hmem, rfl⟩, of_decide_eq_true hkept⟩
  · rintro ⟨⟨record, hmem, rfl⟩, hkept⟩
    exact ⟨record, List.mem_filter.mpr ⟨hmem, decide_eq_true hkept⟩, rfl⟩

def Unpublished (self : Inner J) (scopeId : String) (plan : List VersionRef) : Prop :=
  ∀ publication ∈ (self.scopePublications scopeId).values, ∀ entry ∈ publication.entries,
    entry ∉ plan

lemma intact_purgeDelete (h : Ordered self) (hintact : Intact self) {scopeId : String}
    {plan : List VersionRef} (hplan : self.Outdated scopeId plan) :
    Intact (self.purgeDelete scopeId plan) ↔ self.Unpublished scopeId plan := by
  constructor
  · intro hafter publication hpub entry hentry hmem
    have := hafter.entries scopeId publication hpub entry hentry
    exact (stored_purgeDelete.mp this).2 ⟨rfl, hmem⟩
  · intro hfree
    refine ⟨?_, fun _ _ _ _ _ => (purgeDelete_spec h hplan).1.current_stored⟩
    intro scope publication hpub entry hentry
    refine (stored_purgeDelete).mpr ⟨hintact.entries scope publication hpub entry hentry, ?_⟩
    rintro ⟨rfl, hmem⟩
    exact hfree publication hpub entry hentry hmem

end Purge

end Inner

end Awaken.Stores.MemoryVersionedRegistry
