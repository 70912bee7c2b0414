import Awaken.Stores.MemoryVersionedRegistry

namespace Awaken.Stores.MemoryVersionedRegistry

open Awaken.Lib Awaken.Contract.VersionedRegistry

variable {J : Type}

namespace Inner

structure Ordered (inner : Inner J) : Prop where
  versions : ∀ k, ((inner.records k).map (·.version)).Pairwise (· < ·)
  current : ∀ k, (inner.resources.get k).bind (·.currentVersion) =
    (inner.records k).getLast?.map (·.version)
  snapshots : ∀ scopeId, (inner.scopePublications scopeId).keys.Pairwise (· < ·)
  named : ∀ scopeId kind id, ∀ record ∈ inner.records (key scopeId kind id),
    record.kind = kind ∧ record.id = id

structure VersionsGrow (before after : Inner J) : Prop where
  records : ∀ k, ∀ record ∈ after.records k, record ∈ before.records k ∨
    ∀ old ∈ before.records k, old.version < record.version
  last : ∀ k old, (before.records k).getLast? = some old →
    ∃ record, (after.records k).getLast? = some record ∧ old.version ≤ record.version
  publications : ∀ scopeId, (before.scopePublications scopeId).entries <+:
    (after.scopePublications scopeId).entries

variable {self self' self'' : Inner J}

lemma ordered_default : Ordered (default : Inner J) where
  versions := by simp [default, Inner.records]
  current := by simp [default, Inner.records]
  snapshots _ := List.Pairwise.nil
  named := by simp [default, Inner.records]

lemma VersionsGrow.refl (self : Inner J) : VersionsGrow self self where
  records _ _ h := .inl h
  last _ old h := ⟨old, h, Nat.le_refl _⟩
  publications _ := List.prefix_refl _

lemma Ordered.le_last (h : Ordered self) {k : ResourceKey} {record last : VersionedRecord J}
    (hmem : record ∈ self.records k) (hlast : (self.records k).getLast? = some last) :
    record.version ≤ last.version := by
  obtain ⟨before, hsplit⟩ := List.getLast?_eq_some_iff.mp hlast
  have hpair := h.versions k
  rw [hsplit, List.map_append, List.pairwise_append] at hpair
  rw [hsplit] at hmem
  rcases List.mem_append.mp hmem with hmem | hmem
  · exact Nat.le_of_lt
      (hpair.2.2 _ (List.mem_map_of_mem hmem) last.version (by simp))
  · rw [List.mem_singleton.mp hmem]

lemma VersionsGrow.trans (h : VersionsGrow self self') (h' : VersionsGrow self' self'')
    (hmid : Ordered self) : VersionsGrow self self'' where
  records k record hrecord := by
    rcases h'.records k record hrecord with hmem | hgreater
    · exact h.records k record hmem
    · right
      intro old hold
      have hne : self.records k ≠ [] := List.ne_nil_of_mem hold
      obtain ⟨last, hlast⟩ := Option.ne_none_iff_exists'.mp
        (fun hnone => hne (List.getLast?_eq_none_iff.mp hnone))
      obtain ⟨last', hlast', hle⟩ := h.last k last hlast
      have := hgreater last' (List.mem_of_getLast? hlast')
      have := hmid.le_last hold hlast
      omega
  last k old hold := by
    obtain ⟨record, hrecord, hle⟩ := h.last k old hold
    obtain ⟨record', hrecord', hle'⟩ := h'.last k record hrecord
    exact ⟨record', hrecord', Nat.le_trans hle hle'⟩
  publications scopeId := (h.publications scopeId).trans (h'.publications scopeId)

section AddVersion

variable (now : Nat) (scopeId : String) (resource : RegistryResourcePublish J)
  (contentHash : String) (canonicalJsonBytes : List UInt8)

lemma records_addVersion (k : ResourceKey) :
    (self.addVersion now scopeId resource contentHash canonicalJsonBytes).2.records k =
      if k = key scopeId resource.kind resource.id then
        self.records k ++
          [(self.addVersion now scopeId resource contentHash canonicalJsonBytes).1]
      else self.records k := by
  unfold Inner.records
  simp only [addVersion, upsertResourceState, Table.get_insert]
  split
  · next h =>
    subst h
    rfl
  · rfl

lemma currentVersion_addVersion (k : ResourceKey) :
    ((self.addVersion now scopeId resource contentHash canonicalJsonBytes).2.resources.get k).bind
        (·.currentVersion) =
      if k = key scopeId resource.kind resource.id then
        some (self.addVersion now scopeId resource contentHash canonicalJsonBytes).1.version
      else (self.resources.get k).bind (·.currentVersion) := by
  simp only [addVersion, upsertResourceState, Table.get_insert]
  split
  · split <;> rfl
  · rfl

lemma lt_nextVersion (h : Ordered self) {k : ResourceKey} {record : VersionedRecord J}
    (hmem : record ∈ self.records k) : record.version < self.nextVersion k := by
  unfold nextVersion
  cases hlast : (self.records k).getLast? with
  | none =>
    rw [List.getLast?_eq_none_iff.mp hlast] at hmem
    cases hmem
  | some last => exact Nat.lt_succ_of_le (h.le_last hmem hlast)

lemma addVersion_spec (h : Ordered self) :
    Ordered (self.addVersion now scopeId resource contentHash canonicalJsonBytes).2 ∧
      VersionsGrow self
        (self.addVersion now scopeId resource contentHash canonicalJsonBytes).2 := by
  refine ⟨⟨?_, ?_, h.snapshots, ?_⟩, ⟨?_, ?_, fun _ => List.prefix_refl _⟩⟩
  · intro k
    rw [records_addVersion]
    split
    · next hk =>
      subst hk
      rw [List.map_append, List.pairwise_append]
      refine ⟨h.versions _, by simp, ?_⟩
      intro old hold new hnew
      obtain ⟨record, hrecord, rfl⟩ := List.mem_map.mp hold
      obtain rfl := List.mem_singleton.mp hnew
      exact lt_nextVersion h hrecord
    · exact h.versions k
  · intro k
    rw [records_addVersion, currentVersion_addVersion]
    split
    · rw [List.getLast?_concat]
      rfl
    · exact h.current k
  · intro scope kind id record hrecord
    rw [records_addVersion] at hrecord
    split at hrecord
    · next hk =>
      obtain ⟨rfl, rfl, rfl⟩ : scope = scopeId ∧ kind = resource.kind ∧ id = resource.id := by
        simpa [key] using hk
      rcases List.mem_append.mp hrecord with hrecord | hrecord
      · exact h.named _ _ _ record hrecord
      · rw [List.mem_singleton.mp hrecord]
        exact ⟨rfl, rfl⟩
    · exact h.named scope kind id record hrecord
  · intro k record hrecord
    rw [records_addVersion] at hrecord
    split at hrecord
    · next hk =>
      subst hk
      rcases List.mem_append.mp hrecord with hrecord | hrecord
      · exact .inl hrecord
      · obtain rfl := List.mem_singleton.mp hrecord
        exact .inr (fun old hold => lt_nextVersion h hold)
    · exact .inl hrecord
  · intro k old hold
    rw [records_addVersion]
    split
    · next hk =>
      subst hk
      exact ⟨_, List.getLast?_concat, Nat.le_of_lt (lt_nextVersion h (List.mem_of_getLast? hold))⟩
    · exact ⟨old, hold, Nat.le_refl _⟩

end AddVersion

def Extends (before after : Inner J) : Prop := ∀ k, before.records k <+: after.records k

lemma extends_addVersion (now : Nat) (scopeId : String) (resource : RegistryResourcePublish J)
    (contentHash : String) (canonicalJsonBytes : List UInt8) :
    Extends self (self.addVersion now scopeId resource contentHash canonicalJsonBytes).2 := by
  intro k
  rw [records_addVersion]
  split
  · exact List.prefix_append _ _
  · exact List.prefix_refl _

def Stored (self : Inner J) (scopeId : String) (version : VersionRef) : Prop :=
  (self.get scopeId version.kind version.id version.version).isSome = true

lemma stored_iff {scopeId : String} {version : VersionRef} : self.Stored scopeId version ↔
    ∃ record ∈ self.records (key scopeId version.kind version.id),
      record.version = version.version := by
  rw [Stored, Inner.get, List.find?_isSome]
  simp

lemma Stored.mono {scopeId : String} {version : VersionRef} (h : self.Stored scopeId version)
    (hext : Extends self self') : self'.Stored scopeId version := by
  rw [stored_iff] at h ⊢
  obtain ⟨record, hmem, hversion⟩ := h
  exact ⟨record, (hext _).subset hmem, hversion⟩

lemma lt_nextSnapshot {scopeId : String} {snapshotVersion : Nat}
    (hmem : snapshotVersion ∈ (self.scopePublications scopeId).keys) :
    snapshotVersion < self.nextSnapshot scopeId := by
  obtain ⟨e, he, rfl⟩ := List.mem_map.mp hmem
  unfold nextSnapshot
  cases hmax : (self.scopePublications scopeId).entries.argmax Prod.fst with
  | none =>
    rw [List.argmax_eq_none.mp hmax] at he
    cases he
  | some last => exact Nat.lt_succ_of_le (List.le_of_mem_argmax he hmax)

section AddPublication

variable (now : Nat) (scopeId publicationId : String) (entries : List VersionRef)
  (sourceConfigRevisions : List ConfigRevisionRef) (createdBy : Option String) (metadata : J)

lemma entries_addPublication (scope : String) :
    ((self.addPublication now scopeId publicationId entries sourceConfigRevisions createdBy
      metadata).2.scopePublications scope).entries =
      (self.scopePublications scope).entries ++
        if scope = scopeId then
          [(self.nextSnapshot scopeId, (self.addPublication now scopeId publicationId entries
            sourceConfigRevisions createdBy metadata).1)]
        else [] := by
  have hfresh : self.nextSnapshot scopeId ∉ (self.scopePublications scopeId).keys :=
    fun hmem => Nat.lt_irrefl _ (lt_nextSnapshot hmem)
  unfold scopePublications
  simp only [addPublication, Table.get_insert]
  split
  · next h =>
    subst h
    rw [Option.getD_some, Table.insert, dif_neg hfresh]
    rfl
  · rw [List.append_nil]

lemma addPublication_spec (h : Ordered self) :
    Ordered (self.addPublication now scopeId publicationId entries sourceConfigRevisions createdBy
      metadata).2 ∧
    VersionsGrow self (self.addPublication now scopeId publicationId entries
      sourceConfigRevisions createdBy metadata).2 := by
  refine ⟨⟨h.versions, h.current, ?_, h.named⟩, ⟨fun _ _ hmem => .inl hmem,
    fun _ old hold => ⟨old, hold, Nat.le_refl _⟩, ?_⟩⟩
  · intro scope
    rw [Table.keys, entries_addPublication, List.map_append, List.pairwise_append]
    refine ⟨h.snapshots scope, ?_, ?_⟩
    · split <;> simp
    · intro old hold new hnew
      split at hnew
      · next hscope =>
        subst hscope
        obtain rfl : new = self.nextSnapshot scope := by simpa using hnew
        exact lt_nextSnapshot hold
      · simp at hnew
  · intro scope
    rw [entries_addPublication]
    exact List.prefix_append _ _

end AddPublication

lemma publishPrepared_spec (h : Ordered self) (now : Nat) (scopeId : String)
    (resource : RegistryResourcePublish J) (contentHash : String)
    (canonicalJsonBytes : List UInt8) :
    ∃ outcome self', self.publishPrepared now scopeId resource contentHash canonicalJsonBytes =
        (outcome, self') ∧ Ordered self' ∧ VersionsGrow self self' ∧ Extends self self' ∧
      self'.publications = self.publications ∧
      ∀ record, outcome = .created record ∨ outcome = .noop record →
        self'.Stored scopeId ⟨record.kind, record.id, record.version⟩ := by
  unfold publishPrepared
  cases hcurrent : (self.current scopeId resource.kind resource.id).filter
      (·.contentHash = contentHash) with
  | some current =>
    refine ⟨_, _, rfl, h, .refl self, fun _ => List.prefix_refl _, rfl, ?_⟩
    have hfind : self.current scopeId resource.kind resource.id = some current :=
      (Option.filter_eq_some_iff.mp hcurrent).1
    obtain ⟨currentVersion, -, hfound⟩ := Option.bind_eq_some_iff.mp hfind
    have hmem := List.mem_of_find?_eq_some hfound
    obtain ⟨hkind, hid⟩ := h.named _ _ _ current hmem
    rintro record (hrecord | hrecord)
    · cases hrecord
    · cases hrecord
      rw [stored_iff, hkind, hid]
      exact ⟨current, hmem, rfl⟩
  | none =>
    obtain ⟨hordered, hgrow⟩ :=
      addVersion_spec now scopeId resource contentHash canonicalJsonBytes h
    have hmem : (self.addVersion now scopeId resource contentHash canonicalJsonBytes).1 ∈
        (self.addVersion now scopeId resource contentHash canonicalJsonBytes).2.records
          (key scopeId resource.kind resource.id) := by
      rw [records_addVersion, if_pos rfl]
      exact List.mem_append_right _ List.mem_cons_self
    refine ⟨_, _, rfl, hordered, hgrow, extends_addVersion _ _ _ _ _, rfl, ?_⟩
    rintro record (hrecord | hrecord)
    · cases hrecord
      exact (stored_iff).mpr ⟨_, hmem, rfl⟩
    · cases hrecord

lemma publishAll_spec (h : Ordered self) (now : Nat) (scopeId : String)
    (prepared : List (RegistryResourcePublish J × String × List UInt8))
    {entries : List VersionRef} (hentries : ∀ entry ∈ entries, self.Stored scopeId entry) :
    ∃ entries' self', publishAll now scopeId prepared entries self = (entries', self') ∧
      Ordered self' ∧ VersionsGrow self self' ∧ Extends self self' ∧
      self'.publications = self.publications ∧
      ∀ entry ∈ entries', self'.Stored scopeId entry := by
  induction prepared generalizing entries self with
  | nil => exact ⟨entries, self, rfl, h, .refl self, fun _ => List.prefix_refl _, rfl, hentries⟩
  | cons first prepared ih =>
    obtain ⟨resource, contentHash, canonicalJsonBytes⟩ := first
    obtain ⟨outcome, self₁, heq, h₁, hgrow₁, hext₁, hpub₁, hstored⟩ :=
      publishPrepared_spec h now scopeId resource contentHash canonicalJsonBytes
    obtain ⟨record, hrecord⟩ : ∃ record, outcome = .created record ∨ outcome = .noop record := by
      cases outcome with
      | created record => exact ⟨record, .inl rfl⟩
      | noop record => exact ⟨record, .inr rfl⟩
    have hentries₁ : ∀ entry ∈ entries ++ [⟨record.kind, record.id, record.version⟩],
        self₁.Stored scopeId entry := by
      intro entry hentry
      rcases List.mem_append.mp hentry with hentry | hentry
      · exact (hentries entry hentry).mono hext₁
      · rw [List.mem_singleton.mp hentry]
        exact hstored record hrecord
    obtain ⟨entries', self', heq', h', hgrow', hext', hpub', hstored'⟩ := ih h₁ hentries₁
    refine ⟨entries', self', ?_, h', hgrow₁.trans hgrow' h,
      fun k => (hext₁ k).trans (hext' k), hpub'.trans hpub₁, hstored'⟩
    rw [publishAll]
    rcases hrecord with rfl | rfl
    · simp only [heq]
      exact heq'
    · simp only [heq]
      exact heq'

end Inner

end Awaken.Stores.MemoryVersionedRegistry
