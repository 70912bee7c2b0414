import Awaken.Contract.RegistryGraph

namespace Awaken.Contract.RegistryGraph

open Awaken.Lib Awaken.Contract.VersionedRegistry Relation

variable {J : Type}

namespace StandardRegistryGraphValidator

variable {validator : StandardRegistryGraphValidator J} {context : ValidationContext}

lemma pins_unique {entry : PinnedRegistryEntry} {record record' : VersionedRecord J}
    (h : validator.Pins context entry record) (h' : validator.Pins context entry record') :
    record = record' :=
  Option.some.inj (Except.ok.inj (h.stored.symm.trans h'.stored))

lemma references_unique {entry : PinnedRegistryEntry} {value : J}
    {references references' : List Reference} (h : validator.References entry value references)
    (h' : validator.References entry value references') : references = references' := by
  have hreferring : ∀ {kind}, entry.kind = kind → entry.kind ∈ [registryKindProvider,
      registryKindSkill, registryKindTool, registryKindPluginConfig] →
      kind ∉ [registryKindAgent, registryKindModel, registryKindModelPool] := by
    rintro kind rfl hkind
    simp only [List.mem_cons, List.not_mem_nil, or_false] at hkind
    rcases hkind with hkind | hkind | hkind | hkind <;> rw [hkind] <;> decide
  cases h with
  | agent hkind hspec _ =>
    cases h' with
    | agent _ hspec' _ => rw [Except.ok.inj (hspec.symm.trans hspec')]
    | model hkind' _ _ => exact absurd (hkind.symm.trans hkind') (by decide)
    | modelPool hkind' _ _ => exact absurd (hkind.symm.trans hkind') (by decide)
    | leaf hkind' => exact absurd (by decide) (hreferring hkind hkind')
  | model hkind hspec _ =>
    cases h' with
    | agent hkind' _ _ => exact absurd (hkind.symm.trans hkind') (by decide)
    | model _ hspec' _ => rw [Except.ok.inj (hspec.symm.trans hspec')]
    | modelPool hkind' _ _ => exact absurd (hkind.symm.trans hkind') (by decide)
    | leaf hkind' => exact absurd (by decide) (hreferring hkind hkind')
  | modelPool hkind hspec _ =>
    cases h' with
    | agent hkind' _ _ => exact absurd (hkind.symm.trans hkind') (by decide)
    | model hkind' _ _ => exact absurd (hkind.symm.trans hkind') (by decide)
    | modelPool _ hspec' _ => rw [Except.ok.inj (hspec.symm.trans hspec')]
    | leaf hkind' => exact absurd (by decide) (hreferring hkind hkind')
  | leaf hkind =>
    cases h' with
    | agent hkind' _ _ => exact absurd (by decide) (hreferring hkind' hkind)
    | model hkind' _ _ => exact absurd (by decide) (hreferring hkind' hkind)
    | modelPool hkind' _ _ => exact absurd (by decide) (hreferring hkind' hkind)
    | leaf _ => rfl

lemma names_unique {kind id : String} {entry entry' : PinnedRegistryEntry}
    (h : validator.Names context kind id entry) (h' : validator.Names context kind id entry') :
    entry = entry' :=
  Except.ok.inj (((validator.resolveReferenceEntry_ok).mpr h).symm.trans
    ((validator.resolveReferenceEntry_ok).mpr h'))

lemma not_absent {kind id : String} {entry : PinnedRegistryEntry}
    (h : validator.Names context kind id entry) : ¬ validator.Absent context kind id := by
  intro habsent
  have hfound := (validator.tryReferenceEntry_ok).mpr (.inl ⟨entry, rfl, h⟩)
  have hnone := (validator.tryReferenceEntry_ok).mpr (.inr ⟨rfl, habsent⟩)
  exact Option.some_ne_none entry (Except.ok.inj (hfound.symm.trans hnone))

lemma denotes_unique {reference : Reference} {entry entry' : PinnedRegistryEntry}
    (h : validator.Denotes context reference entry)
    (h' : validator.Denotes context reference entry') : entry = entry' := by
  cases h with
  | resource h => exact names_unique h ((denotes_resource).mp h')
  | model h habsent =>
    cases h' with
    | model h' _ => exact names_unique h h'
    | pool habsent' _ => exact absurd habsent' (not_absent h)
  | pool habsent h =>
    cases h' with
    | model _ habsent' => exact absurd habsent' (not_absent h)
    | pool _ h' => exact names_unique h h'

lemma denotes_names {reference : Reference} {entry : PinnedRegistryEntry}
    (h : validator.Denotes context reference entry) :
    ∃ kind id, validator.Names context kind id entry := by
  cases h with
  | resource h => exact ⟨_, _, h⟩
  | model h _ => exact ⟨_, _, h⟩
  | pool _ h => exact ⟨_, _, h⟩

lemma exists_forall₂ {α β : Type} {R : α → β → Prop} {as : List α}
    (h : ∀ a ∈ as, ∃ b, R a b) : ∃ bs, List.Forall₂ R as bs := by
  induction as with
  | nil => exact ⟨[], .nil⟩
  | cons a as ih =>
    rw [List.forall_mem_cons] at h
    obtain ⟨b, hb⟩ := h.1
    obtain ⟨bs, hbs⟩ := ih h.2
    exact ⟨b :: bs, .cons hb hbs⟩

lemma mem_forall₂_left {α β : Type} {R : α → β → Prop} {as : List α} {bs : List β}
    (h : List.Forall₂ R as bs) {a : α} (ha : a ∈ as) : ∃ b ∈ bs, R a b := by
  induction h with
  | nil => cases ha
  | cons hab _ ih =>
    cases List.mem_cons.mp ha with
    | inl heq => exact ⟨_, List.mem_cons_self, heq ▸ hab⟩
    | inr ha =>
      obtain ⟨b, hb, hab⟩ := ih ha
      exact ⟨b, List.mem_cons_of_mem _ hb, hab⟩

lemma resolves_iff {entry : PinnedRegistryEntry} :
    validator.Resolves context entry ↔ ∃ entries, validator.expand context entry = .ok entries := by
  simp only [expand_ok]
  constructor
  · rintro ⟨record, references, hpins, hreferences, hall⟩
    obtain ⟨entries, hentries⟩ := exists_forall₂ hall
    exact ⟨entries, record, references, hpins, hreferences, hentries⟩
  · rintro ⟨entries, record, references, hpins, hreferences, hentries⟩
    refine ⟨record, references, hpins, hreferences, fun reference hreference => ?_⟩
    obtain ⟨target, _, htarget⟩ := mem_forall₂_left hentries hreference
    exact ⟨target, htarget⟩

lemma refers_of_expands {entry target : PinnedRegistryEntry}
    (h : (validator.graph context).Expands entry target) :
    validator.Refers context entry target := by
  obtain ⟨entries, hentries, htarget⟩ := h
  obtain ⟨record, references, hpins, hreferences, hall⟩ := (expand_ok).mp hentries
  obtain ⟨reference, hreference, hdenotes⟩ := mem_forall₂_left hall.flip htarget
  exact ⟨record, references, reference, hpins, hreferences, hreference, hdenotes⟩

lemma expands_of_refers {entry target : PinnedRegistryEntry}
    (hresolves : validator.Resolves context entry) (h : validator.Refers context entry target) :
    (validator.graph context).Expands entry target := by
  obtain ⟨entries, hentries⟩ := (resolves_iff).mp hresolves
  obtain ⟨record, references, hpins, hreferences, hall⟩ := (expand_ok).mp hentries
  obtain ⟨record', references', reference, hpins', hreferences', hreference, hdenotes⟩ := h
  obtain rfl := pins_unique hpins hpins'
  obtain rfl := references_unique hreferences hreferences'
  obtain ⟨target', htarget', hdenotes'⟩ := mem_forall₂_left hall hreference
  exact ⟨entries, hentries, denotes_unique hdenotes' hdenotes ▸ htarget'⟩

/-- The candidates are the roots by their keys. -/
def WellFormed (context : ValidationContext) : Prop :=
  ∀ key entry, context.candidateEntries.get key = some entry ↔
    entry ∈ context.rootEntries ∧ entry.key = key

lemma names_key (hformed : WellFormed context) {kind id : String} {entry : PinnedRegistryEntry}
    (h : validator.Names context kind id entry) : entry.key = .new kind id := by
  cases h with
  | pinned h => exact ((hformed _ _).mp h).2
  | current => rfl

lemma reached_named (hformed : WellFormed context) {entry : PinnedRegistryEntry}
    (h : (validator.graph context).Reached context.rootEntries entry) :
    ∃ kind id, validator.Names context kind id entry ∧ entry.key = .new kind id := by
  obtain ⟨root, hroot, hpath⟩ := h
  cases hpath with
  | refl => exact ⟨entry.kind, entry.id, .pinned ((hformed _ _).mpr ⟨hroot, rfl⟩), rfl⟩
  | tail _ hlast =>
    obtain ⟨_, _, _, _, _, _, hdenotes⟩ := refers_of_expands hlast
    obtain ⟨kind, id, hnames⟩ := denotes_names hdenotes
    exact ⟨kind, id, hnames, names_key hformed hnames⟩

lemma coherent (hformed : WellFormed context) :
    (validator.graph context).Coherent context.rootEntries := by
  intro entry entry' hentry hentry' hkey
  obtain ⟨kind, id, hnames, hnew⟩ := reached_named hformed hentry
  obtain ⟨kind', id', hnames', hnew'⟩ := reached_named hformed hentry'
  have hsame : (kind, id) = (kind', id') :=
    toLex.injective (hnew.symm.trans (Eq.trans hkey hnew'))
  obtain ⟨rfl, rfl⟩ := Prod.mk.inj hsame
  exact names_unique hnames hnames'

lemma reached_iff
    (h : (∀ entry, validator.Reaches context entry → validator.Resolves context entry) ∨
      ∀ entry, (validator.graph context).Reached context.rootEntries entry →
        validator.Resolves context entry) {entry : PinnedRegistryEntry} :
    (validator.graph context).Reached context.rootEntries entry ↔
      validator.Reaches context entry := by
  constructor
  · rintro ⟨root, hroot, hpath⟩
    exact ⟨root, hroot, ReflTransGen.mono (fun _ _ => refers_of_expands) _ _ hpath⟩
  · rintro ⟨root, hroot, hpath⟩
    induction hpath with
    | refl => exact ⟨root, hroot, .refl⟩
    | @tail middle last hmiddle hlast ih =>
      have hresolves : validator.Resolves context middle :=
        h.elim (fun h => h middle ⟨root, hroot, hmiddle⟩) (fun h => h middle ih)
      exact ih.expand (expands_of_refers hresolves hlast)

lemma expands_path (hall : ∀ entry, (validator.graph context).Reached context.rootEntries entry →
      validator.Resolves context entry) {entry target : PinnedRegistryEntry}
    (hentry : (validator.graph context).Reached context.rootEntries entry)
    (h : TransGen (validator.Refers context) entry target) :
    TransGen (validator.graph context).Expands entry target ∧
      (validator.graph context).Reached context.rootEntries target := by
  induction h with
  | single h =>
    have hexpands := expands_of_refers (hall _ hentry) h
    exact ⟨.single hexpands, hentry.expand hexpands⟩
  | tail _ h ih =>
    have hexpands := expands_of_refers (hall _ ih.2) h
    exact ⟨ih.1.tail hexpands, ih.2.expand hexpands⟩

lemma candidates_ok {seen : List ResourceKey} {table out : Table ResourceKey PinnedRegistryEntry}
    {entries : List PinnedRegistryEntry}
    (h : ValidationContext.candidates seen table entries = .ok out) :
    (∀ entry ∈ entries, entry.version ≠ 0 ∧ entry.key ∉ seen) ∧
      (entries.map PinnedRegistryEntry.key).Nodup ∧
      ∀ key entry, out.get key = some entry ↔ (entry ∈ entries ∧ entry.key = key) ∨
        (key ∉ entries.map PinnedRegistryEntry.key ∧ table.get key = some entry) := by
  induction entries generalizing seen table with
  | nil =>
    obtain rfl := Except.ok.inj h
    simp
  | cons first entries ih =>
    unfold ValidationContext.candidates at h
    by_cases hversion : first.version = 0
    · rw [if_pos hversion] at h
      cases h
    by_cases hseen : first.key ∈ seen
    · rw [if_neg hversion, if_pos hseen] at h
      cases h
    rw [if_neg hversion, if_neg hseen] at h
    obtain ⟨hentries, hnodup, hget⟩ := ih h
    have hfirst : first.key ∉ entries.map PinnedRegistryEntry.key := by
      intro hmem
      obtain ⟨entry, hentry, hkey⟩ := List.mem_map.mp hmem
      exact (hentries entry hentry).2 (hkey ▸ List.mem_cons_self)
    refine ⟨?_, List.nodup_cons.mpr ⟨hfirst, hnodup⟩, fun key entry => ?_⟩
    · rw [List.forall_mem_cons]
      exact ⟨⟨hversion, hseen⟩, fun entry hentry =>
        ⟨(hentries entry hentry).1,
          fun hmem => (hentries entry hentry).2 (List.mem_cons_of_mem _ hmem)⟩⟩
    · rw [hget, Table.get_insert]
      by_cases hkey : key = first.key
      · subst hkey
        rw [if_pos rfl]
        have hnot : ∀ entry ∈ entries, entry.key ≠ first.key :=
          fun entry hentry heq => hfirst (List.mem_map.mpr ⟨entry, hentry, heq⟩)
        constructor
        · rintro (⟨hentry, heq⟩ | ⟨_, heq⟩)
          · exact absurd heq (hnot entry hentry)
          · obtain rfl := Option.some.inj heq
            exact .inl ⟨List.mem_cons_self, rfl⟩
        · rintro (⟨hentry, heq⟩ | ⟨hmem, _⟩)
          · cases List.mem_cons.mp hentry with
            | inl hsame => exact .inr ⟨hfirst, congrArg some hsame.symm⟩
            | inr hentry => exact absurd heq (hnot entry hentry)
          · exact absurd List.mem_cons_self hmem
      · have hother : entry = first → entry.key ≠ key := by
          rintro rfl heq
          exact hkey heq.symm
        rw [if_neg hkey, List.map_cons, List.mem_cons, List.mem_cons]
        constructor
        · rintro (⟨hentry, heq⟩ | ⟨hmem, hget⟩)
          · exact .inl ⟨.inr hentry, heq⟩
          · exact .inr ⟨fun hor => hor.elim hkey hmem, hget⟩
        · rintro (⟨hentry, heq⟩ | ⟨hmem, hget⟩)
          · exact .inl ⟨hentry.resolve_left (fun hsame => hother hsame heq), heq⟩
          · exact .inr ⟨fun h => hmem (.inr h), hget⟩

lemma fromEntries_ok {scopeId : String} {entries : List PinnedRegistryEntry} {allow reject : Bool}
    {context : ValidationContext}
    (h : ValidationContext.fromEntries scopeId entries allow reject = .ok context) :
    context.scopeId = scopeId ∧ context.rootEntries = entries ∧
      context.allowCurrentReferenceResolution = allow ∧
      context.rejectArchivedExplicitEntries = reject ∧
      (∀ entry ∈ entries, entry.version ≠ 0) ∧ WellFormed context := by
  obtain ⟨table, htable, h⟩ := bind_eq_ok h
  obtain rfl := Except.ok.inj h
  obtain ⟨hentries, _, hget⟩ := candidates_ok htable
  refine ⟨rfl, rfl, rfl, rfl, fun entry hentry => (hentries entry hentry).1, fun key entry => ?_⟩
  simpa using hget key entry

lemma rootContext_ok {root : VersionSelector} (h : validator.rootContext root = .ok context) :
    ∃ scopeId entries allow reject,
      ValidationContext.fromEntries scopeId entries allow reject = .ok context := by
  cases root with
  | latestPublication scopeId =>
    obtain ⟨found, _, h⟩ := bind_eq_ok h
    cases found with
    | none => cases h
    | some manifest => exact ⟨_, _, _, _, h⟩
  | publication scopeId snapshotVersion =>
    obtain ⟨found, _, h⟩ := bind_eq_ok h
    cases found with
    | none => cases h
    | some manifest => exact ⟨_, _, _, _, h⟩
  | exact scopeId kind id version =>
    obtain ⟨record, _, h⟩ := bind_eq_ok h
    exact ⟨_, _, _, _, h⟩
  | manifest scopeId manifest => exact ⟨_, _, _, _, h⟩

structure Valid (validator : StandardRegistryGraphValidator J) (context : ValidationContext)
    (entries : List PinnedRegistryEntry) : Prop where
  resolves : ∀ entry, validator.Reaches context entry → validator.Resolves context entry
  acyclic : ∀ entry, validator.Reaches context entry →
    ¬ TransGen (validator.Refers context) entry entry
  sorted : entries.Pairwise (PinnedRegistryEntry.key · < PinnedRegistryEntry.key ·)
  lists : ∀ entry, entry ∈ entries ↔ validator.Reaches context entry

lemma visitAll_ok (hformed : WellFormed context) {accepted : List PinnedRegistryEntry} :
    (validator.graph context).visitAll [] [] context.rootEntries = .ok accepted ↔
      validator.Valid context accepted := by
  rw [DepthFirst.Graph.visitAll_eq_ok_iff (coherent hformed)]
  constructor
  · rintro ⟨hexpandable, hsorted, hmem⟩
    have hall : ∀ entry, (validator.graph context).Reached context.rootEntries entry →
        validator.Resolves context entry :=
      fun entry hentry => (resolves_iff).mpr (hexpandable.expands entry hentry)
    have hreached : ∀ {entry}, (validator.graph context).Reached context.rootEntries entry ↔
        validator.Reaches context entry := reached_iff (.inr hall)
    refine ⟨fun entry hentry => hall entry (hreached.mpr hentry), ?_, hsorted,
      fun entry => (hmem entry).trans hreached⟩
    intro entry hentry hcycle
    have hentry := hreached.mpr hentry
    exact hexpandable.acyclic entry hentry (expands_path hall hentry hcycle).1
  · rintro ⟨hresolves, hacyclic, hsorted, hmem⟩
    have hreached : ∀ {entry}, (validator.graph context).Reached context.rootEntries entry ↔
        validator.Reaches context entry := reached_iff (.inl hresolves)
    refine ⟨⟨fun entry hentry => (resolves_iff).mp (hresolves entry (hreached.mp hentry)), ?_⟩,
      hsorted, fun entry => (hmem entry).trans hreached.symm⟩
    intro entry hentry hcycle
    exact hacyclic entry (hreached.mp hentry)
      (TransGen.mono (fun _ _ => refers_of_expands) _ _ hcycle)

lemma validate_eq_ok {request : RegistryGraphValidationRequest}
    {report : RegistryGraphValidationReport} :
    validator.validate request = .ok report ↔
      ∃ context, validator.rootContext request.root = .ok context ∧
        validator.Valid context report.entries := by
  simp only [validate, bind_eq_ok_iff]
  constructor
  · rintro ⟨context, hcontext, accepted, haccepted, h⟩
    obtain rfl := Except.ok.inj h
    obtain ⟨_, _, _, _, hentries⟩ := rootContext_ok hcontext
    obtain ⟨_, _, _, _, _, hformed⟩ := fromEntries_ok hentries
    exact ⟨context, hcontext, (visitAll_ok hformed).mp haccepted⟩
  · rintro ⟨context, hcontext, h⟩
    obtain ⟨_, _, _, _, hentries⟩ := rootContext_ok hcontext
    obtain ⟨_, _, _, _, _, hformed⟩ := fromEntries_ok hentries
    exact ⟨context, hcontext, report.entries, (visitAll_ok hformed).mpr h, rfl⟩

/-- The validation succeeds exactly where every reference that is reached resolves to a stored
version with its hash and no reference leads back, and the report then lists what is reached. -/
theorem validate_accepts_iff (validator : StandardRegistryGraphValidator J)
    (request : RegistryGraphValidationRequest) (report : RegistryGraphValidationReport) :
    validator.validate request = .ok report ↔
      ∃ context, validator.rootContext request.root = .ok context ∧
        (∀ entry, validator.Reaches context entry → validator.Resolves context entry) ∧
        (∀ entry, validator.Reaches context entry →
          ¬ TransGen (validator.Refers context) entry entry) ∧
        report.entries.Pairwise (PinnedRegistryEntry.key · < PinnedRegistryEntry.key ·) ∧
        ∀ entry, entry ∈ report.entries ↔ validator.Reaches context entry := by
  rw [validate_eq_ok]
  refine exists_congr (fun context => and_congr_right (fun _ => ⟨?_, ?_⟩))
  · intro h
    exact ⟨h.resolves, h.acyclic, h.sorted, h.lists⟩
  · rintro ⟨hresolves, hacyclic, hsorted, hlists⟩
    exact ⟨hresolves, hacyclic, hsorted, hlists⟩

section Sample

def sampleNames : List (String × String) :=
  [(registryKindAgent, "planner"), (registryKindAgent, "coder"), (registryKindAgent, "critic"),
    (registryKindModel, "fast"), (registryKindProvider, "cloud")]

def sampleRecord (kind id : String) : VersionedRecord String where
  kind := kind
  id := id
  version := 1
  contentHash := hashText []
  valueSchemaVersion := 1
  value := id
  canonicalJsonBytes := []
  createdAtMs := 0
  metadata := ""

def isSample (kind id : String) : Bool :=
  sampleNames.any (fun name => name.1 = kind && name.2 = id)

def sampleGet (kind id : String) (version : Nat) : Option (VersionedRecord String) :=
  if version = 1 ∧ isSample kind id = true then some (sampleRecord kind id) else none

def sampleState (scopeId kind id : String) : Option (VersionedResourceState String) :=
  if isSample kind id = true then some ⟨scopeId, kind, id, some 1, none, 0, 0, ""⟩ else none

def sampleStore : VersionedRegistryStore String where
  latestPublication := fun _ => .ok none
  getPublication := fun _ _ => .ok none
  resourceState := fun scopeId kind id => .ok (sampleState scopeId kind id)
  current := fun _ kind id => .ok (sampleGet kind id 1)
  get := fun _ kind id version => .ok (sampleGet kind id version)
  stored := fun _ => sampleNames.map (fun name => ⟨name.1, name.2, 1⟩)
  stored_of_get := by
    intro _ kind id version record h
    by_cases hstored : version = 1 ∧ isSample kind id = true
    · obtain ⟨name, hname, hkey⟩ := List.any_eq_true.mp hstored.2
      simp only [Bool.and_eq_true, decide_eq_true_eq] at hkey
      exact List.mem_map.mpr ⟨name, hname, by rw [hstored.1, hkey.1, hkey.2]⟩
    · rw [sampleGet, if_neg hstored] at h
      cases h

def sampleDecoder (delegates : List String) : SpecDecoder String where
  agentSpec := fun id => .ok ⟨id, "fast", true, if id = "planner" then delegates else []⟩
  modelSpec := fun id => .ok ⟨id, "cloud"⟩
  modelPoolSpec := fun id => .ok ⟨id, []⟩

def sampleValidator : StandardRegistryGraphValidator String :=
  ⟨sampleStore, sampleDecoder ["coder", "critic"], fun _ => []⟩

def sampleEntry (kind id : String) : PinnedRegistryEntry := ⟨kind, id, 1, hashText []⟩

def sampleManifest : PinnedRegistryManifest :=
  ⟨none, none, sampleNames.map (fun name => sampleEntry name.1 name.2)⟩

end Sample

section Transfer

variable {validator' : StandardRegistryGraphValidator J} {context' : ValidationContext}
  {accepted : List PinnedRegistryEntry}

structure Carries (validator : StandardRegistryGraphValidator J) (context : ValidationContext)
    (validator' : StandardRegistryGraphValidator J) (context' : ValidationContext)
    (accepted : List PinnedRegistryEntry) : Prop where
  pins : ∀ entry ∈ accepted, ∀ record, validator.Pins context entry record →
    validator'.Pins context' entry record
  references : ∀ entry ∈ accepted, ∀ value references,
    validator.References entry value references → ∃ references',
      validator'.References entry value references' ∧
        ∀ reference, reference ∈ references' ↔ reference ∈ references
  denotes : ∀ target ∈ accepted, ∀ reference, validator.Denotes context reference target →
    validator'.Denotes context' reference target
  roots : ∀ root ∈ context.rootEntries, root ∈ context'.rootEntries
  accepted : ∀ root ∈ context'.rootEntries, root ∈ accepted

lemma Valid.target (h : validator.Valid context accepted) {entry target : PinnedRegistryEntry}
    (hentry : entry ∈ accepted) (htarget : validator.Refers context entry target) :
    target ∈ accepted := by
  obtain ⟨root, hroot, hpath⟩ := (h.lists entry).mp hentry
  exact (h.lists target).mpr ⟨root, hroot, hpath.tail htarget⟩

lemma Carries.resolves (hcarries : Carries validator context validator' context' accepted)
    (h : validator.Valid context accepted) {entry : PinnedRegistryEntry}
    (hentry : entry ∈ accepted) :
    validator'.Resolves context' entry := by
  obtain ⟨record, references, hpins, hreferences, hall⟩ :=
    h.resolves entry ((h.lists entry).mp hentry)
  obtain ⟨references', hreferences', hmem⟩ :=
    hcarries.references entry hentry _ _ hreferences
  refine ⟨record, references', hcarries.pins entry hentry record hpins, hreferences', ?_⟩
  intro reference hreference
  have hreference := (hmem reference).mp hreference
  obtain ⟨target, htarget⟩ := hall reference hreference
  have hrefers : validator.Refers context entry target :=
    ⟨record, references, reference, hpins, hreferences, hreference, htarget⟩
  exact ⟨target, hcarries.denotes target (h.target hentry hrefers) reference htarget⟩

lemma Carries.refers_iff (hcarries : Carries validator context validator' context' accepted)
    (h : validator.Valid context accepted) {entry target : PinnedRegistryEntry}
    (hentry : entry ∈ accepted) :
    validator'.Refers context' entry target ↔ validator.Refers context entry target := by
  obtain ⟨record, references, hpins, hreferences, hall⟩ :=
    h.resolves entry ((h.lists entry).mp hentry)
  obtain ⟨references', hreferences', hmem⟩ := hcarries.references entry hentry _ _ hreferences
  have hpins' := hcarries.pins entry hentry record hpins
  constructor
  · rintro ⟨other, others, reference, hother, hothers, hreference, hdenotes⟩
    obtain rfl := pins_unique hpins' hother
    obtain rfl := references_unique hreferences' hothers
    have hreference := (hmem reference).mp hreference
    obtain ⟨found, hfound⟩ := hall reference hreference
    have hrefers : validator.Refers context entry found :=
      ⟨record, references, reference, hpins, hreferences, hreference, hfound⟩
    have hsame := denotes_unique hdenotes
      (hcarries.denotes found (h.target hentry hrefers) reference hfound)
    exact hsame ▸ hrefers
  · intro hrefers
    have htarget := h.target hentry hrefers
    obtain ⟨other, others, reference, hother, hothers, hreference, hdenotes⟩ := hrefers
    obtain rfl := pins_unique hpins hother
    obtain rfl := references_unique hreferences hothers
    exact ⟨record, references', reference, hpins', hreferences', (hmem reference).mpr hreference,
      hcarries.denotes target htarget reference hdenotes⟩

lemma Carries.valid (hcarries : Carries validator context validator' context' accepted)
    (h : validator.Valid context accepted) : validator'.Valid context' accepted := by
  have hclosed : ∀ {entry target}, entry ∈ accepted → validator'.Refers context' entry target →
      target ∈ accepted :=
    fun hentry htarget => h.target hentry ((hcarries.refers_iff h hentry).mp htarget)
  have hlists : ∀ entry, entry ∈ accepted ↔ validator'.Reaches context' entry := by
    intro entry
    constructor
    · intro hentry
      obtain ⟨root, hroot, hpath⟩ := (h.lists entry).mp hentry
      refine ⟨root, hcarries.roots root hroot, ?_⟩
      have hstart : root ∈ accepted := (h.lists root).mpr ⟨root, hroot, .refl⟩
      clear hentry
      induction hpath with
      | refl => exact .refl
      | tail hpath hlast ih =>
        exact ih.tail ((hcarries.refers_iff h ((h.lists _).mpr ⟨root, hroot, hpath⟩)).mpr hlast)
    · rintro ⟨root, hroot, hpath⟩
      induction hpath with
      | refl => exact hcarries.accepted root hroot
      | tail _ hlast ih => exact hclosed ih hlast
  refine ⟨fun entry hentry => hcarries.resolves h ((hlists entry).mpr hentry), ?_, h.sorted, hlists⟩
  intro entry hentry hcycle
  have hentry := (hlists entry).mpr hentry
  have hpath : ∀ {target}, TransGen (validator'.Refers context') entry target →
      TransGen (validator.Refers context) entry target ∧ target ∈ accepted := by
    intro target hpath
    induction hpath with
    | single hlast =>
      exact ⟨.single ((hcarries.refers_iff h hentry).mp hlast), hclosed hentry hlast⟩
    | tail _ hlast ih =>
      exact ⟨ih.1.tail ((hcarries.refers_iff h ih.2).mp hlast), hclosed ih.2 hlast⟩
  exact h.acyclic entry ((h.lists entry).mp hentry) (hpath hcycle).1

end Transfer

section Manifests

lemma candidates_of_distinct {seen : List ResourceKey}
    {table : Table ResourceKey PinnedRegistryEntry} {entries : List PinnedRegistryEntry}
    (hentries : ∀ entry ∈ entries, entry.version ≠ 0 ∧ entry.key ∉ seen)
    (hkeys : (entries.map PinnedRegistryEntry.key).Nodup) :
    ∃ out, ValidationContext.candidates seen table entries = .ok out := by
  induction entries generalizing seen table with
  | nil => exact ⟨table, rfl⟩
  | cons first entries ih =>
    rw [List.map_cons, List.nodup_cons] at hkeys
    rw [List.forall_mem_cons] at hentries
    rw [ValidationContext.candidates, if_neg hentries.1.1, if_neg hentries.1.2]
    refine ih (fun entry hentry => ⟨(hentries.2 entry hentry).1, ?_⟩) hkeys.2
    rw [List.mem_cons, not_or]
    exact ⟨fun hkey => hkeys.1 (List.mem_map.mpr ⟨entry, hentry, hkey⟩),
      (hentries.2 entry hentry).2⟩

lemma fromEntries_of_distinct {entries : List PinnedRegistryEntry}
    (hversions : ∀ entry ∈ entries, entry.version ≠ 0)
    (hkeys : (entries.map PinnedRegistryEntry.key).Nodup) (scopeId : String) (allow reject : Bool) :
    ∃ context, ValidationContext.fromEntries scopeId entries allow reject = .ok context := by
  obtain ⟨table, htable⟩ := @candidates_of_distinct [] .empty entries
    (fun entry hentry => ⟨hversions entry hentry, List.not_mem_nil⟩) hkeys
  exact ⟨_, (bind_eq_ok_iff).mpr ⟨table, htable, rfl⟩⟩

lemma validate_manifest {scopeId : String} {manifest : PinnedRegistryManifest}
    {policy : RegistryReferencePolicy} {report : RegistryGraphValidationReport} :
    validator.validate ⟨.manifest scopeId manifest, policy⟩ = .ok report ↔
      ∃ context, ValidationContext.fromEntries scopeId manifest.entries false false = .ok context ∧
        validator.Valid context report.entries :=
  validate_eq_ok

lemma pinned_of_mem (hformed : WellFormed context) {kind id : String} {entry : PinnedRegistryEntry}
    (hentry : entry ∈ context.rootEntries) (hkey : entry.key = .new kind id) :
    validator.Names context kind id entry := .pinned ((hformed _ _).mpr ⟨hentry, hkey⟩)

lemma absent_of_unreached (hformed : WellFormed context)
    (hallow : context.allowCurrentReferenceResolution = false) {kind id : String}
    (h : ∀ entry ∈ context.rootEntries, entry.key ≠ .new kind id) :
    validator.Absent context kind id := by
  refine .unpinned ?_ hallow
  cases hfound : context.candidateEntries.get (.new kind id) with
  | none => rfl
  | some entry =>
    obtain ⟨hentry, hkey⟩ := (hformed _ _).mp hfound
    exact absurd hkey (h entry hentry)

lemma carries_frozen {accepted : List PinnedRegistryEntry} {later : VersionedRegistryStore J}
    {context' : ValidationContext} (h : validator.Valid context accepted)
    (hformed : WellFormed context) (hformed' : WellFormed context')
    (hscope : context'.scopeId = context.scopeId) (hroots : context'.rootEntries = accepted)
    (hallow : context'.allowCurrentReferenceResolution = false)
    (hreject : context'.rejectArchivedExplicitEntries = false)
    (hkept : ∀ entry ∈ accepted, later.get context.scopeId entry.kind entry.id entry.version =
      validator.store.get context.scopeId entry.kind entry.id entry.version) :
    Carries validator context { validator with store := later } context' accepted where
  pins := by
    intro entry hentry record hpins
    refine ⟨fun hrejects => ?_, ?_, hpins.verified, hpins.hash⟩
    · rw [hreject] at hrejects
      cases hrejects
    · rw [hscope]
      exact (hkept entry hentry).trans hpins.stored
  references := by
    intro entry _ value references hreferences
    refine ⟨references, ?_, fun _ => Iff.rfl⟩
    cases hreferences with
    | agent hkind hspec hid => exact .agent hkind hspec hid
    | model hkind hspec hid => exact .model hkind hspec hid
    | modelPool hkind hspec hid => exact .modelPool hkind hspec hid
    | leaf hkind => exact .leaf hkind
  denotes := by
    intro target htarget reference hdenotes
    rw [← hroots] at htarget
    have hunreached : ∀ {kind id}, validator.Absent context kind id →
        ({ validator with store := later } : StandardRegistryGraphValidator J).Absent context'
          kind id := by
      intro kind id habsent
      refine absent_of_unreached hformed' hallow (fun entry hentry hkey => ?_)
      rw [hroots] at hentry
      have hreached := (reached_iff (.inl h.resolves)).mpr ((h.lists entry).mp hentry)
      obtain ⟨kind', id', hnames, hkey'⟩ := reached_named hformed hreached
      have hsame : (kind', id') = (kind, id) := toLex.injective (hkey'.symm.trans hkey)
      obtain ⟨rfl, rfl⟩ := Prod.mk.inj hsame
      exact not_absent hnames habsent
    cases hdenotes with
    | resource hnames => exact .resource (pinned_of_mem hformed' htarget (names_key hformed hnames))
    | model hnames habsent =>
      exact .model (pinned_of_mem hformed' htarget (names_key hformed hnames)) (hunreached habsent)
    | pool habsent hnames =>
      exact .pool (hunreached habsent) (pinned_of_mem hformed' htarget (names_key hformed hnames))
  roots := by
    intro root hroot
    rw [hroots]
    exact (h.lists root).mpr ⟨root, hroot, .refl⟩
  accepted := fun root hroot => hroots ▸ hroot

lemma stored_of_report {scopeId kind id : String} {version : Nat}
    {policy : RegistryReferencePolicy} {report : RegistryGraphValidationReport}
    (h : validator.validate ⟨.exact scopeId kind id version, policy⟩ = .ok report)
    {entry : PinnedRegistryEntry} (hentry : entry ∈ report.entries) :
    ∃ record, validator.store.get scopeId entry.kind entry.id entry.version = .ok (some record) := by
  obtain ⟨context, hcontext, hvalid⟩ := (validate_eq_ok).mp h
  obtain ⟨_, _, hentries⟩ := bind_eq_ok hcontext
  obtain ⟨hscope, _⟩ := fromEntries_ok hentries
  obtain ⟨record, _, hpins, _⟩ := hvalid.resolves entry ((hvalid.lists entry).mp hentry)
  exact ⟨record, hscope ▸ hpins.stored⟩

lemma frozen_validates (validator : StandardRegistryGraphValidator J)
    {scopeId kind id : String} {version : Nat} {policy : RegistryReferencePolicy}
    {report : RegistryGraphValidationReport}
    (h : validator.validate ⟨.exact scopeId kind id version, policy⟩ = .ok report)
    (hversions : ∀ version ∈ validator.store.stored scopeId, version.version ≠ 0)
    {later : VersionedRegistryStore J}
    (hkept : ∀ entry ∈ report.entries, later.get scopeId entry.kind entry.id entry.version =
      validator.store.get scopeId entry.kind entry.id entry.version)
    (publicationId : Option String) (registrySnapshotVersion : Option Nat) :
    { validator with store := later }.validate
      ⟨.manifest scopeId ⟨publicationId, registrySnapshotVersion, report.entries⟩, policy⟩ =
        .ok report := by
  have hnonzero : ∀ entry ∈ report.entries, entry.version ≠ 0 := by
    intro entry hentry
    obtain ⟨record, hrecord⟩ := stored_of_report h hentry
    exact hversions _ (validator.store.stored_of_get _ _ _ _ record hrecord)
  obtain ⟨context, hcontext, hvalid⟩ := (validate_eq_ok).mp h
  obtain ⟨record, _, hentries⟩ := bind_eq_ok hcontext
  obtain ⟨hscope, _, _, _, _, hformed⟩ := fromEntries_ok hentries
  have hkeys : (report.entries.map PinnedRegistryEntry.key).Nodup :=
    List.pairwise_map.mpr (hvalid.sorted.imp ne_of_lt)
  obtain ⟨context', hcontext'⟩ := fromEntries_of_distinct hnonzero hkeys scopeId false false
  obtain ⟨hscope', hroots, hallow, hreject, _, hformed'⟩ := fromEntries_ok hcontext'
  rw [validate_manifest]
  subst hscope
  exact ⟨context', hcontext',
    (carries_frozen hvalid hformed hformed' hscope' hroots hallow hreject hkept).valid hvalid⟩

/-- The second decoder reads from each value what the first one reads, with the delegates and the
members in some other order. -/
structure Reorders (decoder decoder' : SpecDecoder J) : Prop where
  agentSpec : ∀ value spec, decoder.agentSpec value = .ok spec → ∃ delegates,
    spec.delegates.Perm delegates ∧
      decoder'.agentSpec value = .ok { spec with delegates := delegates }
  modelSpec : ∀ value spec, decoder.modelSpec value = .ok spec → decoder'.modelSpec value = .ok spec
  modelPoolSpec : ∀ value spec, decoder.modelPoolSpec value = .ok spec → ∃ members,
    spec.members.Perm members ∧
      decoder'.modelPoolSpec value = .ok { spec with members := members }

lemma Reorders.references {decoder' : SpecDecoder J} (h : Reorders validator.decoder decoder')
    {entry : PinnedRegistryEntry} {value : J} {references : List Reference}
    (hreferences : validator.References entry value references) : ∃ references',
      ({ validator with decoder := decoder' } : StandardRegistryGraphValidator J).References entry
        value references' ∧ ∀ reference, reference ∈ references' ↔ reference ∈ references := by
  cases hreferences with
  | agent hkind hspec hid =>
    obtain ⟨delegates, hperm, hspec'⟩ := h.agentSpec _ _ hspec
    refine ⟨_, .agent hkind hspec' hid, fun reference => ?_⟩
    rw [List.mem_append, List.mem_append, (hperm.map _).mem_iff]
  | model hkind hspec hid =>
    exact ⟨_, .model hkind (h.modelSpec _ _ hspec) hid, fun _ => Iff.rfl⟩
  | modelPool hkind hspec hid =>
    obtain ⟨members, hperm, hspec'⟩ := h.modelPoolSpec _ _ hspec
    exact ⟨_, .modelPool hkind hspec' hid, fun reference => (hperm.map _).mem_iff.symm⟩
  | leaf hkind => exact ⟨_, .leaf hkind, fun _ => Iff.rfl⟩

lemma carries_reordered {accepted : List PinnedRegistryEntry} {decoder' : SpecDecoder J}
    {context' : ValidationContext} (h : validator.Valid context accepted)
    (hdecoder : Reorders validator.decoder decoder')
    (hformed : WellFormed context) (hformed' : WellFormed context')
    (hscope : context'.scopeId = context.scopeId)
    (hallow : context'.allowCurrentReferenceResolution = context.allowCurrentReferenceResolution)
    (hreject : context'.rejectArchivedExplicitEntries = context.rejectArchivedExplicitEntries)
    (hroots : ∀ entry, entry ∈ context'.rootEntries ↔ entry ∈ context.rootEntries) :
    Carries validator context { validator with decoder := decoder' } context' accepted := by
  have hget : ∀ key, context'.candidateEntries.get key = context.candidateEntries.get key := by
    intro key
    ext entry
    rw [hformed', hformed, hroots]
  have hnames : ∀ {kind id entry}, validator.Names context kind id entry →
      ({ validator with decoder := decoder' } : StandardRegistryGraphValidator J).Names context'
        kind id entry := by
    intro kind id entry hnames
    cases hnames with
    | pinned hpinned => exact .pinned ((hget _).trans hpinned)
    | current hunpinned hallowed hlive hcurrent =>
      rw [← hscope] at hlive hcurrent
      exact .current ((hget _).trans hunpinned) (hallow.trans hallowed) hlive hcurrent
  have habsent : ∀ {kind id}, validator.Absent context kind id →
      ({ validator with decoder := decoder' } : StandardRegistryGraphValidator J).Absent context'
        kind id := by
    intro kind id habsent
    cases habsent with
    | unpinned hunpinned hdenied =>
      exact .unpinned ((hget _).trans hunpinned) (hallow.trans hdenied)
    | missing hunpinned hallowed hstate =>
      rw [← hscope] at hstate
      exact .missing ((hget _).trans hunpinned) (hallow.trans hallowed) hstate
    | unset hunpinned hallowed hlive hcurrent =>
      rw [← hscope] at hlive hcurrent
      exact .unset ((hget _).trans hunpinned) (hallow.trans hallowed) hlive hcurrent
  refine ⟨?_, fun _ _ _ _ hreferences => hdecoder.references hreferences, ?_,
    fun root hroot => (hroots root).mpr hroot,
    fun root hroot => (h.lists root).mpr ⟨root, (hroots root).mp hroot, .refl⟩⟩
  · intro entry _ record hpins
    refine ⟨fun hrejects => ?_, ?_, hpins.verified, hpins.hash⟩
    · rw [hscope]
      exact hpins.live (hreject ▸ hrejects)
    · rw [hscope]
      exact hpins.stored
  · intro target _ reference hdenotes
    cases hdenotes with
    | resource hresource => exact .resource (hnames hresource)
    | model hmodel hpool => exact .model (hnames hmodel) (habsent hpool)
    | pool hmodel hpool => exact .pool (habsent hmodel) (hnames hpool)

lemma validate_reordered {scopeId : String} {manifest manifest' : PinnedRegistryManifest}
    {decoder' : SpecDecoder J} (hentries : manifest.entries.Perm manifest'.entries)
    (hdecoder : Reorders validator.decoder decoder') {policy : RegistryReferencePolicy}
    {report : RegistryGraphValidationReport}
    (h : validator.validate ⟨.manifest scopeId manifest, policy⟩ = .ok report) :
    { validator with decoder := decoder' }.validate ⟨.manifest scopeId manifest', policy⟩ =
      .ok report := by
  obtain ⟨context, hcontext, hvalid⟩ := (validate_manifest).mp h
  obtain ⟨hscope, hroots, hallow, hreject, hversions, hformed⟩ := fromEntries_ok hcontext
  have hkeys : (manifest.entries.map PinnedRegistryEntry.key).Nodup := by
    obtain ⟨table, htable, _⟩ := bind_eq_ok hcontext
    exact (candidates_ok htable).2.1
  obtain ⟨context', hcontext'⟩ := fromEntries_of_distinct
    (fun entry hentry => hversions entry (hentries.mem_iff.mpr hentry))
    ((hentries.map _).nodup_iff.mp hkeys) scopeId false false
  obtain ⟨hscope', hroots', hallow', hreject', _, hformed'⟩ := fromEntries_ok hcontext'
  refine (validate_manifest).mpr ⟨context', hcontext', ?_⟩
  refine (carries_reordered hvalid hdecoder hformed hformed' (hscope'.trans hscope.symm)
    (hallow'.trans hallow.symm) (hreject'.trans hreject.symm) (fun entry => ?_)).valid hvalid
  rw [hroots', hroots]
  exact hentries.mem_iff.symm

lemma sample_reorders {delegates delegates' : List String} (h : delegates.Perm delegates') :
    Reorders (sampleDecoder delegates) (sampleDecoder delegates') where
  agentSpec := by
    intro value spec hspec
    obtain rfl := Except.ok.inj hspec
    refine ⟨_, ?_, rfl⟩
    dsimp only
    split
    · exact h
    · rfl
  modelSpec := fun _ _ hspec => hspec
  modelPoolSpec := fun _ _ hspec => ⟨_, .refl _, hspec⟩

def sampleReport : RegistryGraphValidationReport :=
  ⟨[sampleEntry registryKindAgent "coder", sampleEntry registryKindAgent "critic",
    sampleEntry registryKindAgent "planner", sampleEntry registryKindModel "fast",
    sampleEntry registryKindProvider "cloud"]⟩

lemma sampleManifest_validates :
    sampleValidator.validate ⟨.manifest "default" sampleManifest, .sameScopeOnly⟩ =
      .ok sampleReport := by
  let context : ValidationContext := ⟨"default", sampleManifest.entries,
    ⟨sampleManifest.entries.map (fun entry => (entry.key, entry)), by decide⟩, false, false⟩
  let g := sampleValidator.graph context
  let planner := sampleEntry registryKindAgent "planner"
  let coder := sampleEntry registryKindAgent "coder"
  let critic := sampleEntry registryKindAgent "critic"
  let fast := sampleEntry registryKindModel "fast"
  let cloud := sampleEntry registryKindProvider "cloud"
  have hseen : ∀ path accepted entry, g.lookup accepted entry = some entry →
      g.visit path accepted entry = .ok accepted :=
    fun _ _ _ h => (g.visit_ok).mpr (.inl ⟨h, rfl⟩)
  -- the planner leads to the provider of its model first, then to the agents it delegates to
  have hcloud : g.visit [planner.versionRef, fast.versionRef] [] cloud = .ok [cloud] :=
    (g.visit_ok).mpr (.inr ⟨rfl, by decide, [], [], by decide, g.visitAll_nil, rfl⟩)
  have hfast : g.visit [planner.versionRef] [] fast = .ok [fast, cloud] :=
    (g.visit_ok).mpr (.inr ⟨rfl, by decide, [cloud], [cloud], by decide,
      (g.visitAll_cons).mpr ⟨_, hcloud, g.visitAll_nil⟩, by decide⟩)
  have hcoder : g.visit [planner.versionRef] [fast, cloud] coder = .ok [coder, fast, cloud] :=
    (g.visit_ok).mpr (.inr ⟨rfl, by decide, [fast], [fast, cloud], by decide,
      (g.visitAll_cons).mpr ⟨_, hseen _ _ fast rfl, g.visitAll_nil⟩, by decide⟩)
  have hcritic : g.visit [planner.versionRef] [coder, fast, cloud] critic =
      .ok [coder, critic, fast, cloud] :=
    (g.visit_ok).mpr (.inr ⟨rfl, by decide, [fast], [coder, fast, cloud], by decide,
      (g.visitAll_cons).mpr ⟨_, hseen _ _ fast rfl, g.visitAll_nil⟩, by decide⟩)
  have hplanner : g.visit [] [] planner = .ok sampleReport.entries := by
    refine (g.visit_ok).mpr (.inr ⟨rfl, by decide, [fast, coder, critic],
      [coder, critic, fast, cloud], by decide, ?_, by decide⟩)
    exact (g.visitAll_cons).mpr ⟨_, hfast, (g.visitAll_cons).mpr ⟨_, hcoder,
      (g.visitAll_cons).mpr ⟨_, hcritic, g.visitAll_nil⟩⟩⟩
  have hentries : g.visitAll [] [] sampleManifest.entries = .ok sampleReport.entries :=
    (g.visitAll_cons).mpr ⟨_, hplanner, (g.visitAll_cons).mpr ⟨_, hseen _ _ coder rfl,
      (g.visitAll_cons).mpr ⟨_, hseen _ _ critic rfl, (g.visitAll_cons).mpr
        ⟨_, hseen _ _ fast rfl, (g.visitAll_cons).mpr ⟨_, hseen _ _ cloud rfl, g.visitAll_nil⟩⟩⟩⟩⟩
  exact (bind_eq_ok_iff).mpr ⟨context, rfl, (bind_eq_ok_iff).mpr ⟨_, hentries, rfl⟩⟩

/-- Neither the order of the entries of a manifest nor that of the references inside the resources
changes the verdict or the report. -/
theorem validate_order_independent (validator : StandardRegistryGraphValidator J)
    (decoder' : SpecDecoder J) (hdecoder : Reorders validator.decoder decoder')
    (hdecoder' : Reorders decoder' validator.decoder) (scopeId : String)
    {manifest manifest' : PinnedRegistryManifest}
    (hentries : manifest.entries.Perm manifest'.entries) (policy : RegistryReferencePolicy)
    (report : RegistryGraphValidationReport) :
    validator.validate ⟨.manifest scopeId manifest, policy⟩ = .ok report ↔
      { validator with decoder := decoder' }.validate ⟨.manifest scopeId manifest', policy⟩ =
        .ok report :=
  ⟨validate_reordered hentries hdecoder,
    @validate_reordered J { validator with decoder := decoder' } _ _ _ validator.decoder
      hentries.symm hdecoder' _ _⟩

theorem validate_order_independent_planner :
    { sampleValidator with decoder := sampleDecoder ["critic", "coder"] }.validate
      ⟨.manifest "default" ⟨none, none, sampleManifest.entries.reverse⟩, .sameScopeOnly⟩ =
        .ok sampleReport :=
  (validate_order_independent sampleValidator _ (sample_reorders (.swap _ _ _))
    (sample_reorders (.swap _ _ _)) "default" (List.reverse_perm _).symm _ _).mp
    sampleManifest_validates

end Manifests

end StandardRegistryGraphValidator

end Awaken.Contract.RegistryGraph
