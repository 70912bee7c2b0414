import Awaken.State.ParallelMerge

namespace Awaken.State

open Awaken.Lib

variable {J κ : Type} [DecidableEq κ] {K : κ → StateKey J}

def KeyRegistration.Built (K : κ → StateKey J) (reg : KeyRegistration κ) : Prop :=
  ∃ options, reg = .new K reg.typeId options

omit [DecidableEq κ] in
lemma KeyRegistration.Built.key {reg : KeyRegistration κ} (h : reg.Built K) :
    reg.key = (K reg.typeId).key := by
  obtain ⟨options, h⟩ := h
  rw [h]
  rfl

structure PluginRegistrar (K : κ → StateKey J) where
  keys : List (KeyRegistration κ)
  built : ∀ reg ∈ keys, reg.Built K
  distinct : (keys.map (·.key)).Nodup

namespace PluginRegistrar

def new : PluginRegistrar K := ⟨[], by simp, .nil⟩

def registerKey (self : PluginRegistrar K) (k : κ) (options : StateKeyOptions) :
    Except StateError (PluginRegistrar K) :=
  if h : k ∈ self.keys.map (·.typeId) ∨ (K k).key ∈ self.keys.map (·.key) then
    .error (.keyAlreadyRegistered (K k).key)
  else .ok ⟨self.keys ++ [.new K k options], by
    intro reg hreg
    rcases List.mem_append.mp hreg with hold | hnew
    · exact self.built reg hold
    · rw [List.mem_singleton.mp hnew]
      exact ⟨options, rfl⟩, by
    rw [List.map_append, List.nodup_append]
    refine ⟨self.distinct, List.nodup_singleton _, ?_⟩
    intro a ha b hb hab
    obtain rfl := List.mem_singleton.mp hb
    rw [hab] at ha
    exact h (.inr ha)⟩

end PluginRegistrar

structure Plugin (κ : Type) where
  name : String
  keys : List (κ × StateKeyOptions)

def Plugin.register (K : κ → StateKey J) (self : Plugin κ) :
    Except StateError (PluginRegistrar K) :=
  self.keys.foldlM (fun registrar key => registrar.registerKey (key).1 (key).2) .new

namespace StateStore

def installPlugin (self : StateStore K) (plugin : Plugin κ) :
    Except StateError Unit × StateStore K :=
  match plugin.register K with
  | .error e => (.error e, self)
  | .ok registrar => self.installPluginWithKeys plugin.name registrar.keys

end StateStore

namespace PluginRegistry

def registerKey (self : PluginRegistry κ) (reg : KeyRegistration κ) : PluginRegistry κ :=
  if (self.keysByName.get reg.key).isSome then self else self.insertKey reg

def removeKey (self : PluginRegistry κ) (k : κ) : PluginRegistry κ :=
  match self.keysByType.get k with
  | none => self
  | some reg =>
    { self with
      keysByType := self.keysByType.remove k
      keysByName := self.keysByName.remove reg.key }

def ownedKeys (self : PluginRegistry κ) (name : String) : Except StateError (List κ) :=
  match self.plugins.get name with
  | none => .error (.pluginNotInstalled name)
  | some owned => .ok owned

def withoutPlugin (self : PluginRegistry κ) (name : String) (owned : List κ) : PluginRegistry κ :=
  owned.foldl PluginRegistry.removeKey { self with plugins := self.plugins.remove name }

end PluginRegistry

def StateStore.registerKeys (self : StateStore K) (registrations : List (KeyRegistration κ)) :
    StateStore K :=
  { self with registry := registrations.foldl PluginRegistry.registerKey self.registry }

def StateStore.uninstallPlugin (self : StateStore K) (name : String) :
    Except StateError Unit × StateStore K :=
  match self.registry.ownedKeys name with
  | .error e => (.error e, self)
  | .ok owned =>
    let registrations := owned.filterMap self.registry.keysByType.get
    let patch := (registrations.filter (fun reg => !reg.options.retainOnUninstall)).foldl
      (fun patch reg => patch.clearExtensionWith reg.typeId)
      (MutationBatch.new.withBaseRevision self.revision)
    match self.commit patch with
    | (.error e, self) => (.error e, self)
    | (.ok _, self) => (.ok (), { self with registry := self.registry.withoutPlugin name owned })

section Coherent

/-- The two indexes of a registry list the same keys, each under its type and under its name. -/
structure PluginRegistry.Coherent (K : κ → StateKey J) (registry : PluginRegistry κ) : Prop where
  byType : ∀ k reg, registry.keysByType.get k = some reg →
    reg.typeId = k ∧ reg.Built K ∧ registry.keysByName.get reg.key = some reg
  byName : ∀ key reg, registry.keysByName.get key = some reg →
    reg.key = key ∧ registry.keysByType.get reg.typeId = some reg

lemma PluginRegistry.get_insertKeys {registry : PluginRegistry κ} {regs : List (KeyRegistration κ)}
    {key : String} (hn : ∀ reg ∈ regs, reg.key ≠ key) :
    (regs.foldl PluginRegistry.insertKey registry).keysByName.get key =
      registry.keysByName.get key := by
  induction regs generalizing registry with
  | nil => rfl
  | cons reg regs ih =>
    obtain ⟨hn₀, hn⟩ := List.forall_mem_cons.mp hn
    rw [List.foldl_cons, ih hn, PluginRegistry.insertKey, Table.get_insert, if_neg hn₀.symm]

namespace PluginRegistry.Coherent

variable {registry : PluginRegistry κ} {reg reg' : KeyRegistration κ} {key key' : String}

lemma empty : (PluginRegistry.empty : PluginRegistry κ).Coherent K :=
  ⟨fun _ _ h => (nomatch h), fun _ _ h => (nomatch h)⟩

lemma of_indexes {other : PluginRegistry κ} (h : registry.Coherent K)
    (ht : other.keysByType = registry.keysByType) (hn : other.keysByName = registry.keysByName) :
    other.Coherent K := by
  refine ⟨?_, ?_⟩
  · rw [ht, hn]
    exact h.byType
  · rw [ht, hn]
    exact h.byName

lemma name_inj (h : registry.Coherent K) (hr : registry.keysByName.get key = some reg)
    (hr' : registry.keysByName.get key' = some reg') (ht : reg.typeId = reg'.typeId) :
    key = key' := by
  have h₁ := h.byName key reg hr
  have h₂ := h.byName key' reg' hr'
  have hreg : some reg = some reg' := by rw [← h₁.2, ← h₂.2, ht]
  rw [← h₁.1, ← h₂.1, Option.some.inj hreg]

lemma type_absent (h : registry.Coherent K) (hb : reg.Built K)
    (hn : registry.keysByName.get reg.key = none) :
    registry.keysByType.get reg.typeId = none := by
  cases ht : registry.keysByType.get reg.typeId with
  | none => rfl
  | some old =>
    obtain ⟨htype, hold, hname⟩ := h.byType _ _ ht
    have hkey : old.key = reg.key := by rw [hold.key, hb.key, htype]
    rw [hkey, hn] at hname
    exact nomatch hname

lemma insertKey (h : registry.Coherent K) (hb : reg.Built K)
    (hn : registry.keysByName.get reg.key = none) : (registry.insertKey reg).Coherent K := by
  have habsent := h.type_absent hb hn
  constructor
  · intro k r hr
    simp only [PluginRegistry.insertKey, Table.get_insert] at hr ⊢
    by_cases hk : k = reg.typeId
    · rw [if_pos hk] at hr
      obtain rfl := Option.some.inj hr
      exact ⟨hk.symm, hb, if_pos rfl⟩
    · rw [if_neg hk] at hr
      obtain ⟨htype, hbuilt, hname⟩ := h.byType k r hr
      refine ⟨htype, hbuilt, ?_⟩
      rw [if_neg, hname]
      intro hkey
      rw [hkey, hn] at hname
      cases hname
  · intro name r hr
    simp only [PluginRegistry.insertKey, Table.get_insert] at hr ⊢
    by_cases hname : name = reg.key
    · rw [if_pos hname] at hr
      obtain rfl := Option.some.inj hr
      exact ⟨hname.symm, if_pos rfl⟩
    · rw [if_neg hname] at hr
      obtain ⟨hkey, htype⟩ := h.byName name r hr
      refine ⟨hkey, ?_⟩
      rw [if_neg, htype]
      intro ht
      rw [ht, habsent] at htype
      cases htype

lemma get_insertKey_of_ne (hne : key ≠ reg.key) :
    (registry.insertKey reg).keysByName.get key = registry.keysByName.get key := by
  rw [PluginRegistry.insertKey, Table.get_insert, if_neg hne]

lemma insertKeys {regs : List (KeyRegistration κ)} (h : registry.Coherent K)
    (hb : ∀ reg ∈ regs, reg.Built K) (hd : (regs.map (·.key)).Nodup)
    (hn : ∀ reg ∈ regs, registry.keysByName.get reg.key = none) :
    (regs.foldl PluginRegistry.insertKey registry).Coherent K := by
  induction regs generalizing registry with
  | nil => exact h
  | cons reg regs ih =>
    obtain ⟨hb₀, hb⟩ := List.forall_mem_cons.mp hb
    obtain ⟨hn₀, hn⟩ := List.forall_mem_cons.mp hn
    obtain ⟨hd₀, hd⟩ := List.nodup_cons.mp hd
    refine ih (h.insertKey hb₀ hn₀) hb hd ?_
    intro r hr
    rw [get_insertKey_of_ne, hn r hr]
    intro hkey
    exact hd₀ (List.mem_map.mpr ⟨r, hr, hkey⟩)

end PluginRegistry.Coherent

variable {store : StateStore K}

theorem coherent_installPluginWithKeys (h : store.registry.Coherent K) (name : String)
    {regs : List (KeyRegistration κ)} (hb : ∀ reg ∈ regs, reg.Built K)
    (hd : (regs.map (·.key)).Nodup) :
    (store.installPluginWithKeys name regs).2.registry.Coherent K := by
  unfold StateStore.installPluginWithKeys
  cases hp : (store.registry.plugins.get name).isSome with
  | true => exact h
  | false =>
    simp only [Bool.false_eq_true, if_false]
    cases hf : regs.find? (fun reg => (store.registry.keysByName.get reg.key).isSome) with
    | some reg => exact h
    | none =>
      refine (h.insertKeys hb hd ?_).of_indexes rfl rfl
      intro reg hreg
      simpa using List.find?_eq_none.mp hf reg hreg

theorem installPlugin_keeps {store' : StateStore K} {plugin : Plugin κ}
    (h : store.installPlugin plugin = (.ok (), store')) {key : String} {reg : KeyRegistration κ}
    (hk : store.registry.keysByName.get key = some reg) :
    store'.inner = store.inner ∧ store'.registry.keysByName.get key = some reg := by
  unfold StateStore.installPlugin at h
  cases hr : plugin.register K with
  | error e =>
    rw [hr] at h
    cases (Prod.mk.inj h).1
  | ok registrar =>
    rw [hr] at h
    dsimp only at h
    unfold StateStore.installPluginWithKeys at h
    split at h
    · cases (Prod.mk.inj h).1
    · split at h
      · cases (Prod.mk.inj h).1
      · rename_i hf
        obtain rfl := (Prod.mk.inj h).2
        refine ⟨rfl, ?_⟩
        change (registrar.keys.foldl PluginRegistry.insertKey store.registry).keysByName.get key = _
        rw [PluginRegistry.get_insertKeys, hk]
        intro r hmem heq
        have habsent := List.find?_eq_none.mp hf r hmem
        rw [heq, hk] at habsent
        exact habsent rfl

theorem coherent_installPlugin (h : store.registry.Coherent K) (plugin : Plugin κ) :
    (store.installPlugin plugin).2.registry.Coherent K := by
  unfold StateStore.installPlugin
  cases plugin.register K with
  | error e => exact h
  | ok registrar =>
    exact coherent_installPluginWithKeys h plugin.name registrar.built registrar.distinct

lemma commit_registry (store : StateStore K) (patch : MutationBatch K) :
    (store.commit patch).2.registry = store.registry := by
  unfold StateStore.commit
  split
  · rfl
  · split <;> rfl

end Coherent

end Awaken.State
