import Awaken.State.Persistence

namespace Awaken.State

open Awaken.Lib

variable {J κ : Type} [DecidableEq κ] {K : κ → StateKey J}

section Conditions

variable (K)

/-- Whether the loop stops at the entry: its key is unknown under the failing policy, or its value
does not decode. -/
def entryFails (registry : PluginRegistry κ) (policy : UnknownKeyPolicy)
    (wanted : KeyScope → Bool) (entry : String × J) : Bool :=
  match registry.keysByName.get entry.1 with
  | none => policy = .error
  | some reg => wanted reg.scope && !((K reg.typeId).codec.decode entry.2).isOk

variable {K}

def EntryStored (registry : PluginRegistry κ) (wanted : KeyScope → Bool) (map : StateMap K)
    (entry : String × J) : Prop :=
  ∀ reg value, target registry wanted entry.1 = some reg →
    (K reg.typeId).codec.decode entry.2 = .ok value → map reg.typeId = some value

/-- If an entry fails, all that are visited before it are stored already. -/
def VisitedStored (store : StateStore K) (persisted : PersistedState J)
    (policy : UnknownKeyPolicy) : Prop :=
  let fails := entryFails K store.registry policy (fun scope => scope = .thread)
  persisted.extensions.entries.any fails = true →
    ∀ entry ∈ persisted.extensions.entries.takeWhile (fun entry => !fails entry),
      EntryStored store.registry (fun scope => scope = .thread) store.inner.ext entry

/-- The snapshot has an entry for the key, of a scope that is wanted. -/
def Named (registry : PluginRegistry κ) (wanted : KeyScope → Bool) (persisted : PersistedState J)
    (k : κ) : Prop :=
  ∃ entry ∈ persisted.extensions.entries, ∃ reg,
    target registry wanted entry.1 = some reg ∧ reg.typeId = k

end Conditions

section Loop

variable {registry : PluginRegistry κ} {policy : UnknownKeyPolicy} {wanted : KeyScope → Bool}
  {map map' : StateMap K} {entry : String × J} {entries : List (String × J)}

lemma importEntry_fails (map : StateMap K) :
    (∃ e, importEntry registry policy wanted map entry = .error e) ↔
      entryFails K registry policy wanted entry = true := by
  unfold importEntry entryFails
  cases hget : registry.keysByName.get entry.1 with
  | none => cases policy <;> simp
  | some reg =>
    cases hw : wanted reg.scope with
    | false => simp [hw]
    | true =>
      simp only [hw, if_true, importKey, Bool.true_and]
      cases hd : (K reg.typeId).codec.decode entry.2 with
      | error e => exact iff_of_true ⟨_, rfl⟩ rfl
      | ok value => exact iff_of_false (fun ⟨_, h⟩ => nomatch h) nofun

lemma importEntries_fails (map : StateMap K) :
    (∃ e, (importEntries registry policy wanted entries map).1 = .error e) ↔
      entries.any (entryFails K registry policy wanted) = true := by
  induction entries generalizing map with
  | nil =>
    refine iff_of_false ?_ nofun
    rintro ⟨_, h⟩
    cases h
  | cons entry entries ih =>
    rw [List.any_cons, Bool.or_eq_true, ← importEntry_fails map]
    unfold importEntries
    cases hi : importEntry registry policy wanted map entry with
    | error e => exact iff_of_true ⟨e, rfl⟩ (.inl ⟨e, rfl⟩)
    | ok map₁ =>
      dsimp only
      rw [ih]
      refine (or_iff_right ?_).symm
      rintro ⟨_, h⟩
      cases h

lemma insert_stored {k : κ} {value : (K k).Value} (h : map k = some value) :
    map.insert k value = map := by
  rw [StateMap.insert, ← h, Function.update_eq_self]

lemma importEntry_stored (h : importEntry registry policy wanted map entry = .ok map') :
    map' = map ↔ EntryStored registry wanted map entry := by
  rcases importEntry_ok h with ⟨hnone, rfl⟩ | ⟨reg, value, ht, hd, rfl⟩
  · refine iff_of_true rfl ?_
    intro reg value ht
    exact nomatch hnone.symm.trans ht
  · constructor
    · intro hmap reg' value' ht' hd'
      obtain rfl := Option.some.inj (ht.symm.trans ht')
      obtain rfl := Except.ok.inj (hd.symm.trans hd')
      rw [← hmap]
      exact Function.update_self _ _ _
    · intro hs
      exact insert_stored (hs reg value ht hd)

theorem importEntries_unchanged (hc : registry.Coherent K) (hn : (entries.map Prod.fst).Nodup)
    {e : StateError} (h : importEntries registry policy wanted entries map = (.error e, map')) :
    map' = map ↔
      ∀ entry ∈ entries.takeWhile (fun entry => !entryFails K registry policy wanted entry),
        EntryStored registry wanted map entry := by
  induction entries generalizing map with
  | nil => cases (Prod.mk.inj h).1
  | cons entry entries ih =>
    obtain ⟨hhead, hn⟩ := List.nodup_cons.mp hn
    unfold importEntries at h
    cases hi : importEntry registry policy wanted map entry with
    | error e' =>
      rw [hi] at h
      have hf : entryFails K registry policy wanted entry = true := (importEntry_fails map).mp ⟨e', hi⟩
      rw [List.takeWhile_cons_of_neg (by simp [hf])]
      exact iff_of_true (Prod.mk.inj h).2.symm (by simp)
    | ok map₁ =>
      rw [hi] at h
      have hf : entryFails K registry policy wanted entry = false := by
        rw [Bool.eq_false_iff, ne_eq, ← importEntry_fails map, hi]
        rintro ⟨_, h⟩
        cases h
      rw [List.takeWhile_cons_of_pos (by simp [hf]), List.forall_mem_cons,
        ← importEntry_stored hi]
      constructor
      · intro hmap
        -- no later entry is decoded for the same key, so what this one wrote is still there
        have hstored : map₁ = map := by
          rw [importEntry_stored hi]
          intro reg value ht hd
          rcases importEntry_ok hi with ⟨hnone, -⟩ | ⟨reg', value', ht', hd', rfl⟩
          · cases hnone.symm.trans ht
          · obtain rfl := Option.some.inj (ht.symm.trans ht')
            obtain rfl := Except.ok.inj (hd.symm.trans hd')
            rw [← hmap, importEntries_frame reg.typeId h]
            · exact Function.update_self _ _ _
            · intro other hother reg' hr' htype
              have hname := hc.name_inj (Option.filter_eq_some_iff.mp hr').1
                (Option.filter_eq_some_iff.mp ht).1 htype
              exact hhead (List.mem_map.mpr ⟨other, hother, hname⟩)
        rw [hstored] at h
        exact ⟨hstored, (ih hn h).mp hmap⟩
      · rintro ⟨rfl, hrest⟩
        exact (ih hn h).mpr hrest

end Loop

section Restores

variable {store : StateStore K} {persisted : PersistedState J} {policy : UnknownKeyPolicy}

lemma restoreThreadScoped_unchanged (hc : store.registry.Coherent K) :
    (∀ e, (store.restoreThreadScoped persisted policy).1 = .error e →
      (store.restoreThreadScoped persisted policy).2 = store) ↔
    VisitedStored store persisted policy := by
  unfold StateStore.restoreThreadScoped VisitedStored
  dsimp only
  rw [← importEntries_fails store.inner.ext]
  cases hi : importEntries store.registry policy (fun scope => decide (scope = .thread))
      persisted.extensions.entries store.inner.ext with
  | mk result ext =>
    cases result with
    | ok u => exact iff_of_true (fun _ h => nomatch h) (fun ⟨_, h⟩ => nomatch h)
    | error e =>
      rw [← importEntries_unchanged hc persisted.extensions.nodup hi]
      constructor
      · intro h _
        have hs := h e rfl
        exact congrArg (fun s : StateStore K => s.inner.ext) hs
      · intro h e' _
        obtain rfl := h ⟨e, rfl⟩
        rfl

lemma importEntries_unnamed {registry : PluginRegistry κ} {wanted : KeyScope → Bool}
    {map map' : StateMap K} {result : Except StateError Unit} {k : κ}
    (hi : importEntries registry policy wanted persisted.extensions.entries map = (result, map'))
    (hk : ¬ Named registry wanted persisted k) : map' k = map k := by
  refine importEntries_frame k hi ?_
  intro entry hentry reg ht htype
  exact hk ⟨entry, hentry, reg, ht, htype⟩

/-- A restore that fails changes nothing, except that `restore_thread_scoped` keeps what it has
decoded by then; one that succeeds changes the keys that the snapshot names, and those of every
scope where it puts the snapshot in the place of the whole map. -/
theorem restores_atomic (store : StateStore K) (hc : store.registry.Coherent K)
    (persisted : PersistedState J) (policy : UnknownKeyPolicy) :
    (∀ e, (store.restorePersisted persisted policy).1 = .error e →
      (store.restorePersisted persisted policy).2 = store) ∧
    (∀ e, (store.applySeed persisted policy).1 = .error e →
      (store.applySeed persisted policy).2 = store) ∧
    ((store.restorePersisted persisted policy).1 = .ok () →
      (store.restorePersisted persisted policy).2.revision = persisted.revision ∧
      ∀ k, ¬ Named store.registry (fun _ => true) persisted k →
        (store.restorePersisted persisted policy).2.read k = none) ∧
    ((store.applySeed persisted policy).1 = .ok () →
      (store.applySeed persisted policy).2.revision = store.revision ∧
      ∀ k, ¬ Named store.registry (fun _ => true) persisted k →
        (store.applySeed persisted policy).2.read k = store.read k) ∧
    ((store.restoreThreadScoped persisted policy).1 = .ok () →
      (store.restoreThreadScoped persisted policy).2.revision = store.revision ∧
      ∀ k, ¬ Named store.registry (fun scope => scope = .thread) persisted k →
        (store.restoreThreadScoped persisted policy).2.read k = store.read k) ∧
    ((∀ e, (store.restoreThreadScoped persisted policy).1 = .error e →
      (store.restoreThreadScoped persisted policy).2 = store) ↔
      VisitedStored store persisted policy) := by
  refine ⟨?_, ?_, ?_, ?_, ?_, restoreThreadScoped_unchanged hc⟩
  · intro e
    unfold StateStore.restorePersisted
    cases importEntries store.registry policy (fun _ => true) persisted.extensions.entries
        (StateMap.empty : StateMap K) with
    | mk result ext =>
      cases result with
      | error e' => exact fun _ => rfl
      | ok u => exact fun h => nomatch h
  · intro e
    unfold StateStore.applySeed
    cases importEntries store.registry policy (fun _ => true) persisted.extensions.entries
        store.inner.ext with
    | mk result ext =>
      cases result with
      | error e' => exact fun _ => rfl
      | ok u => exact fun h => nomatch h
  · unfold StateStore.restorePersisted
    cases hi : importEntries store.registry policy (fun _ => true) persisted.extensions.entries
        (StateMap.empty : StateMap K) with
    | mk result ext =>
      cases result with
      | error e' => exact fun h => nomatch h
      | ok u => exact fun _ => ⟨rfl, fun k hk => importEntries_unnamed hi hk⟩
  · unfold StateStore.applySeed
    cases hi : importEntries store.registry policy (fun _ => true) persisted.extensions.entries
        store.inner.ext with
    | mk result ext =>
      cases result with
      | error e' => exact fun h => nomatch h
      | ok u => exact fun _ => ⟨rfl, fun k hk => importEntries_unnamed hi hk⟩
  · unfold StateStore.restoreThreadScoped
    cases hi : importEntries store.registry policy (fun scope => decide (scope = .thread))
        persisted.extensions.entries store.inner.ext with
    | mk result ext => exact fun _ => ⟨rfl, fun k hk => importEntries_unnamed hi hk⟩

def threadCounters : Bool → StateKey Nat := fun name =>
  { key := if name then "a" else "b", merge := .exclusive, Value := Nat, Update := Nat, default := 0
    apply := fun _ value => value
    codec := ⟨.ok, fun json =>
      if json < 10 then .ok json else .error (.keyDecode "b" "out of range")⟩ }

def threadPlugin : Plugin Bool :=
  ⟨"counters", [(true, ⟨true, false, .thread⟩), (false, ⟨true, false, .thread⟩)]⟩

def threadStore : StateStore threadCounters := (StateStore.new.installPlugin threadPlugin).2

lemma threadStore_coherent : threadStore.registry.Coherent threadCounters :=
  coherent_installPlugin .empty threadPlugin

def countedStore : StateStore threadCounters :=
  (threadStore.restoreThreadScoped ⟨0, Table.empty.insert "a" 1⟩ .error).2

def failingSnapshot : PersistedState Nat := ⟨0, (Table.empty.insert "a" 1).insert "b" 10⟩

theorem restores_atomic_counters :
    (countedStore.restoreThreadScoped failingSnapshot .error).1 =
        .error (.keyDecode "b" "out of range") ∧
      (countedStore.restoreThreadScoped failingSnapshot .error).2 = countedStore := by
  refine ⟨rfl, (restores_atomic countedStore threadStore_coherent failingSnapshot
    .error).2.2.2.2.2.mpr ?_ (.keyDecode "b" "out of range") rfl⟩
  intro _ entry hentry
  obtain rfl := List.mem_singleton.mp (show entry ∈ [("a", 1)] from hentry)
  intro reg value ht hd
  cases Option.some.inj ht
  cases hd
  rfl

theorem failed_restore_writes :
    ¬ ∀ e, (threadStore.restoreThreadScoped
          ⟨0, (Table.empty.insert "a" 1).insert "b" 10⟩ .error).1 = .error e →
        (threadStore.restoreThreadScoped
          ⟨0, (Table.empty.insert "a" 1).insert "b" 10⟩ .error).2 = threadStore := by
  intro h
  have hs := h (.keyDecode "b" "out of range") rfl
  have hv : (some 1 : Option Nat) = none := congrArg (fun store => store.read true) hs
  exact nomatch hv

end Restores

end Awaken.State
