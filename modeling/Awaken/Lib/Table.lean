import Mathlib.Data.List.MinMax
import Mathlib.Data.List.Nodup
import Awaken.Lib.Outcome

/-! Finite maps with an explicit iteration order. Two tables that hold the same entries in
another order are related by `Reorders`, so a hash map is a table up to `Reorders`. -/

namespace Awaken.Lib

structure Table (κ ν : Type) where
  entries : List (κ × ν)
  nodup : (entries.map Prod.fst).Nodup

namespace Table

variable {κ ν : Type}

def empty : Table κ ν := ⟨[], by simp⟩

def keys (t : Table κ ν) : List κ := t.entries.map Prod.fst

def values (t : Table κ ν) : List ν := t.entries.map Prod.snd

def Reorders (t u : Table κ ν) : Prop := t.entries.Perm u.entries

theorem Reorders.refl (t : Table κ ν) : t.Reorders t := List.Perm.refl _

def mapValues {μ : Type} (f : κ → ν → μ) (t : Table κ ν) : Table κ μ :=
  ⟨t.entries.map (fun e => (e.1, f e.1 e.2)), by simpa [Function.comp_def] using t.nodup⟩

def filter (p : κ → ν → Bool) (t : Table κ ν) : Table κ ν :=
  ⟨t.entries.filter (fun e => p e.1 e.2), t.nodup.sublist (List.filter_sublist.map _)⟩

variable [DecidableEq κ]

def get (t : Table κ ν) (k : κ) : Option ν :=
  (t.entries.find? (fun e => e.1 = k)).map Prod.snd

def modify (t : Table κ ν) (k : κ) (f : ν → ν) : Table κ ν :=
  t.mapValues (fun k' v => if k' = k then f v else v)

def insert (t : Table κ ν) (k : κ) (v : ν) : Table κ ν :=
  if h : k ∈ t.keys then t.modify k (fun _ => v)
  else ⟨t.entries ++ [(k, v)], by
    rw [List.map_append, List.nodup_append]
    refine ⟨t.nodup, by simp, ?_⟩
    intro a ha b hb hab
    simp only [List.map_cons, List.map_nil, List.mem_singleton] at hb
    exact h (hb ▸ hab ▸ ha)⟩

def remove (t : Table κ ν) (k : κ) : Table κ ν := t.filter (fun k' _ => k' ≠ k)

theorem get_eq_some {t : Table κ ν} {k : κ} {v : ν} : t.get k = some v ↔ (k, v) ∈ t.entries := by
  obtain ⟨es, hn⟩ := t
  simp only [get]
  induction es with
  | nil => simp
  | cons e es ih =>
    rw [List.map_cons, List.nodup_cons] at hn
    by_cases he : e.1 = k
    · have hk : (k, v) ∉ es := fun hm => hn.1 (List.mem_map.mpr ⟨(k, v), hm, he.symm⟩)
      simp only [List.find?_cons, he, decide_true, Option.map_some, Option.some.injEq, List.mem_cons,
        hk, or_false]
      constructor
      · rintro rfl
        exact Prod.ext he.symm rfl
      · rintro rfl
        rfl
    · have hne : (k, v) ≠ e := fun h => he (h ▸ rfl)
      simpa [List.find?_cons, he, hne] using ih hn.2

theorem get_eq_none {t : Table κ ν} {k : κ} : t.get k = none ↔ k ∉ t.keys := by
  rw [← Option.not_isSome_iff_eq_none, not_iff_not, Option.isSome_iff_exists]
  constructor
  · rintro ⟨v, hv⟩
    exact List.mem_map.mpr ⟨(k, v), (get_eq_some).mp hv, rfl⟩
  · intro hk
    obtain ⟨⟨k', v⟩, hm, rfl⟩ := List.mem_map.mp hk
    exact ⟨v, (get_eq_some).mpr hm⟩

@[simp] theorem get_empty (k : κ) : (empty : Table κ ν).get k = none := rfl

theorem mem_values {t : Table κ ν} {v : ν} : v ∈ t.values ↔ ∃ k, t.get k = some v := by
  simp [values, get_eq_some]

@[simp] theorem get_mapValues {μ : Type} (f : κ → ν → μ) (t : Table κ ν) (k : κ) :
    (t.mapValues f).get k = (t.get k).map (f k) := by
  ext w
  rw [get_eq_some, Option.map_eq_some_iff]
  simp only [mapValues, List.mem_map, Prod.mk.injEq, get_eq_some]
  constructor
  · rintro ⟨⟨k', v⟩, hm, rfl, rfl⟩
    exact ⟨v, hm, rfl⟩
  · rintro ⟨v, hm, rfl⟩
    exact ⟨(k, v), hm, rfl, rfl⟩

theorem get_modify (t : Table κ ν) (k k' : κ) (f : ν → ν) :
    (t.modify k f).get k' = if k' = k then (t.get k').map f else t.get k' := by
  rw [modify, get_mapValues]
  split <;> simp

@[simp] theorem get_modify_self (t : Table κ ν) (k : κ) (f : ν → ν) :
    (t.modify k f).get k = (t.get k).map f := by
  simp [get_modify]

theorem get_modify_of_ne {t : Table κ ν} {k k' : κ} {f : ν → ν} (h : k' ≠ k) :
    (t.modify k f).get k' = t.get k' := by
  simp [get_modify, h]

theorem get_insert (t : Table κ ν) (k k' : κ) (v : ν) :
    (t.insert k v).get k' = if k' = k then some v else t.get k' := by
  unfold insert
  split
  · next hk =>
    rw [get_modify]
    split
    · next he =>
      obtain ⟨w, hw⟩ := Option.ne_none_iff_exists'.mp (fun h => (get_eq_none.mp h) (he ▸ hk))
      simp [hw]
    · rfl
  · next hk =>
    ext w
    rw [get_eq_some]
    split
    · next he =>
      have hw : (k, w) ∉ t.entries := fun hm => hk (List.mem_map.mpr ⟨_, hm, rfl⟩)
      simp [hw, he, eq_comm]
    · next he => simp [get_eq_some, he]

@[simp] theorem get_filter (p : κ → ν → Bool) (t : Table κ ν) (k : κ) :
    (t.filter p).get k = (t.get k).filter (p k) := by
  ext w
  rw [get_eq_some, Option.filter_eq_some_iff, get_eq_some]
  simp [filter]

theorem get_remove (t : Table κ ν) (k k' : κ) :
    (t.remove k).get k' = if k' = k then none else t.get k' := by
  rw [remove, get_filter]
  by_cases h : k' = k
  · cases t.get k' <;> simp [h, Option.filter]
  · cases t.get k' <;> simp [h, Option.filter]

theorem Reorders.get {t u : Table κ ν} (h : t.Reorders u) (k : κ) : t.get k = u.get k := by
  ext v
  rw [get_eq_some, get_eq_some]
  exact List.Perm.mem_iff h

theorem exists_first {t : Table κ ν} {k : κ} {v : ν} (h : t.get k = some v) :
    ∃ u, t.Reorders u ∧ ∃ es, u.entries = (k, v) :: es := by
  obtain ⟨before, after, he⟩ := List.append_of_mem (get_eq_some.mp h)
  have hp : t.entries.Perm ((k, v) :: (before ++ after)) := he ▸ List.perm_middle
  exact ⟨⟨_, (hp.map Prod.fst).nodup_iff.mp t.nodup⟩, hp, before ++ after, rfl⟩

theorem any_values {t : Table κ ν} {p : ν → Bool} :
    t.values.any p = true ↔ ∃ k v, t.get k = some v ∧ p v = true := by
  rw [List.any_eq_true]
  constructor
  · rintro ⟨v, hv, hp⟩
    obtain ⟨k, hk⟩ := (mem_values).mp hv
    exact ⟨k, v, hk, hp⟩
  · rintro ⟨k, v, hk, hp⟩
    exact ⟨v, (mem_values).mpr ⟨k, hk⟩, hp⟩

section Alignment

variable {μ : Type}

theorem entries_eq (t : Table κ ν) :
    t.entries = t.keys.filterMap (fun k => (t.get k).map (Prod.mk k)) := by
  rw [keys, List.filterMap_map]
  conv_lhs => rw [← List.filterMap_some (l := t.entries)]
  refine List.filterMap_congr (fun e he => ?_)
  rw [Function.comp_apply, (get_eq_some).mpr he]
  rfl

theorem ext_get {t u : Table κ ν} (hk : t.keys = u.keys) (hg : ∀ k, t.get k = u.get k) : t = u := by
  have he : t.entries = u.entries := by
    rw [entries_eq t, entries_eq u, hk]
    exact List.filterMap_congr (fun k _ => by rw [hg])
  cases t
  cases u
  cases he
  rfl

omit [DecidableEq κ] in
@[simp] theorem keys_mapValues (f : κ → ν → μ) (t : Table κ ν) : (t.mapValues f).keys = t.keys := by
  simp [keys, mapValues, Function.comp_def]

theorem eq_mapValues {t : Table κ μ} {u : Table κ ν} {f : κ → ν → μ} (hk : u.keys = t.keys)
    (hg : ∀ k, t.get k = (u.get k).map (f k)) : t = u.mapValues f :=
  ext_get (by rw [keys_mapValues, hk]) (fun k => by rw [get_mapValues, hg])

theorem filterMap_get_keys {u : Table κ ν} {ks : List κ} (h : ∀ k ∈ ks, (u.get k).isSome) :
    (ks.filterMap (fun k => (u.get k).map (Prod.mk k))).map Prod.fst = ks := by
  induction ks with
  | nil => rfl
  | cons k ks ih =>
    obtain ⟨v, hv⟩ := Option.isSome_iff_exists.mp (h k List.mem_cons_self)
    rw [List.filterMap_cons_some (by rw [hv, Option.map_some]), List.map_cons,
      ih (fun j hj => h j (List.mem_cons_of_mem _ hj))]

theorem exists_aligned {t : Table κ μ} {u : Table κ ν}
    (h : ∀ k, (t.get k).isSome = (u.get k).isSome) : ∃ u', u.Reorders u' ∧ u'.keys = t.keys := by
  have hs : ∀ k ∈ t.keys, (u.get k).isSome := by
    intro k hk
    rw [← h k, Option.isSome_iff_ne_none]
    exact fun hn => (get_eq_none).mp hn hk
  have hkeys := filterMap_get_keys hs
  have hn : ((t.keys.filterMap (fun k => (u.get k).map (Prod.mk k))).map Prod.fst).Nodup := by
    rw [hkeys]
    exact t.nodup
  refine ⟨⟨t.keys.filterMap (fun k => (u.get k).map (Prod.mk k)), hn⟩, ?_, hkeys⟩
  refine (List.perm_ext_iff_of_nodup (List.Nodup.of_map Prod.fst u.nodup)
    (List.Nodup.of_map Prod.fst hn)).mpr (fun e => ?_)
  obtain ⟨k, v⟩ := e
  rw [← get_eq_some, List.mem_filterMap]
  constructor
  · intro hv
    refine ⟨k, ?_, by rw [hv, Option.map_some]⟩
    by_contra hk
    have hnone := h k
    rw [(get_eq_none).mpr hk, hv] at hnone
    exact nomatch hnone
  · rintro ⟨j, _, hj⟩
    obtain ⟨w, hw, he⟩ := Option.map_eq_some_iff.mp hj
    cases he
    exact hw

end Alignment

theorem get_foldl_modify {ks : List κ} (hn : ks.Nodup) (f : ν → ν) (t : Table κ ν) (k : κ) :
    (ks.foldl (fun t j => t.modify j f) t).get k = if k ∈ ks then (t.get k).map f else t.get k := by
  induction ks generalizing t with
  | nil => simp
  | cons j ks ih =>
    rw [List.nodup_cons] at hn
    rw [List.foldl_cons, ih hn.2, get_modify]
    by_cases hj : k = j
    · simp [hj, hn.1]
    · simp [hj]

theorem get_foldl_modify_idempotent {f : ν → ν} (hf : ∀ v, f (f v) = f v) (ks : List κ)
    (t : Table κ ν) (k : κ) :
    (ks.foldl (fun t j => t.modify j f) t).get k = if k ∈ ks then (t.get k).map f else t.get k := by
  induction ks generalizing t with
  | nil => simp
  | cons j ks ih =>
    rw [List.foldl_cons, ih, get_modify]
    by_cases hj : k = j
    · subst hj
      by_cases hk : k ∈ ks <;> simp [hk, Function.comp_def, hf]
    · simp [hj]

section Part

def part (p : κ → Bool) (t : Table κ ν) : Table κ ν := t.filter (fun k _ => p k)

variable {p q : κ → Bool} {t : Table κ ν}

omit [DecidableEq κ] in
theorem ext_entries {t u : Table κ ν} (h : t.entries = u.entries) : t = u := by
  cases t
  cases u
  cases h
  rfl

omit [DecidableEq κ] in
theorem entries_part : (t.part p).entries = t.entries.filter (fun e => p e.1) := rfl

theorem get_part (k : κ) : (t.part p).get k = if p k then t.get k else none := by
  rw [part, get_filter]
  cases p k <;> cases t.get k <;> rfl

theorem mem_keys_part {k : κ} : k ∈ (t.part p).keys ↔ k ∈ t.keys ∧ p k = true := by
  have h := not_congr (get_eq_none (t := t.part p) (k := k))
  have h' := not_congr (get_eq_none (t := t) (k := k))
  rw [not_not] at h h'
  rw [← h, ← h', get_part]
  cases p k <;> simp

omit [DecidableEq κ] in
theorem part_part : (t.part p).part q = t.part (fun k => p k && q k) :=
  ext_entries (by simp only [entries_part, List.filter_filter, Bool.and_comm])

omit [DecidableEq κ] in
theorem part_mapValues {μ : Type} (f : κ → ν → μ) :
    (t.mapValues f).part p = (t.part p).mapValues f :=
  ext_entries (by
    simp only [part, filter, mapValues, List.filter_map]
    rfl)

theorem part_modify (k : κ) (f : ν → ν) : (t.modify k f).part p = (t.part p).modify k f :=
  part_mapValues _

theorem part_modify_of_not {k : κ} (hk : p k = false) (f : ν → ν) :
    (t.modify k f).part p = t.part p := by
  rw [part_modify]
  refine ext_entries ?_
  simp only [modify, mapValues, entries_part]
  conv_rhs => rw [← List.map_id (t.entries.filter (fun e => p e.1))]
  refine List.map_congr_left (fun e he => ?_)
  have hne : e.1 ≠ k := by
    rintro rfl
    have hp := (List.mem_filter.mp he).2
    rw [hk] at hp
    exact nomatch hp
  simp [hne]

theorem part_insert {k : κ} (hk : p k = true) (v : ν) :
    (t.insert k v).part p = (t.part p).insert k v := by
  by_cases hm : k ∈ t.keys
  · have hm' : k ∈ (t.part p).keys := (mem_keys_part).mpr ⟨hm, hk⟩
    simp only [insert, hm, hm', dif_pos, part_modify]
  · have hm' : k ∉ (t.part p).keys := fun h => hm (mem_keys_part.mp h).1
    refine ext_entries ?_
    simp only [insert, hm, hm', dif_neg, not_false_eq_true, entries_part, List.filter_append]
    simp [hk]

theorem part_insert_of_not {k : κ} (hk : p k = false) (v : ν) :
    (t.insert k v).part p = t.part p := by
  by_cases hm : k ∈ t.keys
  · simp only [insert, hm, dif_pos, part_modify_of_not hk]
  · refine ext_entries ?_
    simp only [insert, hm, dif_neg, not_false_eq_true, entries_part, List.filter_append]
    simp [hk]

theorem filter_entries_part {r : ν → Bool}
    (h : ∀ k v, t.get k = some v → r v = true → p k = true) :
    (t.part p).entries.filter (fun e => r e.2) = t.entries.filter (fun e => r e.2) := by
  rw [entries_part, List.filter_filter]
  refine List.filter_congr (fun e he => ?_)
  cases hr : r e.2 with
  | false => rfl
  | true => rw [h e.1 e.2 (get_eq_some.mpr he) hr, Bool.and_true]

theorem filter_values_part {r : ν → Bool}
    (h : ∀ k v, t.get k = some v → r v = true → p k = true) :
    (t.part p).values.filter r = t.values.filter r := by
  simp only [values, List.filter_map]
  exact congrArg _ (filter_entries_part h)

theorem any_values_part {r : ν → Bool}
    (h : ∀ k v, t.get k = some v → r v = true → p k = true) :
    (t.part p).values.any r = t.values.any r := by
  rw [Bool.eq_iff_iff, any_values, any_values]
  constructor
  · rintro ⟨k, v, hk, hr⟩
    rw [get_part] at hk
    split at hk
    · exact ⟨k, v, hk, hr⟩
    · exact nomatch hk
  · rintro ⟨k, v, hk, hr⟩
    exact ⟨k, v, by rw [get_part, h k v hk hr]; exact hk, hr⟩

end Part

section Loops

variable {ε β : Type}

def sweepEntries (f : β → ν → Outcome ε β × ν) :
    β → List (κ × ν) → Outcome ε β × List (κ × ν)
  | b, [] => (.ok b, [])
  | b, e :: es =>
    match f b e.2 with
    | (.ok b', v) => ((sweepEntries f b' es).1, (e.1, v) :: (sweepEntries f b' es).2)
    | (.err x, v) => (.err x, (e.1, v) :: es)
    | (.panic, v) => (.panic, (e.1, v) :: es)

attribute [local simp] sweepEntries

omit [DecidableEq κ] in
theorem sweepEntries_keys (f : β → ν → Outcome ε β × ν) (b : β) (es : List (κ × ν)) :
    (sweepEntries f b es).2.map Prod.fst = es.map Prod.fst := by
  induction es generalizing b with
  | nil => rfl
  | cons e es ih =>
    unfold sweepEntries
    split
    · simp [ih]
    · rfl
    · rfl

/-- A loop over `values_mut`: every value is updated in turn, and the loop stops where the body
fails, with the entries updated so far. -/
def sweep (f : β → ν → Outcome ε β × ν) (b : β) (t : Table κ ν) : Outcome ε β × Table κ ν :=
  ((sweepEntries f b t.entries).1,
    ⟨(sweepEntries f b t.entries).2, by rw [sweepEntries_keys]; exact t.nodup⟩)

omit [DecidableEq κ] in
theorem sweepEntries_eq {f : β → ν → Outcome ε β × ν} {h : β → ν → β} {g : ν → ν}
    {es : List (κ × ν)} (hf : ∀ b, ∀ e ∈ es, f b e.2 = (.ok (h b e.2), g e.2)) (b : β) :
    sweepEntries f b es = (.ok ((es.map Prod.snd).foldl h b), es.map (fun e => (e.1, g e.2))) := by
  induction es generalizing b with
  | nil => rfl
  | cons e es ih =>
    have hi := ih (fun b e' he => hf b e' (List.mem_cons_of_mem _ he)) (h b e.2)
    simp only [sweepEntries, hf b e List.mem_cons_self, hi, List.map_cons, List.foldl_cons]

omit [DecidableEq κ] in
theorem sweep_eq {f : β → ν → Outcome ε β × ν} {h : β → ν → β} {g : ν → ν} {t : Table κ ν}
    (hf : ∀ b, ∀ v ∈ t.values, f b v = (.ok (h b v), g v)) (b : β) :
    t.sweep f b = (.ok (t.values.foldl h b), t.mapValues (fun _ => g)) := by
  have hb : ∀ b, ∀ e ∈ t.entries, f b e.2 = (.ok (h b e.2), g e.2) :=
    fun b e he => hf b e.2 (List.mem_map.mpr ⟨e, he, rfl⟩)
  have he := sweepEntries_eq hb b
  simp only [sweep, he]
  rfl

/-- A loop over a list of keys, each looked up with `get_mut` and updated in place; `missing` is
the error for a key that is not there. The values returned by the body are collected. -/
def updateEach (f : ν → Outcome ε (Option β) × ν) (missing : κ → ε) :
    Table κ ν → List κ → Outcome ε (List β) × Table κ ν
  | t, [] => (.ok [], t)
  | t, k :: ks =>
    match t.get k with
    | none => (.err (missing k), t)
    | some v =>
      match f v with
      | (.ok b, v') =>
        ((updateEach f missing (t.modify k (fun _ => v')) ks).1.map (b.toList ++ ·),
          (updateEach f missing (t.modify k (fun _ => v')) ks).2)
      | (.err x, v') => (.err x, t.modify k (fun _ => v'))
      | (.panic, v') => (.panic, t.modify k (fun _ => v'))

attribute [local simp] updateEach

theorem updateEach_absent {f : ν → Outcome ε (Option β) × ν} {missing : κ → ε} {t : Table κ ν}
    {k : κ} (hk : t.get k = none) (ks : List κ) :
    updateEach f missing t (k :: ks) = (.err (missing k), t) := by
  rw [updateEach, hk]

theorem updateEach_ok {f : ν → Outcome ε (Option β) × ν} {missing : κ → ε} {t : Table κ ν} {k : κ}
    {v v' : ν} {b : Option β} (hk : t.get k = some v) (hf : f v = (.ok b, v')) (ks : List κ) :
    updateEach f missing t (k :: ks) =
      ((updateEach f missing (t.modify k (fun _ => v')) ks).1.map (b.toList ++ ·),
        (updateEach f missing (t.modify k (fun _ => v')) ks).2) := by
  simp only [updateEach, hk, hf]

theorem updateEach_fail {f : ν → Outcome ε (Option β) × ν} {missing : κ → ε} {t : Table κ ν} {k : κ}
    {v : ν} (hk : t.get k = some v) (hf : ∀ b, (f v).1 ≠ .ok b) (ks : List κ) :
    (updateEach f missing t (k :: ks)).2 = t.modify k (fun _ => (f v).2) := by
  rcases h : f v with ⟨r, v'⟩
  cases r with
  | ok b => exact absurd (by rw [h]) (hf b)
  | err x => simp only [updateEach, hk, h]
  | panic => simp only [updateEach, hk, h]

theorem updateEach_congr {f g : ν → Outcome ε (Option β) × ν} (missing : κ → ε) {ks : List κ}
    (hn : ks.Nodup) {t : Table κ ν} (hfg : ∀ k ∈ ks, ∀ v, t.get k = some v → f v = g v) :
    updateEach f missing t ks = updateEach g missing t ks := by
  induction ks generalizing t with
  | nil => rfl
  | cons k ks ih =>
    rw [List.nodup_cons] at hn
    have hi : ∀ w, updateEach f missing (t.modify k (fun _ => w)) ks =
        updateEach g missing (t.modify k (fun _ => w)) ks := by
      refine fun w => ih hn.2 (fun j hj v hv => ?_)
      have hne : j ≠ k := fun h => hn.1 (h ▸ hj)
      rw [get_modify_of_ne hne] at hv
      exact hfg j (List.mem_cons_of_mem _ hj) v hv
    cases hv : t.get k with
    | none => simp only [updateEach, hv]
    | some v => simp only [updateEach, hv, hfg k List.mem_cons_self v hv, hi]

theorem updateEach_get (f : ν → Outcome ε (Option β) × ν) (missing : κ → ε) {ks : List κ}
    (hn : ks.Nodup) (t : Table κ ν) (k : κ) :
    (updateEach f missing t ks).2.get k = t.get k ∨
      k ∈ ks ∧ (updateEach f missing t ks).2.get k = (t.get k).map (fun v => (f v).2) := by
  induction ks generalizing t with
  | nil => exact Or.inl rfl
  | cons j ks ih =>
    rw [List.nodup_cons] at hn
    cases hj : t.get j with
    | none => exact Or.inl (by rw [updateEach_absent hj])
    | some v =>
      have hfirst : (t.modify j (fun _ => (f v).2)).get k = t.get k ∨
          k ∈ j :: ks ∧ (t.modify j (fun _ => (f v).2)).get k = (t.get k).map (fun v => (f v).2) := by
        by_cases hk : k = j
        · subst hk
          exact Or.inr ⟨List.mem_cons_self, by simp [hj]⟩
        · exact Or.inl (get_modify_of_ne hk)
      by_cases hok : ∃ b, (f v).1 = .ok b
      · obtain ⟨b, hb⟩ := hok
        have hv : f v = (.ok b, (f v).2) := Prod.ext hb rfl
        rw [updateEach_ok hj hv]
        rcases ih hn.2 (t.modify j (fun _ => (f v).2)) with hi | ⟨hk, hi⟩
        · exact hi ▸ hfirst
        · have hne : k ≠ j := fun h => hn.1 (h ▸ hk)
          rw [get_modify_of_ne hne] at hi
          exact Or.inr ⟨List.mem_cons_of_mem _ hk, hi⟩
      · rw [updateEach_fail hj (not_exists.mp hok)]
        exact hfirst

theorem updateEach_panic {f : ν → Outcome ε (Option β) × ν} {missing : κ → ε} {ks : List κ}
    (hn : ks.Nodup) {t : Table κ ν} (hp : (updateEach f missing t ks).1 = .panic) :
    ∃ k ∈ ks, ∃ v, t.get k = some v ∧ (f v).1 = .panic := by
  induction ks generalizing t with
  | nil => cases hp
  | cons j ks ih =>
    rw [List.nodup_cons] at hn
    cases hj : t.get j with
    | none =>
      rw [updateEach_absent hj] at hp
      cases hp
    | some v =>
      cases hv : (f v).1 with
      | ok b =>
        rw [updateEach_ok hj (Prod.ext hv rfl), Outcome.map_eq_panic] at hp
        obtain ⟨k, hk, w, hw, hf⟩ := ih hn.2 hp
        have hne : k ≠ j := fun h => hn.1 (h ▸ hk)
        rw [get_modify_of_ne hne] at hw
        exact ⟨k, List.mem_cons_of_mem _ hk, w, hw, hf⟩
      | err e =>
        rcases hfv : f v with ⟨o, w⟩
        simp only [hfv] at hv
        simp only [updateEach, hj, hfv, hv, reduceCtorEq] at hp
      | panic => exact ⟨j, List.mem_cons_self, v, hj, hv⟩

theorem updateEach_panic_head {f : ν → Outcome ε (Option β) × ν} {missing : κ → ε} {k : κ}
    {ks : List κ} {t : Table κ ν} {v : ν} (hk : t.get k = some v) (hf : (f v).1 = .panic) :
    (updateEach f missing t (k :: ks)).1 = .panic := by
  rcases hfv : f v with ⟨o, w⟩
  simp only [hfv] at hf
  simp only [updateEach, hk, hfv, hf]

theorem updateEach_err_head {f : ν → Outcome ε (Option β) × ν} {missing : κ → ε} {k : κ}
    {ks : List κ} {t : Table κ ν} {v : ν} {e : ε} (hk : t.get k = some v) (hf : (f v).1 = .err e) :
    updateEach f missing t (k :: ks) = (.err e, t.modify k (fun _ => (f v).2)) := by
  rcases hfv : f v with ⟨o, w⟩
  simp only [hfv] at hf
  simp only [updateEach, hk, hfv, hf]

theorem updateEach_fst_ok {f : ν → Outcome ε (Option β) × ν} {missing : κ → ε} {ks : List κ}
    (hn : ks.Nodup) {t : Table κ ν}
    (hf : ∀ k ∈ ks, ∃ v b, t.get k = some v ∧ (f v).1 = .ok b) :
    ∃ bs, (updateEach f missing t ks).1 = .ok bs := by
  induction ks generalizing t with
  | nil => exact ⟨[], rfl⟩
  | cons j ks ih =>
    rw [List.nodup_cons] at hn
    obtain ⟨v, b, hv, hb⟩ := hf j List.mem_cons_self
    have hrest : ∀ k ∈ ks, ∃ w c, (t.modify j (fun _ => (f v).2)).get k = some w ∧
        (f w).1 = .ok c := by
      intro k hk
      have hne : k ≠ j := fun h => hn.1 (h ▸ hk)
      rw [get_modify_of_ne hne]
      exact hf k (List.mem_cons_of_mem _ hk)
    obtain ⟨bs, hbs⟩ := ih hn.2 hrest
    rw [updateEach_ok hv (Prod.ext hb rfl), hbs]
    exact ⟨_, rfl⟩

theorem updateEach_ne_err {f : ν → Outcome ε (Option β) × ν} {missing : κ → ε}
    (hf : ∀ v e, (f v).1 ≠ .err e) {ks : List κ} {t : Table κ ν} (hk : ∀ k ∈ ks, k ∈ t.keys) :
    ∀ e, (updateEach f missing t ks).1 ≠ .err e := by
  induction ks generalizing t with
  | nil => simp
  | cons j ks ih =>
    obtain ⟨v, hv⟩ := Option.ne_none_iff_exists'.mp
      (fun h => get_eq_none.mp h (hk j List.mem_cons_self))
    rcases hfv : f v with ⟨o, w⟩
    cases o with
    | ok b =>
      have hrest : ∀ k ∈ ks, k ∈ (t.modify j (fun _ => w)).keys := by
        intro k hks
        rw [modify, keys_mapValues]
        exact hk k (List.mem_cons_of_mem _ hks)
      rw [updateEach_ok hv hfv]
      intro e he
      cases hu : (updateEach f missing (t.modify j (fun _ => w)) ks).1 with
      | err e' => exact ih hrest e' hu
      | ok bs => simp [hu] at he
      | panic => simp [hu] at he
    | err e' => exact absurd (congrArg Prod.fst hfv) (hf v e')
    | panic => simp [updateEach, hv, hfv]

theorem updateEach_get_ok (f : ν → Outcome ε (Option β) × ν) (missing : κ → ε) {ks : List κ}
    (hn : ks.Nodup) {t : Table κ ν}
    (hf : ∀ k ∈ ks, ∃ v b, t.get k = some v ∧ (f v).1 = .ok b) (k : κ) :
    (updateEach f missing t ks).2.get k =
      if k ∈ ks then (t.get k).map (fun v => (f v).2) else t.get k := by
  induction ks generalizing t with
  | nil => simp [updateEach]
  | cons j ks ih =>
    rw [List.nodup_cons] at hn
    obtain ⟨v, b, hv, hb⟩ := hf j List.mem_cons_self
    have hfv : f v = (.ok b, (f v).2) := Prod.ext hb rfl
    have hne : ∀ i ∈ ks, i ≠ j := fun i hi he => hn.1 (he ▸ hi)
    rw [updateEach_ok hv hfv]
    rw [ih hn.2 (fun i hi => by
      rw [get_modify_of_ne (hne i hi)]
      exact hf i (List.mem_cons_of_mem _ hi)), get_modify]
    by_cases hj : k = j
    · simp [hj, hn.1, hv]
    · simp [hj]

section Part

variable {p : κ → Bool}

omit [DecidableEq κ] in
theorem sweepEntries_part {f : β → ν → Outcome ε β × ν} {es : List (κ × ν)}
    (hf : ∀ b, ∀ e ∈ es, p e.1 = false → f b e.2 = (.ok b, e.2)) (b : β) :
    sweepEntries f b (es.filter (fun e => p e.1)) =
        ((sweepEntries f b es).1, (sweepEntries f b es).2.filter (fun e => p e.1)) ∧
      (sweepEntries f b es).2.filter (fun e => !p e.1) = es.filter (fun e => !p e.1) := by
  induction es generalizing b with
  | nil => exact ⟨rfl, rfl⟩
  | cons e es ih =>
    have hi := ih (fun b e' he => hf b e' (List.mem_cons_of_mem _ he))
    cases hp : p e.1 with
    | false =>
      have he := hf b e List.mem_cons_self hp
      simp only [List.filter_cons, sweepEntries, he, hp, Bool.not_false, if_true,
        Bool.false_eq_true, if_false, (hi b).1, (hi b).2, and_self]
    | true =>
      rcases hfe : f b e.2 with ⟨r, v⟩
      cases r with
      | ok b' =>
        simp only [List.filter_cons, sweepEntries, hfe, hp, Bool.not_true, if_true,
          Bool.false_eq_true, if_false, (hi b').1, (hi b').2, and_self]
      | err x =>
        simp only [List.filter_cons, sweepEntries, hfe, hp, Bool.not_true, if_true,
          Bool.false_eq_true, if_false, and_self]
      | panic =>
        simp only [List.filter_cons, sweepEntries, hfe, hp, Bool.not_true, if_true,
          Bool.false_eq_true, if_false, and_self]

theorem sweep_part {f : β → ν → Outcome ε β × ν} {t : Table κ ν}
    (hf : ∀ b k v, t.get k = some v → p k = false → f b v = (.ok b, v)) (b : β) :
    (t.part p).sweep f b = ((t.sweep f b).1, (t.sweep f b).2.part p) ∧
      (t.sweep f b).2.part (fun k => !p k) = t.part (fun k => !p k) := by
  have hes : ∀ b, ∀ e ∈ t.entries, p e.1 = false → f b e.2 = (.ok b, e.2) :=
    fun b e he hp => hf b e.1 e.2 (get_eq_some.mpr he) hp
  obtain ⟨ha, hr⟩ := sweepEntries_part hes b
  refine ⟨Prod.ext ?_ (ext_entries ?_), ext_entries hr⟩
  · simpa only [sweep, entries_part] using congrArg Prod.fst ha
  · simpa only [sweep, entries_part] using congrArg Prod.snd ha

theorem updateEach_part (f : ν → Outcome ε (Option β) × ν) (missing : κ → ε) {ks : List κ}
    (hk : ∀ k ∈ ks, p k = true) (t : Table κ ν) :
    updateEach f missing (t.part p) ks =
        ((updateEach f missing t ks).1, (updateEach f missing t ks).2.part p) ∧
      (updateEach f missing t ks).2.part (fun k => !p k) = t.part (fun k => !p k) := by
  induction ks generalizing t with
  | nil => exact ⟨rfl, rfl⟩
  | cons k ks ih =>
    have hi := ih (fun j hj => hk j (List.mem_cons_of_mem _ hj))
    have hp : p k = true := hk k List.mem_cons_self
    have hg : (t.part p).get k = t.get k := by rw [get_part, hp, if_pos rfl]
    cases hv : t.get k with
    | none => simp only [updateEach, hg, hv, and_self]
    | some v =>
      rcases hfv : f v with ⟨r, v'⟩
      have hm : (t.modify k (fun _ => v')).part (fun j => !p j) = t.part (fun j => !p j) :=
        part_modify_of_not (by simp [hp]) _
      cases r with
      | ok b =>
        refine ⟨?_, ?_⟩
        · simp only [updateEach, hg, hv, hfv, ← part_modify, (hi _).1]
        · simp only [updateEach, hv, hfv, (hi _).2, hm]
      | err x =>
        refine ⟨?_, ?_⟩
        · simp only [updateEach, hg, hv, hfv, part_modify]
        · simp only [updateEach, hv, hfv, hm]
      | panic =>
        refine ⟨?_, ?_⟩
        · simp only [updateEach, hg, hv, hfv, part_modify]
        · simp only [updateEach, hv, hfv, hm]

end Part

end Loops

section Room

variable {capacity : Nat} {rank : ν → Nat} {mayGo : κ → ν → Bool} {t u : Table κ ν} {key : κ}

def leastBy (rank : ν → Nat) (mayGo : κ → ν → Bool) (t : Table κ ν) : Option κ :=
  ((t.entries.filter (fun e => mayGo e.1 e.2)).argmin (fun e => rank e.2)).map Prod.fst

def makeRoom (capacity : Nat) (rank : ν → Nat) (mayGo : κ → ν → Bool) (t : Table κ ν) (key : κ) :
    Option (Table κ ν) :=
  if t.entries.length < capacity ∨ (t.get key).isSome = true then some t
  else (t.leastBy rank mayGo).map t.remove

omit [DecidableEq κ] in
lemma length_mapValues {μ : Type} (f : κ → ν → μ) (t : Table κ ν) :
    (t.mapValues f).entries.length = t.entries.length := List.length_map ..

lemma length_modify (t : Table κ ν) (key : κ) (f : ν → ν) :
    (t.modify key f).entries.length = t.entries.length := length_mapValues _ _

lemma length_insert (t : Table κ ν) (key : κ) (v : ν) :
    (t.insert key v).entries.length =
      if (t.get key).isSome = true then t.entries.length else t.entries.length + 1 := by
  have hmem : key ∈ t.keys ↔ (t.get key).isSome = true := by
    rw [Option.isSome_iff_ne_none, ne_eq, (get_eq_none), not_not]
  unfold insert
  split
  · next hkey => rw [if_pos ((hmem).mp hkey), length_modify]
  · next hkey => rw [if_neg (mt (hmem).mpr hkey), List.length_append, List.length_singleton]

lemma length_remove {v : ν} (h : t.get key = some v) :
    (t.remove key).entries.length + 1 = t.entries.length := by
  have hkeys : (t.remove key).keys = t.keys.erase key := by
    have herase : t.keys.erase key = t.keys.filter (· != key) :=
      List.Nodup.erase_eq_filter t.nodup key
    rw [herase, remove, filter, keys, keys, List.filter_map]
    refine congrArg (List.map Prod.fst) (List.filter_congr (fun e _ => ?_))
    by_cases hkey : e.1 = key <;> simp [hkey]
  have hmem : key ∈ t.keys := List.mem_map.mpr ⟨(key, v), (get_eq_some).mp h, rfl⟩
  have hlength := congrArg List.length hkeys
  rw [List.length_erase_of_mem hmem, keys, keys, List.length_map, List.length_map] at hlength
  have hpos : 0 < t.entries.length := List.length_pos_of_mem ((get_eq_some).mp h)
  omega

lemma leastBy_some {victim : κ} (h : t.leastBy rank mayGo = some victim) :
    ∃ v, t.get victim = some v ∧ mayGo victim v = true ∧
      ∀ k w, t.get k = some w → mayGo k w = true → rank v ≤ rank w := by
  obtain ⟨⟨_, v⟩, hmin, rfl⟩ := Option.map_eq_some_iff.mp h
  have hmem := List.mem_filter.mp (List.argmin_mem hmin)
  refine ⟨v, (get_eq_some).mpr hmem.1, hmem.2, fun k w hk hw => ?_⟩
  have hkept : (k, w) ∈ t.entries.filter (fun e => mayGo e.1 e.2) :=
    List.mem_filter.mpr ⟨(get_eq_some).mp hk, hw⟩
  exact List.le_of_mem_argmin (f := fun e : κ × ν => rank e.2) hkept hmin

lemma leastBy_none (h : t.leastBy rank mayGo = none) {k : κ} {w : ν} (hk : t.get k = some w) :
    mayGo k w = false := by
  have hempty := List.argmin_eq_none.mp (Option.map_eq_none_iff.mp h)
  have hnot := List.filter_eq_nil_iff.mp hempty (k, w) ((get_eq_some).mp hk)
  simpa using hnot

structure Goes (capacity : Nat) (rank : ν → Nat) (mayGo : κ → ν → Bool) (t : Table κ ν)
    (key victim : κ) : Prop where
  full : capacity ≤ t.entries.length
  absent : t.get key = none
  least : ∃ v, t.get victim = some v ∧ mayGo victim v = true ∧
    ∀ k w, t.get k = some w → mayGo k w = true → rank v ≤ rank w

lemma makeRoom_cases (h : t.makeRoom capacity rank mayGo key = some u) :
    (u = t ∧ (t.entries.length < capacity ∨ (t.get key).isSome = true)) ∨
      ∃ victim, u = t.remove victim ∧ t.Goes capacity rank mayGo key victim := by
  unfold makeRoom at h
  split at h
  · next hroom => exact .inl ⟨(Option.some.inj h).symm, hroom⟩
  · next hfull =>
    obtain ⟨victim, hvictim, rfl⟩ := Option.map_eq_some_iff.mp h
    rw [not_or, Nat.not_lt, Bool.not_eq_true, Option.isSome_eq_false_iff,
      Option.isNone_iff_eq_none] at hfull
    exact .inr ⟨victim, rfl, hfull.1, hfull.2, leastBy_some hvictim⟩

lemma length_makeRoom {v : ν} (h : t.makeRoom capacity rank mayGo key = some u)
    (ht : t.entries.length ≤ capacity) : (u.insert key v).entries.length ≤ capacity := by
  cases makeRoom_cases h with
  | inl hroom =>
    obtain ⟨rfl, hroom⟩ := hroom
    rw [length_insert]
    split
    · exact ht
    · next habsent => exact hroom.resolve_right habsent
  | inr hgone =>
    obtain ⟨victim, rfl, hgoes⟩ := hgone
    obtain ⟨w, hw, -, -⟩ := hgoes.least
    have hremoved := length_remove hw
    rw [length_insert]
    split <;> omega

lemma get_makeRoom (h : t.makeRoom capacity rank mayGo key = some u) (k : κ) :
    u.get k = t.get k ∨ (u.get k = none ∧ t.Goes capacity rank mayGo key k) := by
  cases makeRoom_cases h with
  | inl hroom => exact .inl (by rw [hroom.1])
  | inr hgone =>
    obtain ⟨victim, rfl, hgoes⟩ := hgone
    rw [get_remove]
    by_cases hk : k = victim
    · subst hk
      exact .inr ⟨if_pos rfl, hgoes⟩
    · exact .inl (if_neg hk)

lemma get_makeRoom_self (h : t.makeRoom capacity rank mayGo key = some u) :
    u.get key = t.get key := by
  cases get_makeRoom h key with
  | inl hkept => exact hkept
  | inr hgone => rw [hgone.1, hgone.2.absent]

lemma makeRoom_none (h : t.makeRoom capacity rank mayGo key = none) :
    capacity ≤ t.entries.length ∧ t.get key = none ∧
      ∀ k w, t.get k = some w → mayGo k w = false := by
  unfold makeRoom at h
  split at h
  · cases h
  · next hfull =>
    rw [not_or, Nat.not_lt, Bool.not_eq_true, Option.isSome_eq_false_iff,
      Option.isNone_iff_eq_none] at hfull
    exact ⟨hfull.1, hfull.2, fun k w => leastBy_none (Option.map_eq_none_iff.mp h)⟩

end Room

end Table

end Awaken.Lib
