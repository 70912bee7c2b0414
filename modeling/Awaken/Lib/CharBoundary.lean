import Mathlib.Algebra.GroupWithZero.Nat
import Mathlib.Data.List.Basic
import Mathlib.Tactic.Lemma
import Awaken.Lib.Utf8

namespace Awaken.Lib

def utf8Len (text : List Char) : Nat := (text.map Char.utf8Size).sum

@[simp] lemma utf8Len_nil : utf8Len [] = 0 := rfl

@[simp] lemma utf8Len_cons (c : Char) (text : List Char) :
    utf8Len (c :: text) = c.utf8Size + utf8Len text := by
  simp [utf8Len]

@[simp] lemma utf8Len_append (front back : List Char) :
    utf8Len (front ++ back) = utf8Len front + utf8Len back := by
  simp [utf8Len]

lemma length_utf8Bytes (text : List Char) : (utf8Bytes text).length = utf8Len text := by
  induction text with
  | nil => rfl
  | cons c text ih =>
    rw [utf8Bytes_cons, List.length_append, String.length_utf8EncodeChar, ih, utf8Len_cons]

def sliceFrom : List Char → Nat → Option (List Char)
  | text, 0 => some text
  | [], _ + 1 => none
  | c :: text, n + 1 =>
    if c.utf8Size ≤ n + 1 then sliceFrom text (n + 1 - c.utf8Size) else none

def sliceTo : List Char → Nat → Option (List Char)
  | _, 0 => some []
  | [], _ + 1 => none
  | c :: text, n + 1 =>
    if c.utf8Size ≤ n + 1 then (sliceTo text (n + 1 - c.utf8Size)).map (c :: ·) else none

def slice (text : List Char) (start stop : Nat) : Option (List Char) :=
  if start ≤ stop then (sliceFrom text start).bind (sliceTo · (stop - start)) else none

def IsCharBoundary (text : List Char) (offset : Nat) : Prop := (sliceFrom text offset).isSome

instance (text : List Char) (offset : Nat) : Decidable (IsCharBoundary text offset) :=
  inferInstanceAs (Decidable ((sliceFrom text offset).isSome = true))

@[simp] lemma sliceFrom_zero (text : List Char) : sliceFrom text 0 = some text := by
  cases text <;> rfl

@[simp] lemma sliceTo_zero (text : List Char) : sliceTo text 0 = some [] := by
  cases text <;> rfl

lemma sliceFrom_cons (c : Char) (text : List Char) (n : Nat) :
    sliceFrom (c :: text) (c.utf8Size + n) = sliceFrom text n := by
  obtain ⟨k, hk⟩ := Nat.exists_eq_succ_of_ne_zero (Nat.pos_iff_ne_zero.mp c.utf8Size_pos)
  have hn : c.utf8Size + n = k + n + 1 := by omega
  rw [hn, sliceFrom, if_pos (by omega)]
  congr 1
  omega

lemma sliceTo_cons (c : Char) (text : List Char) (n : Nat) :
    sliceTo (c :: text) (c.utf8Size + n) = (sliceTo text n).map (c :: ·) := by
  obtain ⟨k, hk⟩ := Nat.exists_eq_succ_of_ne_zero (Nat.pos_iff_ne_zero.mp c.utf8Size_pos)
  have hn : c.utf8Size + n = k + n + 1 := by omega
  rw [hn, sliceTo, if_pos (by omega)]
  congr 2
  omega

lemma sliceFrom_append (front text : List Char) (n : Nat) :
    sliceFrom (front ++ text) (utf8Len front + n) = sliceFrom text n := by
  induction front with
  | nil => simp
  | cons c front ih => rw [List.cons_append, utf8Len_cons, Nat.add_assoc, sliceFrom_cons, ih]

lemma sliceTo_append (front text : List Char) :
    sliceTo (front ++ text) (utf8Len front) = some front := by
  induction front with
  | nil => exact sliceTo_zero _
  | cons c front ih => rw [List.cons_append, utf8Len_cons, sliceTo_cons, ih, Option.map_some]

lemma sliceFrom_eq_some {text rest : List Char} {n : Nat} :
    sliceFrom text n = some rest ↔ ∃ front, text = front ++ rest ∧ utf8Len front = n := by
  constructor
  · intro h
    induction text generalizing n with
    | nil =>
      cases n with
      | zero => exact ⟨[], Option.some.inj h, rfl⟩
      | succ n => cases h
    | cons c text ih =>
      cases n with
      | zero => exact ⟨[], Option.some.inj h, rfl⟩
      | succ n =>
        simp only [sliceFrom] at h
        split at h
        · rename_i hle
          obtain ⟨front, rfl, hfront⟩ := ih h
          exact ⟨c :: front, rfl, by rw [utf8Len_cons, hfront]; omega⟩
        · cases h
  · rintro ⟨front, rfl, rfl⟩
    simpa using sliceFrom_append front rest 0

lemma slice_append {text front : List Char} {start : Nat} (back : List Char)
    (h : sliceFrom text start = some (front ++ back)) :
    slice text start (start + utf8Len front) = some front := by
  rw [slice, if_pos (Nat.le_add_right _ _), h, Option.bind_some, Nat.add_sub_cancel_left]
  exact sliceTo_append front back

lemma sliceFrom_add {text front back : List Char} {start : Nat}
    (h : sliceFrom text start = some (front ++ back)) :
    sliceFrom text (start + utf8Len front) = some back := by
  obtain ⟨before, rfl, rfl⟩ := (sliceFrom_eq_some).mp h
  refine (sliceFrom_eq_some).mpr ⟨before ++ front, by rw [List.append_assoc], ?_⟩
  rw [utf8Len_append]

lemma drop_utf8Bytes (front back : List Char) :
    (utf8Bytes (front ++ back)).drop (utf8Len front) = utf8Bytes back := by
  rw [utf8Bytes, List.flatMap_append, ← length_utf8Bytes, utf8Bytes, List.drop_left]
  rfl

lemma IsCharBoundary.of_slice {text rest : List Char} {offset : Nat}
    (h : sliceFrom text offset = some rest) : IsCharBoundary text offset := by
  rw [IsCharBoundary, h]
  rfl

lemma sliceFrom_inside {text rest : List Char} {c : Char} {start n : Nat}
    (h : sliceFrom text start = some (c :: rest)) (h0 : 0 < n) (hn : n < c.utf8Size) :
    sliceFrom text (start + n) = none := by
  obtain ⟨before, rfl, rfl⟩ := (sliceFrom_eq_some).mp h
  rw [sliceFrom_append]
  obtain ⟨k, rfl⟩ := Nat.exists_eq_succ_of_ne_zero (Nat.pos_iff_ne_zero.mp h0)
  rw [sliceFrom, if_neg (by omega)]

end Awaken.Lib
