import Mathlib.Tactic.Lemma
import Mathlib.Data.List.Basic

/-! Texts under a length tag. The decimal length, a colon, the text and a colon read back
uniquely, whatever follows. -/

namespace Awaken.Lib.Netstring

def stripPrefix (pre s : String) : Option String :=
  if pre.toList <+: s.toList then some (String.ofList (s.toList.drop pre.toList.length)) else none

theorem stripPrefix_eq_some {pre s r : String} : stripPrefix pre s = some r ↔ s = pre ++ r := by
  unfold stripPrefix
  constructor
  · intro h
    split at h
    · next hp =>
      obtain ⟨t, ht⟩ := hp
      rw [← ht, List.drop_left, Option.some.injEq] at h
      rw [← String.toList_inj, String.toList_append, ← h, String.toList_ofList, ht]
    · exact nomatch h
  · rintro rfl
    rw [String.toList_append, if_pos (List.prefix_append _ _), List.drop_left, String.ofList_toList]

def netstring (s : String) : String := s!"{s.utf8ByteSize}:{s}:"

lemma toList_netstring (s : String) :
    (netstring s).toList = Nat.toDigits 10 s.utf8ByteSize ++ ':' :: (s.toList ++ [':']) := by
  have htext : ∀ t : String, toString t = t := fun _ => rfl
  simp [netstring, htext, Nat.toString_eq_repr, Nat.toList_repr]

lemma colon_notMem_toDigits (n : Nat) : ':' ∉ Nat.toDigits 10 n := by
  intro h
  exact absurd (Nat.isDigit_of_mem_toDigits (by decide) (by decide) h) (by decide)

lemma append_sep_inj {α : Type} {c : α} {u v x y : List α} (hu : c ∉ u) (hv : c ∉ v)
    (h : u ++ c :: x = v ++ c :: y) : u = v ∧ x = y := by
  induction u generalizing v with
  | nil =>
    cases v with
    | nil => exact ⟨rfl, (List.cons.inj h).2⟩
    | cons b v =>
      obtain ⟨rfl, -⟩ := List.cons.inj h
      exact absurd List.mem_cons_self hv
  | cons a u ih =>
    cases v with
    | nil =>
      obtain ⟨rfl, -⟩ := List.cons.inj h
      exact absurd List.mem_cons_self hu
    | cons b v =>
      obtain ⟨rfl, ht⟩ := List.cons.inj h
      obtain ⟨rfl, hxy⟩ := ih (fun hm => hu (List.mem_cons_of_mem _ hm))
        (fun hm => hv (List.mem_cons_of_mem _ hm)) ht
      exact ⟨rfl, hxy⟩

lemma append_inj_of_size {s t x y : String} (hs : s.utf8ByteSize = t.utf8ByteSize)
    (h : s ++ x = t ++ y) : s = t ∧ x = y := by
  have hl : s.toList ++ x.toList = t.toList ++ y.toList := by
    rw [← String.toList_append, ← String.toList_append, h]
  rcases List.append_eq_append_iff.mp hl with ⟨r, ht, hx⟩ | ⟨r, hs', hy⟩
  · have he : t = s ++ String.ofList r := by
      rw [← String.toList_inj, String.toList_append, String.toList_ofList, ht]
    rw [he, String.utf8ByteSize_append] at hs
    have hr : String.ofList r = "" := String.utf8ByteSize_eq_zero_iff.mp (by omega)
    rw [hr, String.append_empty] at he
    subst he
    exact ⟨rfl, String.toList_inj.mp (List.append_cancel_left hl)⟩
  · have he : s = t ++ String.ofList r := by
      rw [← String.toList_inj, String.toList_append, String.toList_ofList, hs']
    rw [he, String.utf8ByteSize_append] at hs
    have hr : String.ofList r = "" := String.utf8ByteSize_eq_zero_iff.mp (by omega)
    rw [hr, String.append_empty] at he
    subst he
    exact ⟨rfl, String.toList_inj.mp (List.append_cancel_left hl)⟩

theorem netstring_append_inj {s t x y : String} (h : netstring s ++ x = netstring t ++ y) :
    s = t ∧ x = y := by
  have hl := congrArg String.toList h
  simp only [String.toList_append, toList_netstring, List.append_assoc, List.cons_append,
    List.nil_append] at hl
  obtain ⟨hd, hr⟩ := append_sep_inj (colon_notMem_toDigits _) (colon_notMem_toDigits _) hl
  have hsize : s.utf8ByteSize = t.utf8ByteSize := by
    have hv := congrArg (fun digits => Nat.ofDigitChars 10 digits 0) hd
    simpa only [Nat.ofDigitChars_ten_toDigits] using hv
  have hs : s ++ (":" ++ x) = t ++ (":" ++ y) := by
    rw [← String.toList_inj]
    simpa using hr
  obtain ⟨rfl, hc⟩ := append_inj_of_size hsize hs
  exact ⟨rfl, (append_inj_of_size rfl hc).2⟩

end Awaken.Lib.Netstring
