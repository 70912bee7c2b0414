import Mathlib.Data.List.DropRight
import Mathlib.Tactic.Lemma

namespace Awaken.Lib.Text

def isWhiteSpace (c : Char) : Bool :=
  let n := c.toNat
  (0x9 ≤ n && n ≤ 0xD) || n == 0x20 || n == 0x85 || n == 0xA0 || n == 0x1680 ||
    (0x2000 ≤ n && n ≤ 0x200A) || n == 0x2028 || n == 0x2029 || n == 0x202F || n == 0x205F ||
    n == 0x3000

def isControl (c : Char) : Bool :=
  let n := c.toNat
  n ≤ 0x1F || (0x7F ≤ n && n ≤ 0x9F)

def trim (s : String) : String :=
  String.ofList ((s.toList.dropWhile isWhiteSpace).reverse.dropWhile isWhiteSpace).reverse

def isBlank (s : String) : Bool := s.toList.all isWhiteSpace

lemma dropWhile_of_prefix {α : Type} {p : α → Bool} {l m : List α} (hl : l.dropWhile p = l)
    (hm : m <+: l) : m.dropWhile p = m := by
  cases m with
  | nil => rfl
  | cons a m =>
    obtain ⟨t, rfl⟩ := hm
    rw [List.dropWhile_eq_self_iff] at hl ⊢
    exact fun _ => hl (by simp)

@[simp] lemma trim_trim (s : String) : trim (trim s) = trim s := by
  have htrim : ∀ t, (trim t).toList = (t.toList.dropWhile isWhiteSpace).rdropWhile isWhiteSpace :=
    fun t => String.toList_ofList
  have hfront : ((s.toList.dropWhile isWhiteSpace).rdropWhile isWhiteSpace).dropWhile isWhiteSpace =
      (s.toList.dropWhile isWhiteSpace).rdropWhile isWhiteSpace :=
    dropWhile_of_prefix (List.dropWhile_idempotent _ _) (List.rdropWhile_prefix _ _)
  refine String.toList_inj.mp ?_
  rw [htrim, htrim, hfront, List.rdropWhile_idempotent]

end Awaken.Lib.Text
