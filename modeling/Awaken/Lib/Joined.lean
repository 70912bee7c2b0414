import Awaken.Lib.Netstring
import Awaken.Lib.Text

namespace Awaken.Lib

open Netstring

def joined (sep : Char) (parts : List String) : String :=
  String.ofList ([sep].intercalate (parts.map String.toList))

variable {sep : Char} {p q : String} {ps qs : List String}

lemma toList_joined_cons (hps : ps ≠ []) :
    (joined sep (p :: ps)).toList = p.toList ++ sep :: (joined sep ps).toList := by
  rw [joined, joined, String.toList_ofList, String.toList_ofList, List.map_cons,
    List.intercalate_cons_of_ne_nil (by simpa using hps), List.append_assoc, List.singleton_append]

section Numbered

def numbered (text : String) (n : Nat) : String := s!"{text}_{n}"

lemma toList_numbered (text : String) (n : Nat) :
    (numbered text n).toList = text.toList ++ '_' :: Nat.toDigits 10 n := by
  have htext : ∀ t : String, toString t = t := fun _ => rfl
  simp [numbered, htext, Nat.toString_eq_repr, Nat.toList_repr]

lemma isBlank_numbered (text : String) (n : Nat) : Text.isBlank (numbered text n) = false := by
  rw [Text.isBlank, toList_numbered, List.all_append, List.all_cons]
  simp [Text.isWhiteSpace]

theorem numbered_inj {s t : String} {m n : Nat} (h : numbered s m = numbered t n) : m = n := by
  have hl := congrArg (fun text => text.toList.reverse) h
  simp only [toList_numbered, List.reverse_append, List.reverse_cons, List.append_assoc,
    List.singleton_append] at hl
  have hdigits : ∀ k, '_' ∉ (Nat.toDigits 10 k).reverse := fun k hk =>
    Nat.underscore_not_in_toDigits (List.mem_reverse.mp hk)
  have hd := List.reverse_injective (append_sep_inj (hdigits m) (hdigits n) hl).1
  have hv := congrArg (fun digits => Nat.ofDigitChars 10 digits 0) hd
  simpa only [Nat.ofDigitChars_ten_toDigits] using hv

end Numbered

end Awaken.Lib
