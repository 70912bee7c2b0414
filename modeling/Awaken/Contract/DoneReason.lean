import Mathlib.Data.List.Infix
import Mathlib.Tactic.Lemma
import Awaken.Contract.Lifecycle

namespace Awaken.Contract.Lifecycle

def trimStartMatches (pat : List Char) : Nat → List Char → List Char
  | 0, text => text
  | n + 1, text =>
    if pat <+: text then trimStartMatches pat n (text.drop pat.length) else text

def afterTag (tag : String) (reason : String) : String :=
  String.ofList (trimStartMatches tag.toList reason.toList.length reason.toList)

def StoppedReason.new (code : String) : StoppedReason := ⟨code, none⟩

namespace TerminationReason

def fromDoneReason (reason : String) : TerminationReason :=
  if reason = "natural" then .naturalEnd
  else if reason = "behavior_requested" then .behaviorRequested
  else if reason = "cancelled" then .cancelled
  else if "blocked:".toList <+: reason.toList then .blocked (afterTag "blocked:" reason)
  else if "stopped:".toList <+: reason.toList then .stopped (.new (afterTag "stopped:" reason))
  else if "error:".toList <+: reason.toList then .error (afterTag "error:" reason)
  else .error reason

def toRunStatus : TerminationReason → RunStatus × Option String
  | .suspended => (.waiting, none)
  | .naturalEnd => (.done, some "natural")
  | .behaviorRequested => (.done, some "behavior_requested")
  | .cancelled => (.done, some "cancelled")
  | .blocked reason => (.done, some ("blocked:" ++ reason))
  | .error _ => (.done, some "error")
  | .stopped reason => (.done, some ("stopped:" ++ reason.code))

end TerminationReason

section Trim

variable {pat text : List Char}

lemma length_trimStartMatches_le (n : Nat) :
    (trimStartMatches pat n text).length ≤ text.length := by
  induction n generalizing text with
  | zero => exact Nat.le_refl _
  | succ n ih =>
    rw [trimStartMatches]
    split
    · have hle : _ ≤ (text.drop pat.length).length := ih
      rw [List.length_drop] at hle
      omega
    · exact Nat.le_refl _

lemma trimStartMatches_eq_self {n : Nat} (hpat : pat ≠ []) (hn : text.length ≤ n) :
    trimStartMatches pat n text = text ↔ ¬pat <+: text := by
  cases n with
  | zero =>
    obtain rfl := List.length_eq_zero_iff.mp (Nat.le_zero.mp hn)
    simpa [trimStartMatches] using hpat
  | succ n =>
    rw [trimStartMatches]
    split
    · rename_i htag
      have hlen := List.length_pos_iff.mpr hpat
      have hle : (trimStartMatches pat n (text.drop pat.length)).length ≤ _ :=
        length_trimStartMatches_le n
      rw [List.length_drop] at hle
      have hmore := htag.length_le
      refine iff_of_false (fun h => ?_) (not_not_intro htag)
      rw [h] at hle
      omega
    · rename_i htag
      exact iff_of_true rfl htag

lemma afterTag_append {tag : String} (htag : tag ≠ "") (text : String) :
    afterTag tag (tag ++ text) = text ↔ ¬tag.toList <+: text.toList := by
  have hpat : tag.toList ≠ [] := fun h => htag (String.toList_inj.mp (h.trans String.toList_empty.symm))
  obtain ⟨n, hn⟩ : ∃ n, (tag.toList ++ text.toList).length = n + 1 :=
    Nat.exists_eq_succ_of_ne_zero (by simp [hpat])
  have hlong : text.toList.length ≤ n := by
    have hpos := List.length_pos_iff.mpr hpat
    rw [List.length_append] at hn
    omega
  rw [afterTag, String.toList_append, hn, trimStartMatches, if_pos (List.prefix_append _ _),
    List.drop_left, ← trimStartMatches_eq_self hpat hlong]
  constructor
  · intro h
    exact String.toList_ofList.symm.trans (congrArg String.toList h)
  · intro h
    rw [h, String.ofList_toList]

end Trim

namespace TerminationReason

/-- The terminations that the text is meant to hold. -/
def Recorded : TerminationReason → Prop
  | .naturalEnd | .behaviorRequested | .cancelled | .blocked _ => True
  | .stopped reason => reason.detail = none
  | .suspended | .error _ => False

/-- The text begins like the tag that is written in front of it. -/
def RepeatsTag : TerminationReason → Prop
  | .blocked reason => "blocked:".toList <+: reason.toList
  | .stopped reason => "stopped:".toList <+: reason.code.toList
  | _ => False

def ReadsBack (reason : TerminationReason) : Prop :=
  reason.toRunStatus.2.map fromDoneReason = some reason

lemma ne_of_tagged {tag text word : String} (h : ¬tag.toList <+: word.toList) : tag ++ text ≠ word := by
  rintro rfl
  exact h (String.toList_append ▸ List.prefix_append _ _)

lemma fromDoneReason_blocked (text : String) :
    fromDoneReason ("blocked:" ++ text) = .blocked (afterTag "blocked:" ("blocked:" ++ text)) := by
  have htag : "blocked:".toList <+: ("blocked:" ++ text).toList :=
    String.toList_append ▸ List.prefix_append _ _
  rw [fromDoneReason, if_neg (ne_of_tagged (by decide)), if_neg (ne_of_tagged (by decide)),
    if_neg (ne_of_tagged (by decide)), if_pos htag]

lemma fromDoneReason_stopped (code : String) :
    fromDoneReason ("stopped:" ++ code) =
      .stopped (.new (afterTag "stopped:" ("stopped:" ++ code))) := by
  have htag : "stopped:".toList <+: ("stopped:" ++ code).toList :=
    String.toList_append ▸ List.prefix_append _ _
  have hother : ¬"blocked:".toList <+: ("stopped:" ++ code).toList := by
    rw [String.toList_append]
    rintro ⟨rest, hrest⟩
    simp at hrest
  rw [fromDoneReason, if_neg (ne_of_tagged (by decide)), if_neg (ne_of_tagged (by decide)),
    if_neg (ne_of_tagged (by decide)), if_neg hother, if_pos htag]

theorem done_reason_reads_back (reason : TerminationReason) (h : reason.Recorded) :
    reason.ReadsBack ↔ ¬reason.RepeatsTag := by
  cases reason with
  | naturalEnd => exact iff_of_true rfl id
  | behaviorRequested => exact iff_of_true rfl id
  | cancelled => exact iff_of_true rfl id
  | blocked reason =>
    change some (fromDoneReason ("blocked:" ++ reason)) = _ ↔ _
    rw [fromDoneReason_blocked, Option.some_inj, blocked.injEq]
    exact afterTag_append (by decide) reason
  | stopped reason =>
    obtain ⟨code, detail⟩ := reason
    obtain rfl : detail = none := h
    change some (fromDoneReason ("stopped:" ++ code)) = _ ↔ _
    rw [fromDoneReason_stopped, Option.some_inj, stopped.injEq, StoppedReason.new,
      StoppedReason.mk.injEq, and_iff_left rfl]
    exact afterTag_append (by decide) code
  | suspended => exact h.elim
  | error message => exact h.elim

theorem done_reason_reads_back_blocked : (blocked "no shell").ReadsBack := by
  have htag : ¬"blocked:".toList <+: "no shell".toList := by decide
  exact (done_reason_reads_back (.blocked "no shell") trivial).mpr htag

theorem done_reason_loses_text :
    (blocked "blocked:rm").Recorded ∧ ¬(blocked "blocked:rm").ReadsBack := by
  refine ⟨trivial, fun h => ?_⟩
  have htext : afterTag "blocked:" ("blocked:" ++ "blocked:rm") = "blocked:rm" := by
    have hread : some (fromDoneReason ("blocked:" ++ "blocked:rm")) = some (.blocked "blocked:rm") := h
    rw [fromDoneReason_blocked, Option.some_inj, blocked.injEq] at hread
    exact hread
  exact (afterTag_append (by decide) "blocked:rm").mp htext (by decide)

end TerminationReason

end Awaken.Contract.Lifecycle
