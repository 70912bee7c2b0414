import Mathlib.Data.List.Basic
import Mathlib.Tactic.Lemma

namespace Awaken.Lib

variable {α : Type} {final sent prev : List α} {missing : Nat}

def increments (prev : List α) : List (List α) → List α
  | [] => []
  | next :: versions => next.drop prev.length ++ increments next versions

def Agrees (final : List α) : Nat → List α → List (List α) → Prop
  | missing, _, [] => missing = 0
  | missing, prev, next :: versions =>
    prev.length - next.length ≤ missing ∧
    next.drop prev.length =
      (final.drop (prev.length - missing)).take (next.length - prev.length) ∧
    Agrees final (missing - (prev.length - next.length)) next versions

lemma length_getLastD_le_increments (prev : List α) (versions : List (List α)) :
    (versions.getLastD prev).length ≤
      prev.length + (increments prev versions).length := by
  induction versions generalizing prev with
  | nil => simp [increments]
  | cons next versions ih =>
    rw [List.getLastD_cons, increments, List.length_append, List.length_drop]
    have := ih next
    omega

theorem append_increments_eq_iff (hsent : sent <+: final)
    (hlength : sent.length + missing = prev.length) (versions : List (List α))
    (hfinal : versions.getLastD prev = final) :
    sent ++ increments prev versions = final ↔ Agrees final missing prev versions := by
  induction versions generalizing sent prev missing with
  | nil =>
    change prev = final at hfinal
    subst hfinal
    rw [increments, List.append_nil, Agrees]
    constructor
    · intro h
      have := congrArg List.length h
      omega
    · intro h
      exact hsent.eq_of_length (by omega)
  | cons next versions ih =>
    rw [List.getLastD_cons] at hfinal
    have hplace : prev.length - missing = sent.length := by omega
    rw [increments, Agrees, hplace, ← List.append_assoc]
    constructor
    · intro h
      have hnext : sent ++ next.drop prev.length <+: final := ⟨_, h⟩
      have hpiece : next.drop prev.length =
          (final.drop sent.length).take (next.length - prev.length) := by
        obtain ⟨rest, hrest⟩ := hnext
        rw [← hrest, List.append_assoc, List.drop_left, ← List.length_drop, List.take_left]
      have hshort : prev.length - next.length ≤ missing := by
        have hbound := length_getLastD_le_increments next versions
        have htotal := congrArg List.length h
        rw [hfinal] at hbound
        rw [List.length_append, List.length_append, List.length_drop] at htotal
        omega
      refine ⟨hshort, hpiece, (ih hnext ?_ hfinal).mp h⟩
      rw [List.length_append, List.length_drop]
      omega
    · rintro ⟨hshort, hpiece, hrest⟩
      have hnext : sent ++ next.drop prev.length <+: final := by
        obtain ⟨rest, rfl⟩ := hsent
        rw [List.drop_left] at hpiece
        rw [hpiece]
        exact List.prefix_append_right_inj sent |>.mpr (List.take_prefix _ _)
      refine (ih hnext ?_ hfinal).mpr hrest
      rw [List.length_append, List.length_drop]
      omega

end Awaken.Lib
