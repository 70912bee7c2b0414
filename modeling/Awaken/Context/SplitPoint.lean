import Mathlib.Tactic.Lemma
import Awaken.Context.Transform

namespace Awaken.Context

open Awaken.Contract
open Awaken.Agent.LoopState (Role)

variable {J B : Type} {history : List (ChatMessage J B)} {budget minRecent : Nat}

def Fits (budget minRecent : Nat) (tail : List (ChatMessage J B)) : Prop :=
  tail.length ≤ minRecent ∨ estimateTokens tail ≤ budget

def Kept (budget minRecent : Nat) : List (ChatMessage J B) → Prop
  | [] => False
  | msg :: tail =>
    Fits budget minRecent (msg :: tail) ∨ toolAt tail 0 = true ∧ Kept budget minRecent tail

section Tokens

lemma estimateTokens_cons (msg : ChatMessage J B) (messages : List (ChatMessage J B)) :
    estimateTokens (msg :: messages) = estimateMessageTokens msg + estimateTokens messages := rfl

lemma estimateTokens_append (first second : List (ChatMessage J B)) :
    estimateTokens (first ++ second) = estimateTokens first + estimateTokens second := by
  rw [estimateTokens, List.map_append, List.sum_append]
  rfl

lemma estimateTokens_suffix {first second : List (ChatMessage J B)} (h : first <:+ second) :
    estimateTokens first ≤ estimateTokens second := by
  obtain ⟨before, rfl⟩ := h
  rw [estimateTokens_append]
  omega

lemma drop_suffix_drop (history : List (ChatMessage J B)) {i j : Nat} (h : i ≤ j) : history.drop j <:+ history.drop i := by
  have hj : history.drop j = (history.drop i).drop (j - i) := by
    rw [List.drop_drop]
    congr 1
    omega
  rw [hj]
  exact List.drop_suffix _ _

lemma Fits.mono {i j : Nat} (h : Fits budget minRecent (history.drop i)) (hij : i ≤ j) :
    Fits budget minRecent (history.drop j) := by
  have hsuffix := drop_suffix_drop history hij
  rcases h with h | h
  · exact .inl (hsuffix.length_le.trans h)
  · exact .inr ((estimateTokens_suffix hsuffix).trans h)

lemma fits_nil : Fits budget minRecent ([] : List (ChatMessage J B)) := .inl (Nat.zero_le _)

end Tokens

section Loop

lemma splitLoop_le_iff {i : Nat} (hi : i ≤ history.length)
    (hfits : Fits budget minRecent (history.drop i)) (j : Nat) :
    splitLoop history budget (history.length - min minRecent history.length) i
        (estimateTokens (history.drop i)) i ≤ j ↔ Fits budget minRecent (history.drop j) := by
  induction i with
  | zero => exact iff_of_true (Nat.zero_le _) (hfits.mono (Nat.zero_le _))
  | succ i ih =>
    have hlt : i < history.length := hi
    have hdrop : history.drop i = history[i] :: history.drop (i + 1) := List.drop_eq_getElem_cons hlt
    have htotal : estimateTokens (history.drop (i + 1)) +
        (history[i]?).elim 0 estimateMessageTokens = estimateTokens (history.drop i) := by
      rw [hdrop, estimateTokens_cons, List.getElem?_eq_getElem hlt, Option.elim_some, Nat.add_comm]
    have hlen : (history.drop i).length ≤ minRecent ↔
        i ≥ history.length - min minRecent history.length := by
      rw [List.length_drop]
      omega
    rw [splitLoop, htotal]
    split
    · next hkeep => exact ih hlt.le (.inl (hlen.mpr hkeep))
    · next hkeep =>
      split
      · next hover =>
        have hstop : ¬ Fits budget minRecent (history.drop i) := by
          rintro (h | h)
          · exact hkeep (hlen.mp h)
          · exact Nat.not_le.mpr hover h
        constructor
        · exact fun hle => hfits.mono hle
        · intro hfit
          by_contra hle
          exact hstop (hfit.mono (by omega))
      · next hover => exact ih hlt.le (.inr (Nat.not_lt.mp hover))

end Loop

section Adjust

lemma backOverResults_le_iff (split i : Nat) : backOverResults history split ≤ i ↔
    ∀ k, i < k → k ≤ split → toolAt history k = true := by
  induction split with
  | zero => simp only [backOverResults, Nat.zero_le, true_iff]; omega
  | succ split ih =>
    unfold backOverResults
    split
    · next htool =>
      rw [ih]
      constructor
      · intro h k hik hk
        rcases Nat.lt_or_ge split k with hlt | hge
        · rw [show k = split + 1 by omega]
          exact htool
        · exact h k hik hge
      · exact fun h k hik hk => h k hik (by omega)
    · next htool =>
      constructor
      · intro h k hik hk
        omega
      · intro h
        by_contra hle
        exact htool (h (split + 1) (by omega) (Nat.le_refl _))

lemma backOverResults_not_tool {split : Nat} (h : 0 < backOverResults history split) :
    toolAt history (backOverResults history split) = false := by
  induction split with
  | zero => exact absurd h (Nat.lt_irrefl 0)
  | succ split ih =>
    unfold backOverResults at h ⊢
    split
    · next htool =>
      rw [if_pos htool] at h
      exact ih h
    · next htool => exact Bool.not_eq_true _ ▸ htool

lemma backOverResults_le (split : Nat) : backOverResults history split ≤ split :=
  (backOverResults_le_iff split split).mpr (fun k hlt hle => by omega)

lemma adjustSplit_eq {split : Nat} (hpos : 0 < split) (hlt : split < history.length) :
    adjustSplitForToolPairs history split = backOverResults history split := by
  unfold adjustSplitForToolPairs
  rw [if_neg (by omega)]
  dsimp only
  split
  · next hcall =>
    have hback : 0 < backOverResults history split := by
      simp only [isDroppedCall, Bool.and_eq_true, decide_eq_true_eq] at hcall
      exact hcall.1
    have hnot := backOverResults_not_tool hback
    have hin : backOverResults history split < history.length :=
      (backOverResults_le split).trans_lt hlt
    rw [toolAt, List.getElem?_eq_getElem hin, Option.any_some] at hnot
    rw [skipResults, List.drop_eq_getElem_cons hin, List.takeWhile_cons_of_neg (by simp [hnot])]
    rfl
  · rfl

end Adjust

section Split

def candidate (history : List (ChatMessage J B)) (budget minRecent : Nat) : Nat :=
  splitLoop history budget (history.length - min minRecent history.length) history.length 0
    history.length

lemma candidate_le_iff (j : Nat) :
    candidate history budget minRecent ≤ j ↔ Fits budget minRecent (history.drop j) := by
  have hnil : history.drop history.length = [] := List.drop_length
  have hfits : Fits budget minRecent (history.drop history.length) := by
    rw [hnil]
    exact fits_nil
  have hloop := splitLoop_le_iff (Nat.le_refl _) hfits j
  rwa [hnil] at hloop

lemma candidate_le : candidate history budget minRecent ≤ history.length :=
  (candidate_le_iff _).mpr (by rw [List.drop_length]; exact fits_nil)

lemma findSplitPoint_eq : findSplitPoint history budget minRecent =
    if candidate history budget minRecent < history.length then
      backOverResults history (candidate history budget minRecent)
    else history.length := by
  unfold findSplitPoint
  cases history with
  | nil => rfl
  | cons msg rest =>
    rw [List.isEmpty_cons, if_neg Bool.false_ne_true]
    change adjustSplitForToolPairs _ (candidate (msg :: rest) budget minRecent) = _
    by_cases hlt : candidate (msg :: rest) budget minRecent < (msg :: rest).length
    · rw [if_pos hlt]
      by_cases h0 : candidate (msg :: rest) budget minRecent = 0
      · rw [h0]
        rfl
      · exact adjustSplit_eq (Nat.pos_of_ne_zero h0) hlt
    · rw [if_neg hlt, adjustSplitForToolPairs, if_pos (.inr (Nat.not_lt.mp hlt))]
      exact Nat.le_antisymm candidate_le (Nat.not_lt.mp hlt)

lemma findSplitPoint_le : findSplitPoint history budget minRecent ≤ history.length := by
  rw [findSplitPoint_eq]
  split
  · next hlt => exact (backOverResults_le _).trans hlt.le
  · exact Nat.le_refl _

lemma findSplitPoint_not_tool (h : 0 < findSplitPoint history budget minRecent) :
    toolAt history (findSplitPoint history budget minRecent) = false := by
  rw [findSplitPoint_eq] at h ⊢
  split
  · next hlt =>
    rw [if_pos hlt] at h
    exact backOverResults_not_tool h
  · rw [toolAt, List.getElem?_eq_none (Nat.le_refl _)]
    rfl

theorem findSplitPoint_le_iff {i : Nat} (hi : i < history.length) :
    findSplitPoint history budget minRecent ≤ i ↔ Kept budget minRecent (history.drop i) := by
  have hdrop : history.drop i = history[i] :: history.drop (i + 1) := List.drop_eq_getElem_cons hi
  have htool : toolAt (history.drop (i + 1)) 0 = toolAt history (i + 1) := by
    rw [toolAt, toolAt, List.getElem?_drop, Nat.add_zero]
  induction hn : history.length - i generalizing i with
  | zero => omega
  | succ n ih =>
    rw [hdrop, Kept, ← hdrop, ← candidate_le_iff, htool]
    have hnext : Kept budget minRecent (history.drop (i + 1)) ↔
        i + 1 < history.length ∧ findSplitPoint history budget minRecent ≤ i + 1 := by
      by_cases hlt : i + 1 < history.length
      · have hrec := ih hlt (List.drop_eq_getElem_cons hlt)
          (by rw [toolAt, toolAt, List.getElem?_drop, Nat.add_zero]) (by omega)
        exact ⟨fun h => ⟨hlt, hrec.mpr h⟩, fun h => hrec.mp h.2⟩
      · rw [List.drop_eq_nil_of_le (Nat.not_lt.mp hlt), Kept]
        simp [hlt]
    rw [hnext, findSplitPoint_eq]
    by_cases hc : candidate history budget minRecent < history.length
    · rw [if_pos hc, backOverResults_le_iff, backOverResults_le_iff]
      constructor
      · intro h
        by_cases hle : candidate history budget minRecent ≤ i
        · exact .inl hle
        · exact .inr ⟨h (i + 1) (Nat.lt_succ_self i) (by omega), by omega,
            fun k hik hk => h k (by omega) hk⟩
      · rintro (hle | ⟨hfirst, -, h⟩) k hik hk
        · omega
        · rcases Nat.lt_or_ge (i + 1) k with hlt | hge
          · exact h k hlt hk
          · rw [show k = i + 1 by omega]
            exact hfirst
    · rw [if_neg hc]
      constructor
      · intro h
        omega
      · rintro (h | ⟨-, hlt, h⟩) <;> omega

end Split

end Awaken.Context
