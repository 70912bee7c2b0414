import Awaken.Context.SystemMessages

namespace Awaken.Context

open Awaken.Contract
open Awaken.Agent.LoopState (Role)

variable {J B : Type}

def HoldsCall (call result : ChatMessage J B) : Prop :=
  call.role = .assistant ∧
    ∃ id, result.toolCallId = some id ∧ id ∈ (call.toolCalls.getD []).map (·.id)

/-- Every tool result follows a message that holds its call. -/
def WellFormed (messages : List (ChatMessage J B)) : Prop :=
  ∀ before result after, messages = before ++ result :: after → isTool result = true →
    ∃ call ∈ before, HoldsCall call result

def Adjacent (before : List (ChatMessage J B)) (result : ChatMessage J B) : Prop :=
  ∃ b call run, before = b ++ call :: run ∧ HoldsCall call result ∧ ∀ r ∈ run, isTool r = true

def Justified (budget minRecent : Nat) (kept : List (ChatMessage J B)) : Prop :=
  ∃ group rest, kept = group ++ rest ∧ Fits budget minRecent rest ∧
    (group = [] ∨ toolAt rest 0 = true ∧ ∀ r ∈ group.tail, isTool r = true)

section WellFormed

lemma WellFormed.of_append {first second : List (ChatMessage J B)}
    (h : WellFormed (first ++ second)) : WellFormed first := by
  rintro before result after rfl htool
  exact h before result (after ++ second) (by simp) htool

lemma WellFormed.history {messages : List (ChatMessage J B)} (h : WellFormed messages) :
    WellFormed (ContextTransform.history messages) := by
  intro before result after heq htool
  have hwhole : messages =
      (ContextTransform.systemPrefix messages ++ before) ++ result :: after := by
    rw [List.append_assoc, ← heq, ContextTransform.systemPrefix, ContextTransform.history,
      List.takeWhile_append_dropWhile]
  obtain ⟨call, hmem, hholds⟩ := h _ _ _ hwhole htool
  rcases List.mem_append.mp hmem with hsys | hin
  · have hrole : isSystem call = true := List.mem_takeWhile_imp hsys
    rw [isSystem, hholds.1] at hrole
    cases hrole
  · exact ⟨call, hin, hholds⟩

variable (config : ArtifactCompactionConfig)

lemma compactMessage_calls (msg : ChatMessage J B) :
    (compactMessage config msg).toolCalls = msg.toolCalls ∧
      (compactMessage config msg).toolCallId = msg.toolCallId := by
  unfold compactMessage
  split
  · exact ⟨rfl, rfl⟩
  · split <;> exact ⟨rfl, rfl⟩

lemma WellFormed.compact {messages : List (ChatMessage J B)} (h : WellFormed messages) :
    WellFormed (compactToolResultsWithConfig messages config) := by
  intro before result after heq htool
  rw [compactToolResultsWithConfig, List.map_eq_append_iff] at heq
  obtain ⟨before', rest', rfl, rfl, hrest⟩ := heq
  obtain ⟨result', after', rfl, rfl, rfl⟩ := List.map_eq_cons_iff.mp hrest
  rw [isTool, compactMessage_role] at htool
  obtain ⟨call, hmem, hrole, id, hid, hin⟩ := h before' result' after' rfl htool
  refine ⟨compactMessage config call, List.mem_map_of_mem hmem, ?_, id, ?_, ?_⟩
  · rw [compactMessage_role, hrole]
  · rw [(compactMessage_calls config result').2, hid]
  · rw [(compactMessage_calls config call).1]
    exact hin

end WellFormed

section Cut

variable {history : List (ChatMessage J B)} {budget minRecent : Nat}

lemma Kept.justified {tail : List (ChatMessage J B)} (h : Kept budget minRecent tail) :
    Justified budget minRecent tail := by
  induction tail with
  | nil => exact h.elim
  | cons msg tail ih =>
    rcases h with hfits | ⟨htool, hkept⟩
    · exact ⟨[], msg :: tail, rfl, hfits, .inl rfl⟩
    · obtain ⟨group, rest, rfl, hfits, hgroup⟩ := ih hkept
      refine ⟨msg :: group, rest, rfl, hfits, .inr ?_⟩
      rcases hgroup with rfl | ⟨hrest, hall⟩
      · exact ⟨htool, fun r hr => by cases hr⟩
      · refine ⟨hrest, fun r hr => ?_⟩
        cases group with
        | nil => cases hr
        | cons first group =>
          rcases List.mem_cons.mp hr with rfl | hr
          · exact htool
          · exact hall r hr

def cut (history : List (ChatMessage J B)) (budget minRecent : Nat) : List (ChatMessage J B) :=
  history.drop (findSplitPoint history budget minRecent)

lemma cut_justified : Justified budget minRecent (cut history budget minRecent) := by
  rcases Nat.lt_or_ge (findSplitPoint history budget minRecent) history.length with hlt | hge
  · exact ((findSplitPoint_le_iff hlt).mp (Nat.le_refl _)).justified
  · rw [cut, List.drop_eq_nil_of_le hge]
    exact ⟨[], [], rfl, fits_nil, .inl rfl⟩

lemma cut_recent : min minRecent history.length ≤ (cut history budget minRecent).length := by
  have hle : findSplitPoint history budget minRecent ≤
      history.length - min minRecent history.length := by
    rcases Nat.lt_or_ge (history.length - min minRecent history.length) history.length with hlt | hge
    · refine (findSplitPoint_le_iff hlt).mpr ?_
      rw [List.drop_eq_getElem_cons hlt]
      refine .inl (.inl ?_)
      rw [← List.drop_eq_getElem_cons hlt, List.length_drop]
      omega
    · exact findSplitPoint_le.trans hge
  rw [cut, List.length_drop]
  omega

/-- Each result that is kept away from its call is kept with it. -/
def KeepsSeparated (history : List (ChatMessage J B)) (budget minRecent : Nat) : Prop :=
  ∀ before result after, history = before ++ result :: after → isTool result = true →
    ¬ Adjacent before result → Kept budget minRecent (result :: after) →
      ∃ b call a, before = b ++ call :: a ∧ HoldsCall call result ∧
        Kept budget minRecent (call :: (a ++ result :: after))

lemma split_le_iff {before after : List (ChatMessage J B)} {msg : ChatMessage J B}
    (h : history = before ++ msg :: after) :
    findSplitPoint history budget minRecent ≤ before.length ↔
      Kept budget minRecent (msg :: after) := by
  have hlt : before.length < history.length := by
    rw [h, List.length_append, List.length_cons]
    omega
  rw [findSplitPoint_le_iff hlt, h, List.drop_left]

lemma split_le_of_adjacent {before after b run : List (ChatMessage J B)}
    {call result : ChatMessage J B} (h : history = before ++ result :: after)
    (htool : isTool result = true) (hle : findSplitPoint history budget minRecent ≤ before.length)
    (hb : before = b ++ call :: run) (hrun : ∀ r ∈ run, isTool r = true) :
    findSplitPoint history budget minRecent ≤ b.length := by
  by_contra hlt
  have hnot : toolAt history (findSplitPoint history budget minRecent) = false :=
    findSplitPoint_not_tool (by omega)
  have hhist : history = (b ++ [call]) ++ ((run ++ [result]) ++ after) := by
    rw [h, hb]
    simp
  have hall : ∀ r ∈ run ++ [result], isTool r = true := by
    intro r hr
    rcases List.mem_append.mp hr with hr | hr
    · exact hrun r hr
    · rw [List.mem_singleton.mp hr]
      exact htool
  have hlen : before.length = b.length + 1 + run.length := by
    rw [hb, List.length_append, List.length_cons]
    omega
  generalize findSplitPoint history budget minRecent = n at hnot hle hlt
  have hcall : (b ++ [call]).length ≤ n := by
    rw [List.length_append, List.length_singleton]
    omega
  have hin : n - (b ++ [call]).length < (run ++ [result]).length := by
    rw [List.length_append, List.length_append, List.length_singleton, List.length_singleton]
    omega
  rw [toolAt, hhist, List.getElem?_append_right hcall, List.getElem?_append_left hin,
    List.getElem?_eq_getElem hin, Option.any_some, hall _ (List.getElem_mem hin)] at hnot
  cases hnot

theorem wellFormed_cut_iff : WellFormed (cut history budget minRecent) ↔
    KeepsSeparated history budget minRecent := by
  have hsplit := List.take_append_drop (findSplitPoint history budget minRecent) history
  constructor
  · intro h before result after heq htool _ hkept
    have hle := (split_le_iff heq).mpr hkept
    have hcut : cut history budget minRecent =
        before.drop (findSplitPoint history budget minRecent) ++ result :: after := by
      rw [cut, heq, List.drop_append_of_le_length (heq ▸ hle)]
    obtain ⟨call, hmem, hholds⟩ := h _ _ _ hcut htool
    obtain ⟨b, a, hba⟩ := List.append_of_mem hmem
    have hbefore : before =
        (before.take (findSplitPoint history budget minRecent) ++ b) ++ call :: a := by
      rw [List.append_assoc, ← hba, List.take_append_drop]
    refine ⟨_, call, a, hbefore, hholds, ?_⟩
    have hhist : history = (before.take (findSplitPoint history budget minRecent) ++ b) ++
        call :: (a ++ result :: after) := by
      refine heq.trans ?_
      conv_lhs => rw [hbefore]
      simp
    refine (split_le_iff hhist).mp ?_
    rw [List.length_append, List.length_take]
    omega
  · intro h before' result after hcut htool
    rw [cut] at hcut
    rw [hcut, ← List.append_assoc] at hsplit
    have hle : findSplitPoint history budget minRecent ≤
        (history.take (findSplitPoint history budget minRecent) ++ before').length := by
      rw [List.length_append, List.length_take, Nat.min_eq_left findSplitPoint_le]
      omega
    -- a call that stands behind the split point is kept
    have hmem : ∀ b call a, history.take (findSplitPoint history budget minRecent) ++ before' =
        b ++ call :: a → findSplitPoint history budget minRecent ≤ b.length → call ∈ before' := by
      intro b call a hb hlen
      have hdrop : before' = (b ++ call :: a).drop (findSplitPoint history budget minRecent) := by
        rw [← hb, List.drop_append_of_le_length (by
          rw [List.length_take, Nat.min_eq_left findSplitPoint_le]), List.drop_take_self,
          List.nil_append]
      rw [hdrop, List.drop_append_of_le_length hlen]
      exact List.mem_append_right _ List.mem_cons_self
    by_cases hadj : Adjacent (history.take (findSplitPoint history budget minRecent) ++ before')
        result
    · obtain ⟨b, call, run, hb, hholds, hrun⟩ := hadj
      exact ⟨call, hmem b call run hb (split_le_of_adjacent hsplit.symm htool hle hb hrun), hholds⟩
    · obtain ⟨b, call, a, hb, hholds, hkept⟩ :=
        h _ result after hsplit.symm htool hadj ((split_le_iff hsplit.symm).mp hle)
      have hhist : history = b ++ call :: (a ++ result :: after) := by
        conv_lhs => rw [← hsplit, hb]
        simp
      exact ⟨call, hmem b call a hb ((split_le_iff hhist).mpr hkept), hholds⟩

end Cut

namespace ContextTransform

variable (self : ContextTransform J) (toolDescriptors : List (ToolDescriptor J))
  (messages : List (ChatMessage J B))

def fits : Prop := estimateTokens (self.compacted messages) ≤ self.available toolDescriptors

instance : Decidable (self.fits toolDescriptors messages) :=
  inferInstanceAs (Decidable (_ ≤ _))

def keptHistory : List (ChatMessage J B) :=
  if self.fits toolDescriptors messages then history (self.compacted messages)
  else cut (history (self.compacted messages))
    (self.historyBudget toolDescriptors (self.compacted messages)) self.policy.minRecentMessages

/-- The leading system messages and a tail of the history make up the output, in their order and
with nothing between them but interrupted results. The tail holds enough recent messages and no more
than fits, and calls and results are on the same side of the cut. What fits is not cut. -/
structure Truncates (context : ContextTransform J) (toolDescriptors : List (ToolDescriptor J))
    (messages : List (ChatMessage J B)) : Prop where
  suffix : context.keptHistory toolDescriptors messages <:+ history (context.compacted messages)
  output : Repaired (systemPrefix (context.compacted messages) ++
    context.keptHistory toolDescriptors messages) (context.transform toolDescriptors messages)
  whole : context.fits toolDescriptors messages →
    context.transform toolDescriptors messages = context.compacted messages
  results : WellFormed (context.keptHistory toolDescriptors messages)
  calls : ∀ dropped, history (context.compacted messages) =
    dropped ++ context.keptHistory toolDescriptors messages → WellFormed dropped
  recent : min context.policy.minRecentMessages (history (context.compacted messages)).length ≤
    (context.keptHistory toolDescriptors messages).length
  size : Justified (context.historyBudget toolDescriptors (context.compacted messages))
    context.policy.minRecentMessages (context.keptHistory toolDescriptors messages)

end ContextTransform

open ContextTransform

/-- A well-formed history is truncated as promised exactly when it fits as a whole, or no result that
is kept is separated by another message from a call that is not. -/
theorem history_truncated (self : ContextTransform J) (toolDescriptors : List (ToolDescriptor J))
    (messages : List (ChatMessage J B)) (h : WellFormed messages) :
    self.Truncates toolDescriptors messages ↔
      self.fits toolDescriptors messages ∨
        KeepsSeparated (history (self.compacted messages))
          (self.historyBudget toolDescriptors (self.compacted messages))
          self.policy.minRecentMessages := by
  have hhistory : WellFormed (history (self.compacted messages)) :=
    (h.compact self.artifactCompaction).history
  have hcalls : ∀ dropped kept, history (self.compacted messages) = dropped ++ kept →
      WellFormed dropped := fun dropped kept heq => WellFormed.of_append (heq ▸ hhistory)
  by_cases hfits : self.fits toolDescriptors messages
  · have hkept : self.keptHistory toolDescriptors messages = history (self.compacted messages) :=
      if_pos hfits
    have hwhole : self.transform toolDescriptors messages = self.compacted messages := if_pos hfits
    refine iff_of_true ⟨?_, ?_, fun _ => hwhole, ?_, fun dropped => hcalls dropped _, ?_, ?_⟩
      (.inl hfits)
    · exact hkept ▸ List.suffix_refl _
    · rw [hkept, hwhole, systemPrefix, history, List.takeWhile_append_dropWhile]
      exact .refl _
    · rwa [hkept]
    · rw [hkept]
      exact Nat.min_le_right _ _
    · rw [hkept]
      refine ⟨[], _, rfl, .inr ?_, .inl rfl⟩
      have htotal : estimateTokens (self.compacted messages) =
          estimateTokens (systemPrefix (self.compacted messages)) +
            estimateTokens (history (self.compacted messages)) := by
        rw [← estimateTokens_append, systemPrefix, history, List.takeWhile_append_dropWhile]
      rw [fits, htotal] at hfits
      exact Nat.le_sub_of_add_le' hfits
  · have hkept : self.keptHistory toolDescriptors messages = cut (history (self.compacted messages))
        (self.historyBudget toolDescriptors (self.compacted messages))
        self.policy.minRecentMessages := if_neg hfits
    rw [or_iff_right hfits, ← wellFormed_cut_iff, ← hkept]
    have hcut : self.transform toolDescriptors messages = patchDanglingToolCalls self.gen
        (systemPrefix (self.compacted messages) ++ self.keptHistory toolDescriptors messages) := by
      rw [hkept]
      exact if_neg hfits
    refine ⟨fun ht => ht.results, fun hw => ⟨?_, ?_, fun hin => absurd hin hfits, hw,
      fun dropped => hcalls dropped _, ?_, ?_⟩⟩
    · rw [hkept]
      exact List.drop_suffix _ _
    · rw [hcut]
      exact repaired_patch _ _
    · rw [hkept]
      exact cut_recent
    · rw [hkept]
      exact cut_justified

def callMessage : ChatMessage Unit Unit :=
  ⟨none, .assistant, [], some [⟨"call", "tool", ()⟩], none, .all, none⟩

def resultMessage : ChatMessage Unit Unit := ⟨none, .tool, [], none, some "call", .all, none⟩

def interruptedGroup : List (ChatMessage Unit Unit) :=
  [callMessage, plainMessage .user, resultMessage]

lemma wellFormed_interruptedGroup : WellFormed interruptedGroup := by
  intro before result after heq htool
  rcases before with _ | ⟨m₁, _ | ⟨m₂, _ | ⟨m₃, before⟩⟩⟩
  · cases heq
    cases htool
  · cases heq
    cases htool
  · cases heq
    exact ⟨callMessage, List.mem_cons_self, rfl, "call", rfl, by decide⟩
  · simp [interruptedGroup] at heq

theorem history_truncated_interrupted :
    (smallTransform 3).Truncates [] interruptedGroup ↔
      (smallTransform 3).fits [] interruptedGroup ∨
        KeepsSeparated (history ((smallTransform 3).compacted interruptedGroup))
          ((smallTransform 3).historyBudget [] ((smallTransform 3).compacted interruptedGroup))
          (smallTransform 3).policy.minRecentMessages :=
  history_truncated _ _ _ wellFormed_interruptedGroup

theorem result_cut_off :
    ¬ ∀ (self : ContextTransform Unit) (messages : List (ChatMessage Unit Unit)),
      WellFormed messages → self.Truncates [] messages := by
  intro h
  have hresults := (h (smallTransform 2) interruptedGroup wellFormed_interruptedGroup).results
  have hkept : (smallTransform 2).keptHistory [] interruptedGroup =
      [plainMessage .user, resultMessage] := by decide
  obtain ⟨call, hmem, hrole, -⟩ := hresults [plainMessage .user] resultMessage [] hkept rfl
  rw [List.mem_singleton.mp hmem] at hrole
  cases hrole

end Awaken.Context
