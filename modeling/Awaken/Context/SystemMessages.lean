import Mathlib.Data.List.InsertIdx
import Mathlib.Data.List.Perm.Basic
import Awaken.Context.SplitPoint

namespace Awaken.Context

open Awaken.Contract
open Awaken.Agent.LoopState (Role)

variable {J B : Type}

section Repair

def Repaired (base out : List (ChatMessage J B)) : Prop :=
  base.Sublist out ∧ ∃ added, out.Perm (base ++ added) ∧
    ∀ msg ∈ added, ∃ messageId callId, msg = interrupted messageId callId

variable {base out : List (ChatMessage J B)}

lemma Repaired.refl (base : List (ChatMessage J B)) : Repaired base base :=
  ⟨List.Sublist.refl _, [], by rw [List.append_nil], fun _ h => by cases h⟩

lemma Repaired.insert (h : Repaired base out) (i : Nat) (messageId callId : String) :
    Repaired base (out.insertIdx i (interrupted messageId callId)) := by
  obtain ⟨hsub, added, hperm, hadded⟩ := h
  refine ⟨hsub.trans (List.sublist_insertIdx _ _ _), ?_⟩
  rcases Nat.lt_or_ge out.length i with hlt | hle
  · rw [List.insertIdx_of_length_lt hlt]
    exact ⟨added, hperm, hadded⟩
  · refine ⟨interrupted messageId callId :: added, ?_, ?_⟩
    · have hins := List.perm_insertIdx (interrupted messageId callId) out hle
      exact hins.trans ((hperm.cons _).trans List.perm_middle.symm)
    · intro msg hmem
      rcases List.mem_cons.mp hmem with rfl | hmem
      · exact ⟨messageId, callId, rfl⟩
      · exact hadded msg hmem

def Interrupted (insertion : Nat × List (ChatMessage J B)) : Prop :=
  ∀ msg ∈ insertion.2, ∃ messageId callId, msg = interrupted messageId callId

lemma Repaired.insertResults {insertion : Nat × List (ChatMessage J B)} (h : Repaired base out)
    (hi : Interrupted insertion) : Repaired base (insertResults out insertion) := by
  have hall : ∀ (messages : List (ChatMessage J B × Nat)) (out : List (ChatMessage J B)) (idx : Nat),
      (∀ m ∈ messages, ∃ messageId callId, m.1 = interrupted messageId callId) →
      Repaired base out →
        Repaired base (messages.foldl (fun out m => out.insertIdx (idx + m.2) m.1) out) := by
    intro messages
    induction messages with
    | nil => exact fun _ _ _ h => h
    | cons m messages ih =>
      intro out idx hm h
      obtain ⟨messageId, callId, hfirst⟩ := hm m List.mem_cons_self
      refine ih _ idx (fun m' hm' => hm m' (List.mem_cons_of_mem _ hm')) ?_
      dsimp only
      rw [hfirst]
      exact h.insert _ messageId callId
  refine hall _ out _ (fun m hm => hi m.1 ?_) h
  exact (List.mem_zipIdx' hm).2 ▸ List.getElem_mem _

lemma insertions_interrupted (gen : Nat → String) (messages : List (ChatMessage J B))
    (ids : List String) (rest : List (ChatMessage J B)) (i drawn : Nat) :
    ∀ insertion ∈ insertions gen messages ids rest i drawn, Interrupted insertion := by
  induction rest generalizing i drawn with
  | nil => exact fun _ h => by cases h
  | cons msg rest ih =>
    intro insertion hmem
    unfold insertions at hmem
    dsimp only at hmem
    split at hmem
    · exact ih _ _ _ hmem
    · rcases List.mem_cons.mp hmem with rfl | hmem
      · intro m hm
        obtain ⟨missing, -, rfl⟩ := List.mem_map.mp hm
        exact ⟨_, _, rfl⟩
      · exact ih _ _ _ hmem

lemma repaired_patch (gen : Nat → String) (messages : List (ChatMessage J B)) :
    Repaired messages (patchDanglingToolCalls gen messages) := by
  have hall : ∀ (steps : List (Nat × List (ChatMessage J B))) (out : List (ChatMessage J B)),
      (∀ step ∈ steps, Interrupted step) → Repaired messages out →
        Repaired messages (steps.foldl insertResults out) := by
    intro steps
    induction steps with
    | nil => exact fun _ _ h => h
    | cons step steps ih =>
      intro out hs h
      exact ih _ (fun s hmem => hs s (List.mem_cons_of_mem _ hmem))
        (h.insertResults (hs step List.mem_cons_self))
  refine hall _ messages (fun step hstep => ?_) (.refl messages)
  exact insertions_interrupted gen messages _ messages 0 0 step (List.mem_reverse.mp hstep)

lemma Repaired.system_eq (h : Repaired base out) : out.filter isSystem = base.filter isSystem := by
  obtain ⟨hsub, added, hperm, hadded⟩ := h
  have hnone : added.filter isSystem = [] := by
    rw [List.filter_eq_nil_iff]
    intro msg hmem
    obtain ⟨messageId, callId, rfl⟩ := hadded msg hmem
    simp [interrupted, isSystem, Message.tool]
  have hlen := (hperm.filter isSystem).length_eq
  rw [List.filter_append, hnone, List.append_nil] at hlen
  exact ((hsub.filter isSystem).eq_of_length hlen.symm).symm

end Repair

section Compaction

variable (config : ArtifactCompactionConfig)

lemma compactMessage_role (msg : ChatMessage J B) : (compactMessage config msg).role = msg.role := by
  unfold compactMessage
  split
  · rfl
  · split <;> rfl

lemma compactMessage_system {msg : ChatMessage J B} (h : isSystem msg = true) :
    compactMessage config msg = msg := by
  have hrole : msg.role = .system := of_decide_eq_true h
  unfold compactMessage
  rw [if_pos (by simp [hrole])]

lemma compact_system (messages : List (ChatMessage J B)) :
    (compactToolResultsWithConfig messages config).filter isSystem = messages.filter isSystem := by
  rw [compactToolResultsWithConfig, List.filter_map]
  have hsame : isSystem ∘ compactMessage config = (isSystem : ChatMessage J B → Bool) := by
    funext msg
    simp only [Function.comp_apply, isSystem, compactMessage_role]
  rw [hsame]
  conv_rhs => rw [← List.map_id (messages.filter isSystem)]
  exact List.map_congr_left (fun msg hmem => compactMessage_system config (List.mem_filter.mp hmem).2)

end Compaction

lemma filter_drop_eq {p : ChatMessage J B → Bool} {history : List (ChatMessage J B)} {n : Nat} :
    (history.drop n).filter p = history.filter p ↔
      ∀ before msg after, history = before ++ msg :: after → p msg = true → n ≤ before.length := by
  induction history generalizing n with
  | nil => simp
  | cons first rest ih =>
    cases n with
    | zero => simp
    | succ n =>
      rw [List.drop_succ_cons]
      by_cases hp : p first = true
      · refine iff_of_false (fun h => ?_) (fun h => ?_)
        · have hlen := congrArg List.length h
          have hsub := ((List.drop_sublist n rest).filter p).length_le
          rw [List.filter_cons_of_pos hp, List.length_cons] at hlen
          omega
        · exact absurd (h [] first rest rfl hp) (Nat.not_succ_le_zero n)
      · rw [List.filter_cons_of_neg hp, ih]
        constructor
        · intro h before msg after heq hmsg
          cases before with
          | nil =>
            rw [List.nil_append, List.cons.injEq] at heq
            exact absurd (heq.1 ▸ hmsg) hp
          | cons b before =>
            rw [List.cons_append, List.cons.injEq] at heq
            exact Nat.succ_le_succ (h before msg after heq.2 hmsg)
        · intro h before msg after heq hmsg
          exact Nat.le_of_succ_le_succ (h (first :: before) msg after (by rw [heq]; rfl) hmsg)

namespace ContextTransform

variable (self : ContextTransform J) (toolDescriptors : List (ToolDescriptor J))
  (messages : List (ChatMessage J B))

def compacted : List (ChatMessage J B) :=
  compactToolResultsWithConfig messages self.artifactCompaction

/-- All messages fit, or each system message behind the leading ones is among those that are kept. -/
def KeepsSystem : Prop :=
  estimateTokens (self.compacted messages) ≤ self.available toolDescriptors ∨
    ∀ before msg after, history (self.compacted messages) = before ++ msg :: after →
      isSystem msg = true →
        Kept (self.historyBudget toolDescriptors (self.compacted messages))
          self.policy.minRecentMessages (msg :: after)

variable {self toolDescriptors messages}

lemma drop_append_cons (before : List (ChatMessage J B)) (msg : ChatMessage J B)
    (after : List (ChatMessage J B)) :
    (before ++ msg :: after).drop before.length = msg :: after := List.drop_left

lemma truncated_system {messages : List (ChatMessage J B)} :
    (self.truncated toolDescriptors messages).filter isSystem = messages.filter isSystem ↔
      ∀ before msg after, history messages = before ++ msg :: after → isSystem msg = true →
        Kept (self.historyBudget toolDescriptors messages) self.policy.minRecentMessages
          (msg :: after) := by
  have hwhole : messages.filter isSystem =
      (systemPrefix messages).filter isSystem ++ (history messages).filter isSystem := by
    rw [← List.filter_append, systemPrefix, history, List.takeWhile_append_dropWhile]
  rw [truncated, List.filter_append, hwhole, List.append_right_inj, filter_drop_eq]
  refine forall_congr' fun before => forall_congr' fun msg => forall_congr' fun after =>
    forall_congr' fun heq => forall_congr' fun _ => ?_
  have hlt : before.length < (history messages).length := by
    rw [heq, List.length_append, List.length_cons]
    omega
  rw [findSplitPoint_le_iff hlt, heq, drop_append_cons]

/-- The system messages all survive, and what is retained keeps its order: the output is a part of
the compacted input with interrupted results inserted. -/
def SystemSurvives (messages out : List (ChatMessage J B)) : Prop :=
  out.filter isSystem = messages.filter isSystem ∧
    ∃ retained, retained.Sublist (self.compacted messages) ∧ Repaired retained out

end ContextTransform

/-- A transform keeps the system messages exactly when the messages fit or the cut does not reach a
system message behind the leading ones. -/
theorem system_messages_survive (self : ContextTransform J)
    (toolDescriptors : List (ToolDescriptor J)) (messages : List (ChatMessage J B)) :
    self.SystemSurvives messages (self.transform toolDescriptors messages) ↔
      self.KeepsSystem toolDescriptors messages := by
  have hcompact : (self.compacted messages).filter isSystem = messages.filter isSystem :=
    compact_system _ messages
  unfold ContextTransform.SystemSurvives ContextTransform.KeepsSystem
  by_cases hfit : estimateTokens (self.compacted messages) ≤ self.available toolDescriptors
  · have hout : self.transform toolDescriptors messages = self.compacted messages := if_pos hfit
    rw [hout]
    exact iff_of_true ⟨hcompact, _, List.Sublist.refl _, .refl _⟩ (.inl hfit)
  · have hout : self.transform toolDescriptors messages = patchDanglingToolCalls self.gen
        (self.truncated toolDescriptors (self.compacted messages)) := if_neg hfit
    have hrepair := repaired_patch self.gen
      (self.truncated toolDescriptors (self.compacted messages))
    have hpart : (self.truncated toolDescriptors (self.compacted messages)).Sublist
        (self.compacted messages) := by
      conv_rhs => rw [← List.takeWhile_append_dropWhile (p := isSystem)
        (l := self.compacted messages)]
      exact List.Sublist.append_left (List.drop_sublist _ _) _
    rw [hout, hrepair.system_eq, ← hcompact, ContextTransform.truncated_system,
      or_iff_right hfit]
    exact and_iff_left ⟨_, hpart, hrepair⟩

def plainMessage (role : Role) : ChatMessage Unit Unit := ⟨none, role, [], none, none, .all, none⟩

def smallTransform (minRecent : Nat) : ContextTransform Unit :=
  ⟨⟨5, 0, minRecent⟩, .default, fun _ => none, fun _ => ""⟩

theorem system_message_cut :
    ¬ ∀ (self : ContextTransform Unit) (messages : List (ChatMessage Unit Unit)),
      ∀ msg ∈ messages, isSystem msg = true → msg ∈ self.transform [] messages := by
  intro h
  have hmem := h (smallTransform 1) [plainMessage .user, plainMessage .system, plainMessage .user]
    (plainMessage .system) (by decide) rfl
  exact absurd hmem (by decide)

end Awaken.Context
