import Awaken.Contract.MessageLog

namespace Awaken.Contract

open Awaken.Agent.LoopState (Role Visibility)

variable {J C : Type}

def Message.Calls (message : Message J C) (id : String) : Prop :=
  message.role = .assistant ∧ ∃ calls, message.toolCalls = some calls ∧ id ∈ calls.map (·.id)

def Message.Answers (message : Message J C) (id : String) : Prop :=
  message.role = .tool ∧ message.toolCallId = some id

def Live (messages : List (Message J C)) (id : String) : Prop :=
  id ∈ answeredCalls messages ∧ id ∉ retractedCalls messages

inductive Stripped : List (Message J C) → List (Message J C) → Prop
  | nil : Stripped [] []
  | drop {message : Message J C} {messages view : List (Message J C)} {id : String}
      (hanswers : message.Answers id) : Stripped messages view → Stripped (message :: messages) view
  | keep {message : Message J C} {messages view : List (Message J C)} :
      Stripped messages view → Stripped (message :: messages) (message :: view)
  | thin {message : Message J C} {messages view : List (Message J C)} {calls kept : List (ToolCall J)}
      (hrole : message.role = .assistant) (hcalls : message.toolCalls = some calls)
      (hkept : kept.Sublist calls) : Stripped messages view →
        Stripped (message :: messages)
          ({ message with toolCalls := if kept.isEmpty then none else some kept } :: view)

structure Paired (messages view : List (Message J C)) : Prop where
  answered : ∀ message ∈ view, ∀ id, message.Calls id → ∃ result ∈ view, result.Answers id
  called : ∀ result ∈ view, ∀ id, result.Answers id → ∃ message ∈ view, message.Calls id
  stripped : Stripped messages view
  keepsCalls : ∀ id, Live messages id → ∀ message ∈ messages, message.Calls id →
    ∃ message ∈ view, message.Calls id
  keepsResults : ∀ id, Live messages id → ∀ result ∈ messages, result.Answers id →
    result.visibility = .all → result ∈ view
  again : stripUnpairedToolCallsFromView view = view

/-- Every result that everybody sees has its call, unless it is retracted. -/
def NoOrphans (messages : List (Message J C)) : Prop :=
  ∀ result ∈ messages, ∀ id, result.Answers id → result.visibility = .all →
    id ∉ retractedCalls messages → ∃ message ∈ messages, message.Calls id

section Retain

variable {answered retracted : List String} {message : Message J C} {id : String}

@[simp] lemma retainCalls_id (answered retracted : List String) (message : Message J C) :
    (retainCalls answered retracted message).id = message.id := by
  unfold retainCalls
  split
  · split <;> rfl
  · rfl

@[simp] lemma retainCalls_role (answered retracted : List String) (message : Message J C) :
    (retainCalls answered retracted message).role = message.role := by
  unfold retainCalls
  split
  · split <;> rfl
  · rfl

@[simp] lemma staysInView_retainCalls (answered retracted dropped : List String)
    (message : Message J C) :
    staysInView dropped (retainCalls answered retracted message) = staysInView dropped message := by
  unfold retainCalls
  split
  · split <;> rfl
  · rfl

lemma retainCalls_of_ne (h : message.role ≠ .assistant) :
    retainCalls answered retracted message = message := if_neg h

lemma retainCalls_calls : (retainCalls answered retracted message).Calls id ↔
    message.Calls id ∧ id ∈ answered ∧ id ∉ retracted := by
  by_cases hrole : message.role = .assistant
  · cases hcalls : message.toolCalls with
    | none => simp [Message.Calls, retainCalls, hrole, hcalls]
    | some calls =>
      have hkeep : (retainCalls answered retracted message).toolCalls =
          (fun kept => if kept.isEmpty then none else some kept)
            (calls.filter (fun call => call.id ∈ answered && call.id ∉ retracted)) := by
        simp [retainCalls, hrole, hcalls]
      rw [Message.Calls, Message.Calls, hkeep, retainCalls_role, hcalls]
      constructor
      · rintro ⟨-, kept, hkept, hid⟩
        dsimp only at hkept
        split at hkept
        · cases hkept
        · cases hkept
          obtain ⟨call, hmem, rfl⟩ := List.mem_map.mp hid
          obtain ⟨hin, hlive⟩ := List.mem_filter.mp hmem
          exact ⟨⟨hrole, calls, rfl, List.mem_map_of_mem hin⟩, by simpa using hlive⟩
      · rintro ⟨⟨-, all, hall, hid⟩, hlive⟩
        cases hall
        obtain ⟨call, hin, rfl⟩ := List.mem_map.mp hid
        have hmem : call ∈ calls.filter (fun call => call.id ∈ answered && call.id ∉ retracted) :=
          List.mem_filter.mpr ⟨hin, by simpa using hlive⟩
        refine ⟨hrole, _, ?_, List.mem_map_of_mem hmem⟩
        exact if_neg (fun hnil => List.ne_nil_of_mem hmem (List.isEmpty_iff.mp hnil))
  · rw [retainCalls_of_ne hrole]
    exact iff_of_false (fun h => hrole h.1) (fun h => hrole h.1.1)

end Retain

section View

variable {messages : List (Message J C)} {message result : Message J C} {id : String}

lemma mem_toolCallIds {visibility : Visibility} : id ∈ toolCallIds visibility messages ↔
    ∃ result ∈ messages, result.Answers id ∧ result.visibility = visibility := by
  rw [toolCallIds, List.mem_filterMap]
  constructor
  · rintro ⟨result, hmem, hid⟩
    split at hid
    · rename_i h
      exact ⟨result, hmem, ⟨h.1, hid⟩, h.2⟩
    · cases hid
  · rintro ⟨result, hmem, ⟨hrole, hid⟩, hvisible⟩
    exact ⟨result, hmem, by rw [if_pos ⟨hrole, hvisible⟩, hid]⟩

lemma live_of_answers (hmem : result ∈ messages) (hanswers : result.Answers id)
    (hvisible : result.visibility = .all) (hkept : id ∉ retractedCalls messages) :
    Live messages id :=
  ⟨(mem_toolCallIds).mpr ⟨result, hmem, hanswers, hvisible⟩, hkept⟩

lemma stays_of_answers (hanswers : result.Answers id) :
    staysInView (retractedCalls messages) result = true ↔
      result.visibility = .all ∧ id ∉ retractedCalls messages := by
  simp [staysInView, hanswers.1, hanswers.2]

lemma mem_strip : message ∈ stripUnpairedToolCallsFromView messages ↔
    ∃ m ∈ messages, retainCalls (answeredCalls messages) (retractedCalls messages) m = message ∧
      staysInView (retractedCalls messages) m = true := by
  rw [stripUnpairedToolCallsFromView, List.mem_filter, List.mem_map]
  constructor
  · rintro ⟨⟨m, hmem, rfl⟩, hstays⟩
    exact ⟨m, hmem, rfl, by simpa using hstays⟩
  · rintro ⟨m, hmem, rfl, hstays⟩
    exact ⟨⟨m, hmem, rfl⟩, by simpa using hstays⟩

lemma mem_strip_result (hanswers : result.Answers id) :
    result ∈ stripUnpairedToolCallsFromView messages ↔
      result ∈ messages ∧ result.visibility = .all ∧ id ∉ retractedCalls messages := by
  have hself : ∀ m : Message J C, m.role = .tool →
      retainCalls (answeredCalls messages) (retractedCalls messages) m = m :=
    fun m hm => retainCalls_of_ne (by rw [hm]; decide)
  rw [mem_strip, ← stays_of_answers hanswers]
  constructor
  · rintro ⟨m, hmem, heq, hstays⟩
    have hrole : m.role = .tool := by
      rw [← retainCalls_role (answeredCalls messages) (retractedCalls messages) m, heq, hanswers.1]
    rw [hself m hrole] at heq
    exact heq ▸ ⟨hmem, hstays⟩
  · rintro ⟨hmem, hstays⟩
    exact ⟨result, hmem, hself result hanswers.1, hstays⟩

lemma calls_strip : (∃ m ∈ stripUnpairedToolCallsFromView messages, m.Calls id) ↔
    (∃ m ∈ messages, m.Calls id) ∧ Live messages id := by
  constructor
  · rintro ⟨m, hmem, hcalls⟩
    obtain ⟨m, hin, rfl, -⟩ := (mem_strip).mp hmem
    obtain ⟨hcalls, hlive⟩ := (retainCalls_calls).mp hcalls
    exact ⟨⟨m, hin, hcalls⟩, hlive⟩
  · rintro ⟨⟨m, hin, hcalls⟩, hlive⟩
    have hstays : staysInView (retractedCalls messages) m = true := by
      simp [staysInView, hcalls.1]
    exact ⟨_, (mem_strip).mpr ⟨m, hin, rfl, hstays⟩, (retainCalls_calls).mpr ⟨hcalls, hlive⟩⟩

lemma retracted_strip : retractedCalls (stripUnpairedToolCallsFromView messages) = [] := by
  rw [List.eq_nil_iff_forall_not_mem]
  intro id hid
  obtain ⟨result, hmem, hanswers, hvisible⟩ := (mem_toolCallIds).mp hid
  rw [((mem_strip_result hanswers).mp hmem).2.1] at hvisible
  cases hvisible

lemma answered_strip (h : Live messages id) :
    id ∈ answeredCalls (stripUnpairedToolCallsFromView messages) := by
  obtain ⟨result, hmem, hanswers, hvisible⟩ := (mem_toolCallIds).mp h.1
  exact (mem_toolCallIds).mpr
    ⟨result, (mem_strip_result hanswers).mpr ⟨hmem, hvisible, h.2⟩, hanswers, hvisible⟩

lemma retainCalls_eq_self {answered retracted : List String}
    (hsome : message.role = .assistant → message.toolCalls ≠ some [])
    (hcalls : ∀ id, message.Calls id → id ∈ answered ∧ id ∉ retracted) :
    retainCalls answered retracted message = message := by
  by_cases hrole : message.role = .assistant
  · cases hlist : message.toolCalls with
    | none => simp [retainCalls, hrole, hlist]
    | some calls =>
      have hall : calls.filter (fun call => call.id ∈ answered && call.id ∉ retracted) = calls := by
        refine List.filter_eq_self.mpr (fun call hmem => ?_)
        simpa using hcalls call.id ⟨hrole, calls, hlist, List.mem_map_of_mem hmem⟩
      have hnil : calls.isEmpty = false := by
        refine List.isEmpty_eq_false_iff.mpr (fun hnil => hsome hrole ?_)
        rw [hlist, hnil]
      unfold retainCalls
      rw [if_pos hrole, hlist]
      simp only [hall, hnil]
      rw [← hlist]
      rfl
  · exact retainCalls_of_ne hrole

lemma retainCalls_some {answered retracted : List String} (hrole : message.role = .assistant) :
    (retainCalls answered retracted message).toolCalls ≠ some [] := by
  intro h
  unfold retainCalls at h
  rw [if_pos hrole] at h
  split at h
  · dsimp only at h
    split at h
    · cases h
    · rename_i hkept
      rw [Option.some_inj.mp h] at hkept
      exact hkept rfl
  · rename_i hnone
    rw [hnone] at h
    cases h

lemma strip_strip : stripUnpairedToolCallsFromView (stripUnpairedToolCallsFromView messages) =
    stripUnpairedToolCallsFromView messages := by
  have hretain : ∀ m ∈ stripUnpairedToolCallsFromView messages,
      retainCalls (answeredCalls (stripUnpairedToolCallsFromView messages)) [] m = m := by
    intro m hmem
    obtain ⟨m₀, hin, rfl, -⟩ := (mem_strip).mp hmem
    refine retainCalls_eq_self (fun hrole => ?_) (fun id hcalls => ⟨?_, List.not_mem_nil⟩)
    · rw [retainCalls_role] at hrole
      exact retainCalls_some hrole
    · exact answered_strip (retainCalls_calls.mp hcalls).2
  have hstays : ∀ m ∈ stripUnpairedToolCallsFromView messages, staysInView [] m = true := by
    intro m hmem
    obtain ⟨m₀, hin, rfl, hstays⟩ := (mem_strip).mp hmem
    rw [staysInView_retainCalls]
    unfold staysInView at hstays ⊢
    split
    · rename_i hrole
      rw [if_pos hrole] at hstays
      split
      · rename_i callId hid
        rw [hid] at hstays
        simp at hstays
        simp [hstays.1]
      · rfl
    · rfl
  rw [stripUnpairedToolCallsFromView, retracted_strip, List.map_congr_left hretain, List.map_id',
    List.filter_eq_self.mpr hstays]

lemma stripped_strip (answered retracted : List String) : Stripped messages
    ((messages.map (retainCalls answered retracted)).filter (staysInView retracted)) := by
  induction messages with
  | nil => exact .nil
  | cons message messages ih =>
    rw [List.map_cons, List.filter_cons]
    split
    · by_cases hrole : message.role = .assistant
      · cases hcalls : message.toolCalls with
        | none =>
          have hself : retainCalls answered retracted message = message := by
            simp [retainCalls, hrole, hcalls]
          rw [hself]
          exact .keep ih
        | some calls =>
          have hthin := Stripped.thin hrole hcalls
            (List.filter_sublist (p := fun call => call.id ∈ answered && call.id ∉ retracted)) ih
          simpa [retainCalls, hrole, hcalls] using hthin
      · rw [retainCalls_of_ne hrole]
        exact .keep ih
    · rename_i hdrops
      rw [staysInView_retainCalls, staysInView] at hdrops
      split at hdrops
      · rename_i hrole
        split at hdrops
        · rename_i callId hid
          exact .drop ⟨hrole, hid⟩ ih
        · exact absurd rfl hdrops
      · exact absurd rfl hdrops

end View

theorem view_paired_iff (messages : List (Message J C)) :
    Paired messages (stripUnpairedToolCallsFromView messages) ↔ NoOrphans messages := by
  constructor
  · intro h result hmem id hanswers hvisible hkept
    have hview := (mem_strip_result hanswers).mpr ⟨hmem, hvisible, hkept⟩
    exact (calls_strip.mp (h.called result hview id hanswers)).1
  · intro h
    refine ⟨fun message hmem id hcalls => ?_, fun result hmem id hanswers => ?_,
      stripped_strip _ _, fun id hlive message hmem hcalls => ?_,
      fun id hlive result hmem hanswers hvisible => ?_, strip_strip⟩
    · have hlive := (calls_strip.mp ⟨message, hmem, hcalls⟩).2
      obtain ⟨result, hin, hanswers, hvisible⟩ := (mem_toolCallIds).mp hlive.1
      exact ⟨result, (mem_strip_result hanswers).mpr ⟨hin, hvisible, hlive.2⟩, hanswers⟩
    · obtain ⟨hin, hvisible, hkept⟩ := (mem_strip_result hanswers).mp hmem
      exact (calls_strip).mpr
        ⟨h result hin id hanswers hvisible hkept, live_of_answers hin hanswers hvisible hkept⟩
    · exact (calls_strip).mpr ⟨⟨message, hmem, hcalls⟩, hlive⟩
    · exact (mem_strip_result hanswers).mpr ⟨hmem, hvisible, hlive.2⟩

def orphanResult : List (Message Unit Unit) := [.tool "m1" "c1" ()]

theorem orphan_stays_in_view :
    (orphanResult.flatMap (fun m => (m.toolCalls.getD []).map (·.id))).Nodup ∧
      ¬Paired orphanResult (stripUnpairedToolCallsFromView orphanResult) := by
  refine ⟨List.nodup_nil, fun h => ?_⟩
  have hmem : Message.tool "m1" "c1" () ∈ stripUnpairedToolCallsFromView orphanResult := by decide
  obtain ⟨message, hin, hcalls⟩ := h.called _ hmem "c1" ⟨rfl, rfl⟩
  have hview : stripUnpairedToolCallsFromView orphanResult = orphanResult := by decide
  rw [hview, orphanResult, List.mem_singleton] at hin
  rw [hin] at hcalls
  cases hcalls.1

end Awaken.Contract
