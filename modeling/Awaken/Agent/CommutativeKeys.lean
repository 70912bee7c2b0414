import Awaken.Agent.LoopState
import Awaken.State.Mutation

namespace Awaken.Agent.LoopState

open Awaken.State

/-- The two updates lead from `value` to the same result in either order. -/
def Exchanges {J : Type} (key : StateKey J) (value : key.Value) (a b : key.Update) : Prop :=
  key.apply (key.apply value a) b = key.apply (key.apply value b) a

section ToolCalls

variable {J : Type}

lemma currentStatus_update_self (calls : ToolCallStateMap J) (id : String) (s : ToolCallState J) :
    currentStatus (Function.update calls id (some s)) id = s.status := by
  rw [currentStatus, Function.update_self]
  rfl

lemma currentStatus_update_of_ne {id id' : String} (h : id' ≠ id) (calls : ToolCallStateMap J)
    (s : Option (ToolCallState J)) :
    currentStatus (Function.update calls id s) id' = currentStatus calls id' := by
  rw [currentStatus, Function.update_of_ne h, currentStatus]

def PutsExchange (calls : ToolCallStateMap J) (s t : ToolCallState J) : Prop :=
  let current := currentStatus calls s.callId
  s.callId ≠ t.callId ∨ s.normalized = t.normalized ∨
    match current.canTransitionTo s.status, current.canTransitionTo t.status with
    | false, false => True
    | true, false => s.status.canTransitionTo t.status = false
    | false, true => t.status.canTransitionTo s.status = false
    | true, true => s.status.canTransitionTo t.status ≠ t.status.canTransitionTo s.status

def ToolCallsExchange (calls : ToolCallStateMap J) : ToolCallStatesUpdate J →
    ToolCallStatesUpdate J → Prop
  | .put s, .put t => PutsExchange calls s t
  | .clear, .clear => True
  | _, _ => False

lemma apply_put_of_can {calls : ToolCallStateMap J} {s : ToolCallState J}
    (h : (currentStatus calls s.callId).canTransitionTo s.status = true) :
    applyToolCalls calls (.put s) = Function.update calls s.callId (some s.normalized) :=
  if_pos h

lemma apply_put_of_not {calls : ToolCallStateMap J} {s : ToolCallState J}
    (h : ¬ (currentStatus calls s.callId).canTransitionTo s.status = true) :
    applyToolCalls calls (.put s) = calls :=
  if_neg h

lemma puts_same_id (calls : ToolCallStateMap J) (s t : ToolCallState J) (h : t.callId = s.callId) :
    applyToolCalls (applyToolCalls calls (.put s)) (.put t) =
      Function.update calls s.callId
        (if (currentStatus calls s.callId).canTransitionTo s.status then
          if s.status.canTransitionTo t.status then some t.normalized else some s.normalized
        else if (currentStatus calls s.callId).canTransitionTo t.status then some t.normalized
        else calls s.callId) := by
  by_cases hs : (currentStatus calls s.callId).canTransitionTo s.status
  · have hcur : currentStatus (Function.update calls s.callId (some s.normalized)) t.callId =
        s.status := by
      rw [h, currentStatus_update_self]
      rfl
    rw [apply_put_of_can hs, if_pos hs]
    by_cases ht : s.status.canTransitionTo t.status
    · rw [apply_put_of_can (by rwa [hcur]), if_pos ht, h, Function.update_idem]
    · rw [apply_put_of_not (by rwa [hcur]), if_neg ht]
  · rw [apply_put_of_not hs, if_neg hs]
    by_cases ht : (currentStatus calls s.callId).canTransitionTo t.status
    · rw [apply_put_of_can (by rwa [h]), if_pos ht, h]
    · rw [apply_put_of_not (by rwa [h]), if_neg ht, Function.update_eq_self]

lemma puts_different_id (calls : ToolCallStateMap J) (s t : ToolCallState J)
    (h : s.callId ≠ t.callId) :
    applyToolCalls (applyToolCalls calls (.put s)) (.put t) =
      applyToolCalls (applyToolCalls calls (.put t)) (.put s) := by
  by_cases hs : (currentStatus calls s.callId).canTransitionTo s.status
  · by_cases ht : (currentStatus calls t.callId).canTransitionTo t.status
    · rw [apply_put_of_can hs, apply_put_of_can ht,
        apply_put_of_can (by rwa [currentStatus_update_of_ne h.symm]),
        apply_put_of_can (by rwa [currentStatus_update_of_ne h]), Function.update_comm h]
    · rw [apply_put_of_not ht, apply_put_of_can hs,
        apply_put_of_not (by rwa [currentStatus_update_of_ne h.symm])]
  · by_cases ht : (currentStatus calls t.callId).canTransitionTo t.status
    · rw [apply_put_of_not hs, apply_put_of_can ht,
        apply_put_of_not (by rwa [currentStatus_update_of_ne h])]
    · rw [apply_put_of_not hs, apply_put_of_not ht, apply_put_of_not hs]

lemma canTransitionTo_self (s : ToolCallStatus) : s.canTransitionTo s = true := by
  cases s <;> rfl

lemma update_left_inj {α : Type} {f : String → α} {k : String} {x y : α} :
    Function.update f k x = Function.update f k y ↔ x = y :=
  (Function.update_injective f k).eq_iff

lemma puts_exchange (calls : ToolCallStateMap J) (s t : ToolCallState J) :
    applyToolCalls (applyToolCalls calls (.put s)) (.put t) =
        applyToolCalls (applyToolCalls calls (.put t)) (.put s) ↔ PutsExchange calls s t := by
  by_cases h : s.callId = t.callId
  · rw [puts_same_id calls s t h.symm, puts_same_id calls t s h, ← h, update_left_inj]
    have hnorm : s.normalized = t.normalized → s.status = t.status := by
      intro hst
      have hstatus : s.normalized.status = t.normalized.status := by rw [hst]
      exact hstatus
    have hself := canTransitionTo_self t.status
    simp only [PutsExchange, h, ne_eq, not_true_eq_false, false_or]
    cases hs : (currentStatus calls t.callId).canTransitionTo s.status <;>
      cases ht : (currentStatus calls t.callId).canTransitionTo t.status <;>
        cases hst : s.status.canTransitionTo t.status <;>
          cases hts : t.status.canTransitionTo s.status <;>
            simp <;> grind
  · exact iff_of_true (puts_different_id calls s t h) (.inl h)

lemma put_after_clear (calls : ToolCallStateMap J) (s : ToolCallState J) :
    applyToolCalls (applyToolCalls calls .clear) (.put s) s.callId = some s.normalized := by
  have hnew : currentStatus (applyToolCalls calls .clear) s.callId = .new := rfl
  have hcan : ToolCallStatus.canTransitionTo .new s.status = true := by
    cases s.status <;> rfl
  rw [applyToolCalls, hnew, if_pos hcan, Function.update_self]

theorem toolCalls_exchange (codec : Codec J (ToolCallStateMap J)) (calls : ToolCallStateMap J)
    (a b : ToolCallStatesUpdate J) :
    Exchanges (toolCallStates codec) calls a b ↔ ToolCallsExchange calls a b := by
  change applyToolCalls (applyToolCalls calls a) b = applyToolCalls (applyToolCalls calls b) a ↔ _
  cases a with
  | put s =>
    cases b with
    | put t => exact puts_exchange calls s t
    | clear =>
      refine iff_of_false ?_ id
      intro h
      have hk := congrFun h s.callId
      rw [put_after_clear] at hk
      exact nomatch hk
  | clear =>
    cases b with
    | put t =>
      refine iff_of_false ?_ id
      intro h
      have hk := congrFun h t.callId
      rw [put_after_clear] at hk
      exact nomatch hk
    | clear => exact iff_of_true rfl trivial

end ToolCalls

section ContextMessages

variable {C : Type}

def ContextMessageAction.keeps : ContextMessageAction C → String → ContextMessage C → Bool
  | .upsert _ => fun _ _ => true
  | .remove key => fun k _ => k ≠ key
  | .removeByPrefix pre => fun k _ => !startsWith k pre
  | .removeEphemeral => fun _ m => m.persistent
  | .consumeAfterEmit => fun _ m => !m.consumeAfterEmit
  | .clear => fun _ _ => false

def MessagesExchange : ContextMessageAction C → ContextMessageAction C → Prop
  | .upsert m, .upsert n => m.key ≠ n.key ∨ m = n
  | .upsert m, removal | removal, .upsert m => removal.keeps m.key m = true
  | _, _ => True

def ContextMessageAction.isRemoval : ContextMessageAction C → Bool
  | .upsert _ => false
  | _ => true

lemma apply_removal {a : ContextMessageAction C} (h : a.isRemoval)
    (messages : ContextMessageStoreValue C) :
    applyContextMessages messages a = retain messages a.keeps := by
  cases a with
  | upsert m => exact nomatch h
  | remove key =>
    funext k
    by_cases hk : k = key
    · subst hk
      simp [applyContextMessages, retain, ContextMessageAction.keeps]
    · cases hm : messages k <;>
        simp [applyContextMessages, retain, ContextMessageAction.keeps, hk, hm, Option.filter]
  | removeByPrefix pre => rfl
  | removeEphemeral => rfl
  | consumeAfterEmit => rfl
  | clear =>
    funext k
    simp [applyContextMessages, retain, ContextMessageAction.keeps]

lemma retain_comm (messages : ContextMessageStoreValue C)
    (keep keep' : String → ContextMessage C → Bool) :
    retain (retain messages keep) keep' = retain (retain messages keep') keep := by
  funext k
  simp only [retain, Option.filter_filter]
  congr 1
  funext m
  exact Bool.and_comm _ _

lemma retain_upsert (messages : ContextMessageStoreValue C) (m : ContextMessage C)
    (keep : String → ContextMessage C → Bool) :
    retain (Function.update messages m.key (some m)) keep =
      Function.update (retain messages keep) m.key ((some m).filter (keep m.key)) := by
  funext k
  by_cases hk : k = m.key
  · subst hk
    simp only [retain, Function.update_self]
  · simp only [retain, Function.update_of_ne hk]

lemma upsert_removal_exchange (messages : ContextMessageStoreValue C) (m : ContextMessage C)
    {a : ContextMessageAction C} (h : a.isRemoval) :
    applyContextMessages (applyContextMessages messages (.upsert m)) a =
        applyContextMessages (applyContextMessages messages a) (.upsert m) ↔
      a.keeps m.key m = true := by
  rw [apply_removal h, apply_removal h]
  simp only [applyContextMessages]
  rw [retain_upsert, update_left_inj, Option.filter_eq_some_iff]
  exact and_iff_right rfl

lemma upserts_exchange (messages : ContextMessageStoreValue C) (m n : ContextMessage C) :
    applyContextMessages (applyContextMessages messages (.upsert m)) (.upsert n) =
        applyContextMessages (applyContextMessages messages (.upsert n)) (.upsert m) ↔
      m.key ≠ n.key ∨ m = n := by
  simp only [applyContextMessages]
  by_cases h : m.key = n.key
  · rw [h, Function.update_idem, Function.update_idem, update_left_inj, Option.some_inj, eq_comm]
    exact (or_iff_right (not_not_intro rfl)).symm
  · exact iff_of_true (Function.update_comm h _ _ _) (.inl h)

theorem messages_exchange {J : Type} (codec : Codec J (ContextMessageStoreValue C))
    (messages : ContextMessageStoreValue C) (a b : ContextMessageAction C) :
    Exchanges (contextMessageStore codec) messages a b ↔ MessagesExchange a b := by
  change applyContextMessages (applyContextMessages messages a) b =
    applyContextMessages (applyContextMessages messages b) a ↔ _
  cases ha : a.isRemoval with
  | false =>
    cases a with
    | upsert m =>
      cases hb : b.isRemoval with
      | false =>
        cases b with
        | upsert n => exact upserts_exchange messages m n
        | _ => exact nomatch hb
      | true =>
        rw [upsert_removal_exchange messages m hb]
        cases b with
        | upsert n => exact nomatch hb
        | _ => exact Iff.rfl
    | _ => exact nomatch ha
  | true =>
    cases hb : b.isRemoval with
    | false =>
      cases b with
      | upsert n =>
        rw [eq_comm, upsert_removal_exchange messages n ha]
        cases a with
        | upsert m => exact nomatch ha
        | _ => exact Iff.rfl
      | _ => exact nomatch hb
    | true =>
      have hcomm : applyContextMessages (applyContextMessages messages a) b =
          applyContextMessages (applyContextMessages messages b) a := by
        rw [apply_removal ha, apply_removal hb, apply_removal hb, apply_removal ha, retain_comm]
      refine iff_of_true hcomm ?_
      cases a with
      | upsert m => exact nomatch ha
      | _ =>
        cases b with
        | upsert n => exact nomatch hb
        | _ => exact trivial

end ContextMessages

section ToolFilter

def ToolFilterExchange : ToolFilterStateAction → ToolFilterStateAction → Prop
  | .exclude id, .exclude id' => id = id'
  | .includeOnly ids, .includeOnly ids' => ids = ids'
  | .exclude _, .includeOnly _ | .includeOnly _, .exclude _ | .clear, .clear => True
  | _, _ => False

lemma append_pair_comm {α : Type} (xs : List α) (x y : α) :
    xs ++ [x] ++ [y] = xs ++ [y] ++ [x] ↔ x = y := by
  rw [List.append_assoc, List.append_assoc, List.append_cancel_left_eq]
  constructor
  · intro h
    exact (List.cons.inj h).1
  · rintro rfl
    rfl

theorem toolFilter_exchange {J : Type} (codec : Codec J ToolFilterStateValue)
    (value : ToolFilterStateValue) (a b : ToolFilterStateAction) :
    Exchanges (toolFilterState codec) value a b ↔ ToolFilterExchange a b := by
  change applyToolFilter (applyToolFilter value a) b =
    applyToolFilter (applyToolFilter value b) a ↔ _
  cases a with
  | exclude id =>
    cases b with
    | exclude id' =>
      simp only [applyToolFilter, ToolFilterStateValue.mk.injEq, and_true]
      exact append_pair_comm _ _ _
    | includeOnly ids' => exact iff_of_true rfl trivial
    | clear => simp [applyToolFilter, ToolFilterExchange]
  | includeOnly ids =>
    cases b with
    | exclude id' => exact iff_of_true rfl trivial
    | includeOnly ids' =>
      simp only [applyToolFilter, ToolFilterStateValue.mk.injEq, true_and]
      exact append_pair_comm _ _ _
    | clear => simp [applyToolFilter, ToolFilterExchange]
  | clear =>
    cases b with
    | exclude id' => simp [applyToolFilter, ToolFilterExchange]
    | includeOnly ids' => simp [applyToolFilter, ToolFilterExchange]
    | clear => exact iff_of_true rfl trivial

end ToolFilter

section InferenceOverrides

variable {F : Type}

def FieldsAgree {α : Type} (x y : Option α) : Prop := ∀ a b, x = some a → y = some b → a = b

def OverridesAgree (o p : InferenceOverride F) : Prop :=
  FieldsAgree o.upstreamModel p.upstreamModel ∧ FieldsAgree o.temperature p.temperature ∧
    FieldsAgree o.maxTokens p.maxTokens ∧ FieldsAgree o.topP p.topP ∧
    FieldsAgree o.reasoningEffort p.reasoningEffort

def OverridesExchange : InferenceOverrideStateAction F → InferenceOverrideStateAction F → Prop
  | .merge o, .merge p => OverridesAgree o p
  | .clear, .clear => True
  | _, _ => False

lemma or_comm_iff {α : Type} (x y e : Option α) :
    y.or (x.or e) = x.or (y.or e) ↔ FieldsAgree x y := by
  cases x with
  | none => simp [FieldsAgree]
  | some a =>
    cases y with
    | none => simp [FieldsAgree]
    | some b => simp [FieldsAgree, eq_comm]

lemma merge_merge_comm (e o p : InferenceOverride F) :
    (e.merge o).merge p = (e.merge p).merge o ↔ OverridesAgree o p := by
  simp only [InferenceOverride.merge, InferenceOverride.mk.injEq, or_comm_iff, OverridesAgree]

lemma merge_comm (o p : InferenceOverride F) : o.merge p = p.merge o ↔ OverridesAgree o p := by
  have hempty : ∀ q : InferenceOverride F, InferenceOverride.merge ⟨none, none, none, none, none⟩ q =
      q := by
    intro q
    simp only [InferenceOverride.merge, Option.or_none]
  have h := merge_merge_comm ⟨none, none, none, none, none⟩ o p
  rwa [hempty, hempty] at h

theorem overrides_exchange {J : Type} (codec : Codec J (InferenceOverrideStateValue F))
    (value : InferenceOverrideStateValue F) (a b : InferenceOverrideStateAction F) :
    Exchanges (inferenceOverrideState codec) value a b ↔ OverridesExchange a b := by
  change applyInferenceOverride (applyInferenceOverride value a) b =
    applyInferenceOverride (applyInferenceOverride value b) a ↔ _
  rcases value with ⟨overrides⟩
  cases a with
  | merge o =>
    cases b with
    | merge p =>
      cases overrides with
      | none =>
        simp only [applyInferenceOverride, InferenceOverrideStateValue.mk.injEq, Option.some_inj]
        exact merge_comm o p
      | some e =>
        simp only [applyInferenceOverride, InferenceOverrideStateValue.mk.injEq, Option.some_inj]
        exact merge_merge_comm e o p
    | clear => simp [applyInferenceOverride, OverridesExchange]
  | clear =>
    cases b with
    | merge p => simp [applyInferenceOverride, OverridesExchange]
    | clear => exact iff_of_true rfl trivial

end InferenceOverrides

section Keys

/-- The exact pairs of updates that honour the declaration, for each of the four keys. -/
theorem commutative_keys_exchange {J C F : Type} (calls : Codec J (ToolCallStateMap J))
    (messages : Codec J (ContextMessageStoreValue C)) (filter : Codec J ToolFilterStateValue)
    (overrides : Codec J (InferenceOverrideStateValue F)) :
    (∀ value a b, Exchanges (toolCallStates calls) value a b ↔ ToolCallsExchange value a b) ∧
    (∀ value a b, Exchanges (contextMessageStore messages) value a b ↔ MessagesExchange a b) ∧
    (∀ value a b, Exchanges (toolFilterState filter) value a b ↔ ToolFilterExchange a b) ∧
    ∀ value a b, Exchanges (inferenceOverrideState overrides) value a b ↔ OverridesExchange a b :=
  ⟨toolCalls_exchange calls, messages_exchange messages, toolFilter_exchange filter,
    overrides_exchange overrides⟩

def unitCodec (V : Type) (value : V) : Codec Unit V := ⟨fun _ => .ok (), fun _ => .ok value⟩

def finishedCall (status : ToolCallStatus) : ToolCallState Unit :=
  ⟨"call", "tool", (), status, 0, .replayToolCall, none, none, none⟩

def noteMessage (priority : Int) : ContextMessage Unit :=
  ⟨"note", .system, [], .internal, .session, 0, true, false, priority⟩

def maxTokensOverride (tokens : Nat) : InferenceOverride Unit :=
  ⟨none, none, some tokens, none, none⟩

theorem commutative_keys_order_dependent :
    ¬ Exchanges (toolCallStates (unitCodec _ fun _ => none)) (fun _ => none)
        (.put (finishedCall .succeeded)) (.put (finishedCall .failed)) ∧
    ¬ Exchanges (contextMessageStore (unitCodec _ fun _ => none)) (fun _ => none)
        (.upsert (noteMessage 0)) (.upsert (noteMessage 1)) ∧
    ¬ Exchanges (toolFilterState (unitCodec _ ⟨[], []⟩)) ⟨[], []⟩ (.exclude "a") (.exclude "b") ∧
    ¬ Exchanges (inferenceOverrideState (unitCodec _ ⟨none⟩)) ⟨none⟩
        (.merge (maxTokensOverride 1)) (.merge (maxTokensOverride 2)) := by
  refine ⟨?_, ?_, ?_, ?_⟩
  · intro h
    have hk := congrArg (Option.map ToolCallState.status) (congrFun h "call")
    revert hk
    decide
  · intro h
    have hk := congrArg (Option.map ContextMessage.priority) (congrFun h "note")
    revert hk
    decide
  · intro h
    have hk := congrArg ToolFilterStateValue.excluded h
    revert hk
    decide
  · intro h
    have hk := congrArg InferenceOverrideStateValue.overrides h
    revert hk
    decide

end Keys

end Awaken.Agent.LoopState
