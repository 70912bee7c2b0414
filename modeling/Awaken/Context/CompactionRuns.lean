import Awaken.Context.CompactionEvents
import Awaken.Lib.Run

namespace Awaken.Context

open Awaken.Lib Awaken.Lib.Text Awaken.State

variable {N F J B κ : Type} [DecidableEq κ] {codec : Codec J CompactionState} {K : κ → StateKey J}

/-- The event ends the compaction in flight: it has its task id and names no other boundary. -/
structure Matches (payload : Value N) (f : CompactionInFlight) : Prop where
  ends : ∃ eventType, compactionEventType payload = some eventType ∧
    eventType ≠ compactionStartedEvent
  task : compactionEventTaskId payload (payload.get "payload") = some f.taskId
  boundary : ∀ id, innerText (payload.get "payload") "boundary_message_id" = some id →
    id = "" ∨ id = f.boundaryMessageId ∨
      isBlank id ∧ compactionEventType payload ≠ some compactionCompletedEvent

section Commit

variable {store : CompactionStore codec K}

def Registered (store : CompactionStore codec K) : Prop :=
  (store.registry.keysByName.get compactionKeyName).isSome

def compactionOp (action : CompactionAction) : MutationOp (withCompaction codec K) :=
  .keyPatch none action

def slotState (map : StateMap (withCompaction codec K)) : Option CompactionState := map none

omit [DecidableEq κ] in
lemma updates_eq (actions : List CompactionAction) :
    (updates actions : MutationBatch (withCompaction codec K)).baseRevision = none ∧
      (updates actions : MutationBatch (withCompaction codec K)).ops = actions.map compactionOp := by
  induction actions using List.reverseRecOn with
  | nil => exact ⟨rfl, rfl⟩
  | append_singleton actions action ih =>
    obtain ⟨hbase, hops⟩ := ih
    rw [updates, List.foldl_append, List.map_append]
    exact ⟨hbase, congrArg (· ++ [compactionOp action]) hops⟩

lemma slotState_apply (map : StateMap (withCompaction codec K)) (action : CompactionAction) :
    slotState ((compactionOp action).apply map) =
      some (((slotState map).getD .default).reduce action) :=
  StateMap.update_self map none action

lemma slotState_foldl (map : StateMap (withCompaction codec K)) (state : CompactionState)
    (actions : List CompactionAction) (h : slotState map = some state) :
    slotState ((actions.map compactionOp).foldl MutationOp.apply map) =
      some (actions.foldl CompactionState.reduce state) := by
  induction actions generalizing map state with
  | nil => exact h
  | cons action actions ih =>
    rw [List.map_cons, List.foldl_cons, List.foldl_cons]
    refine ih _ _ ?_
    rw [slotState_apply, h, Option.getD_some]

lemma commit_updates (hregistered : Registered store) (action : CompactionAction)
    (actions : List CompactionAction) {batch : MutationBatch (withCompaction codec K)}
    (hops : batch.ops = (action :: actions).map compactionOp)
    (hbase : store.checkBase batch.baseRevision = .ok ()) :
    ∃ revision store', store.commit batch = (.ok revision, store') ∧
      store'.registry = store.registry ∧ compactionState store' = some ((action :: actions).foldl CompactionState.reduce
        ((compactionState store).getD .default)) := by
  have hvalid : store.validate batch = .ok () := by
    refine validate_ok.mpr ⟨hbase, fun key hkey => ?_⟩
    have hname : key = compactionKeyName := by
      rw [batch.touched, hops, List.map_map, List.mem_map] at hkey
      obtain ⟨action, -, rfl⟩ := hkey
      rfl
    rw [PluginRegistry.ensureKey, hname]
    exact if_pos hregistered
  have hempty : batch.isEmpty = false := by rw [MutationBatch.isEmpty, hops]; rfl
  refine ⟨_, _, commit_ok hempty hvalid, rfl, ?_⟩
  change slotState (batch.ops.foldl MutationOp.apply store.inner.ext) = _
  rw [hops, List.map_cons, List.foldl_cons, List.foldl_cons]
  exact slotState_foldl _ _ actions (slotState_apply _ action)

lemma commitLogged_spec (hregistered : Registered store) (action : CompactionAction)
    (actions : List CompactionAction) :
    (commitLogged store (action :: actions)).registry = store.registry ∧
      compactionState (commitLogged store (action :: actions)) =
        some ((action :: actions).foldl CompactionState.reduce
          ((compactionState store).getD .default)) := by
  have hbase : store.checkBase (updates (action :: actions) :
      MutationBatch (withCompaction codec K)).baseRevision = .ok () := by
    rw [(updates_eq _).1]
    rfl
  obtain ⟨revision, store', hcommit, hspec⟩ :=
    commit_updates hregistered action actions (updates_eq _).2 hbase
  rw [commitLogged, hcommit]
  exact hspec

end Commit

section Events

variable (numbers : NumberReading N F) (nowMs : Nat) (messageId : String)
  (messages : List (ChatMessage J B)) (payload : Value N) (store : CompactionStore codec K)

lemma matching_iff {prior : Option CompactionInFlight} {taskId : Option String} {boundary : String}
    {f : CompactionInFlight} : matchingInFlight prior taskId boundary = some f ↔
      prior = some f ∧ taskId = some f.taskId ∧ (boundary = "" ∨ boundary = f.boundaryMessageId) := by
  unfold matchingInFlight
  cases prior with
  | none => simp
  | some g =>
    dsimp only
    split
    · rename_i htask
      refine ⟨fun h => (nomatch h), ?_⟩
      rintro ⟨hf, heq, -⟩
      obtain rfl := Option.some.inj hf
      exact absurd heq htask
    · rename_i htask
      rw [not_not] at htask
      split
      · rename_i hboundary
        refine ⟨fun h => (nomatch h), ?_⟩
        rintro ⟨hf, -, hempty | hsame⟩
        · exact absurd hempty hboundary.1
        · obtain rfl := Option.some.inj hf
          exact absurd hsame hboundary.2
      · rename_i hboundary
        constructor
        · intro h
          obtain rfl := Option.some.inj h
          exact ⟨rfl, htask, by tauto⟩
        · exact fun h => h.1

lemma matches_completed {f : CompactionInFlight}
    (htype : compactionEventType payload = some compactionCompletedEvent) :
    Matches payload f ↔ compactionEventTaskId payload (payload.get "payload") = some f.taskId ∧
      ((innerText (payload.get "payload") "boundary_message_id").getD "" = "" ∨
        (innerText (payload.get "payload") "boundary_message_id").getD "" = f.boundaryMessageId) := by
  constructor
  · rintro ⟨-, htask, hboundary⟩
    refine ⟨htask, ?_⟩
    cases hid : innerText (payload.get "payload") "boundary_message_id" with
    | none => exact .inl rfl
    | some id =>
      rcases hboundary id hid with hempty | hsame | ⟨-, hother⟩
      · exact .inl hempty
      · exact .inr hsame
      · exact absurd htype hother
  · rintro ⟨htask, hboundary⟩
    refine ⟨⟨_, htype, by decide⟩, htask, fun id hid => ?_⟩
    rw [hid, Option.getD_some] at hboundary
    exact hboundary.imp_right .inl

lemma matches_ended {eventType : String} {f : CompactionInFlight}
    (htype : compactionEventType payload = some eventType)
    (hended : eventType = compactionFailedEvent ∨ eventType = compactionSkippedEvent) :
    Matches payload f ↔ compactionEventTaskId payload (payload.get "payload") = some f.taskId ∧
      (boundaryOrInFlight (payload.get "payload") (some f) = "" ∨
        boundaryOrInFlight (payload.get "payload") (some f) = f.boundaryMessageId) := by
  have hother : eventType ≠ compactionStartedEvent ∧ eventType ≠ compactionCompletedEvent := by
    rcases hended with rfl | rfl <;> decide
  have hnone : compactionEventType payload ≠ some compactionCompletedEvent := by
    rw [htype]
    exact fun h => hother.2 (Option.some.inj h)
  unfold boundaryOrInFlight
  constructor
  · rintro ⟨-, htask, hboundary⟩
    refine ⟨htask, ?_⟩
    cases hid : innerText (payload.get "payload") "boundary_message_id" with
    | none => exact .inr rfl
    | some id =>
      cases hblank : isBlank id with
      | true => exact .inr (by simp [Option.filter, notBlank, hblank])
      | false =>
        simp only [Option.filter_some, notBlank, hblank, Bool.not_false, if_true, Option.some_or,
          Option.getD_some]
        rcases hboundary id hid with hempty | hsame | ⟨hyes, -⟩
        · exact .inl hempty
        · exact .inr hsame
        · exact absurd (hblank.symm.trans hyes) Bool.false_ne_true
  · rintro ⟨htask, hboundary⟩
    refine ⟨⟨_, htype, hother.1⟩, htask, fun id hid => ?_⟩
    rw [hid] at hboundary
    cases hblank : isBlank id with
    | true => exact .inr (.inr ⟨rfl, hnone⟩)
    | false =>
      simp only [Option.filter_some, notBlank, hblank, Bool.not_false, if_true, Option.some_or,
        Option.getD_some] at hboundary
      exact hboundary.imp_right .inl

inductive Handled : Consumed J B codec K → Prop
  | swapped {f : CompactionInFlight} {summary : String} {applied : AppliedCompaction}
      {messages' : List (ChatMessage J B)} {action : CompactionAction}
      (hprior : inFlight store = some f) (hmatches : Matches payload f)
      (htype : compactionEventType payload = some compactionCompletedEvent)
      (hswap : applySummary messageId messages f.boundaryMessageId summary =
        some (applied, messages')) :
      Handled ⟨true, messages', commitLogged store [action, .clearInFlight], some applied⟩
  | settled {f : CompactionInFlight} (actions : List CompactionAction)
      (hprior : inFlight store = some f) (hmatches : Matches payload f) :
      Handled ⟨true, messages, commitLogged store (actions ++ [.clearInFlight]), none⟩
  | ignored {consumed : Bool}
      (hforeign : ∀ f, inFlight store = some f → ¬Matches payload f) :
      Handled ⟨consumed, messages, store, none⟩

lemma consumeCompleted_handled
    (htype : compactionEventType payload = some compactionCompletedEvent) :
    Handled messageId messages payload store
      (consumeCompleted numbers nowMs messageId messages payload store) := by
  unfold consumeCompleted
  dsimp only
  split
  · rename_i hnone
    refine .ignored fun f hf hmatches => ?_
    have hsome := (matching_iff).mpr ⟨hf, (matches_completed payload htype).mp hmatches⟩
    rw [hnone] at hsome
    cases hsome
  · rename_i f hsome
    obtain ⟨hprior, hcond⟩ := (matching_iff).mp hsome
    have hmatches := (matches_completed payload htype).mpr hcond
    split
    · rename_i applied messages' hswap
      split at hswap
      · cases hswap
      · rename_i hne
        rw [not_or] at hne
        rw [hcond.2.resolve_left hne.1] at hswap
        exact .swapped hprior hmatches htype hswap
    · exact .settled [] hprior hmatches

lemma ended_handled {eventType : String} (htype : compactionEventType payload = some eventType)
    (hended : eventType = compactionFailedEvent ∨ eventType = compactionSkippedEvent)
    {out : Consumed J B codec K}
    (hnone : matchingInFlight (inFlight store) (compactionEventTaskId payload (payload.get "payload"))
      (boundaryOrInFlight (payload.get "payload") (inFlight store)) = none →
        out = ⟨true, messages, store, none⟩)
    (hsome : ∀ f, matchingInFlight (inFlight store)
      (compactionEventTaskId payload (payload.get "payload"))
      (boundaryOrInFlight (payload.get "payload") (inFlight store)) = some f →
        ∃ action, out = ⟨true, messages, commitLogged store [action, .clearInFlight], none⟩) :
    Handled messageId messages payload store out := by
  cases hmatch : matchingInFlight (inFlight store)
      (compactionEventTaskId payload (payload.get "payload"))
      (boundaryOrInFlight (payload.get "payload") (inFlight store)) with
  | none =>
    rw [hnone hmatch]
    refine .ignored fun f hf hmatches => ?_
    rw [hf] at hmatch
    have hyes := (matching_iff).mpr ⟨rfl, (matches_ended payload htype hended).mp hmatches⟩
    rw [hmatch] at hyes
    cases hyes
  | some f =>
    obtain ⟨action, rfl⟩ := hsome f hmatch
    obtain ⟨hprior, hcond⟩ := (matching_iff).mp hmatch
    rw [hprior] at hcond
    exact .settled [action] hprior ((matches_ended payload htype hended).mpr hcond)

lemma not_matches_started (htype : ∀ eventType, compactionEventType payload = some eventType →
    eventType = compactionStartedEvent) (f : CompactionInFlight) : ¬Matches payload f := by
  rintro ⟨⟨eventType, hsome, hne⟩, -, -⟩
  exact hne (htype eventType hsome)

lemma eventType_cases {eventType : String} (h : compactionEventType payload = some eventType) :
    eventType = compactionCompletedEvent ∨ eventType = compactionFailedEvent ∨
      eventType = compactionSkippedEvent ∨ eventType = compactionStartedEvent := by
  unfold compactionEventType at h
  split at h
  · cases h
  · have hmem := (Option.filter_eq_some_iff.mp h).2
    simp only [Bool.or_eq_true, decide_eq_true_eq] at hmem
    tauto

theorem tryConsume_handled : Handled messageId messages payload store
    (tryConsumeCompactionEvent numbers nowMs messageId messages payload store) := by
  unfold tryConsumeCompactionEvent
  split
  · rename_i hnone
    refine .ignored fun f _ => not_matches_started payload (fun eventType h => ?_) f
    rw [hnone] at h
    cases h
  · rename_i eventType htype
    split
    · rename_i heq
      subst heq
      exact consumeCompleted_handled numbers nowMs messageId messages payload store htype
    · rename_i hcompleted
      split
      · rename_i heq
        refine ended_handled messageId messages payload store htype (.inl heq) (fun h => ?_)
          (fun f h => ?_)
        · unfold consumeFailed
          dsimp only
          rw [h]
        · unfold consumeFailed
          dsimp only
          rw [h]
          exact ⟨_, rfl⟩
      · rename_i hfailed
        split
        · rename_i heq
          refine ended_handled messageId messages payload store htype (.inr heq) (fun h => ?_)
            (fun f h => ?_)
          · unfold consumeSkipped
            dsimp only
            rw [h]
          · unfold consumeSkipped
            dsimp only
            rw [h]
            exact ⟨_, rfl⟩
        · rename_i hskipped
          refine .ignored fun f _ => not_matches_started payload (fun other hother => ?_) f
          obtain rfl := Option.some.inj (htype.symm.trans hother)
          rcases eventType_cases payload htype with h | h | h | h
          · exact absurd h hcompleted
          · exact absurd h hfailed
          · exact absurd h hskipped
          · exact h

end Events

namespace CompactionRuns

/-- A loop with its history and its store. Kept besides: the compactions that were started and, by
their numbers, those whose summary was swapped in. -/
structure World (J B : Type) {κ : Type} (codec : Codec J CompactionState) (K : κ → StateKey J)
    [DecidableEq κ] where
  messages : List (ChatMessage J B)
  store : CompactionStore codec K
  starts : List CompactionInFlight
  applied : List Nat

inductive Action (N J B : Type) {κ : Type} (codec : Codec J CompactionState) (K : κ → StateKey J) where
  | event (nowMs : Nat) (messageId : String) (payload : Value N)
  | reserve (snapshot : Snapshot (withCompaction codec K)) (f : CompactionInFlight)
  | spawnFails (taskId : String)
  | rewrite (messages : List (ChatMessage J B))
  | commit (batch : MutationBatch (withCompaction codec K))
  | registerKeys (registrations : List (KeyRegistration (Option κ)))
  | installPlugin (plugin : Plugin (Option κ))

namespace World

def consume (self : World J B codec K) (out : Consumed J B codec K) : World J B codec K :=
  { self with
    messages := out.messages
    store := out.store
    applied := if out.swapped.isSome then self.applied ++ [self.starts.length - 1]
      else self.applied }

def reserve (self : World J B codec K) (snapshot : Snapshot (withCompaction codec K))
    (f : CompactionInFlight) : World J B codec K :=
  match reserveAttempt snapshot self.store f with
  | (.reserved, store) => { self with store := store, starts := self.starts ++ [f] }
  | (_, store) => { self with store := store }

def act (numbers : NumberReading N F) (self : World J B codec K) :
    Action N J B codec K → World J B codec K
  | .event nowMs messageId payload =>
    self.consume (tryConsumeCompactionEvent numbers nowMs messageId self.messages payload self.store)
  | .reserve snapshot f => self.reserve snapshot f
  | .spawnFails taskId => { self with store := clearInFlightAfterSpawnFailure self.store taskId }
  | .rewrite messages => { self with messages := messages }
  | .commit batch => { self with store := (self.store.commit batch).2 }
  | .registerKeys registrations => { self with store := self.store.registerKeys registrations }
  | .installPlugin plugin => { self with store := (self.store.installPlugin plugin).2 }

def Allows (_self : World J B codec K) : Action N J B codec K → Prop
  | .commit batch => ∀ op ∈ batch.ops, op.slot ≠ none
  | _ => True

/-- A loop begins with the store as it was restored, in which a compaction may be in flight. -/
structure Initial (w : World J B codec K) : Prop where
  registered : (compactionState w.store).isSome → Registered w.store
  starts : w.starts = (inFlight w.store).toList
  applied : w.applied = []

structure Inv (w : World J B codec K) : Prop where
  registered : (compactionState w.store).isSome → Registered w.store
  current : ∀ f, inFlight w.store = some f →
    w.starts.getLast? = some f ∧ w.starts.length - 1 ∉ w.applied
  started : ∀ n ∈ w.applied, n < w.starts.length
  once : w.applied.Nodup

end World

def step (numbers : NumberReading N F) (w : World J B codec K) (action : Action N J B codec K)
    (w' : World J B codec K) : Prop := w.Allows action ∧ w' = w.act numbers action

/-- What an inbox event does. -/
structure Settles (payload : Value N) (pre post : World J B codec K) : Prop where
  cleared : ∀ f, inFlight pre.store = some f → Matches payload f → inFlight post.store = none
  ignored : (∀ f, inFlight pre.store = some f → ¬Matches payload f) →
    post.messages = pre.messages ∧ post.store = pre.store
  shortened : post.messages ≠ pre.messages →
    compactionEventType payload = some compactionCompletedEvent ∧
      (∃ f, inFlight pre.store = some f ∧ Matches payload f ∧ pre.starts.getLast? = some f) ∧
      post.applied = pre.applied ++ [pre.starts.length - 1]

section Steps

variable {w : World J B codec K}

omit [DecidableEq κ] in
lemma state_of_inFlight {store : CompactionStore codec K} {f : CompactionInFlight}
    (h : inFlight store = some f) : (compactionState store).isSome := by
  cases hstate : compactionState store with
  | none =>
    rw [inFlight, hstate] at h
    cases h
  | some state => rfl

lemma commitLogged_clears {store : CompactionStore codec K} (hregistered : Registered store)
    (actions : List CompactionAction) :
    Registered (commitLogged store (actions ++ [.clearInFlight])) ∧
      inFlight (commitLogged store (actions ++ [.clearInFlight])) = none := by
  have hspec : ∃ action rest, actions ++ [CompactionAction.clearInFlight] = action :: rest := by
    cases actions with
    | nil => exact ⟨_, _, rfl⟩
    | cons action actions => exact ⟨_, _, rfl⟩
  obtain ⟨action, rest, heq⟩ := hspec
  obtain ⟨hregistry, hstate⟩ := commitLogged_spec hregistered action rest
  rw [← heq] at hregistry hstate
  refine ⟨?_, ?_⟩
  · rw [Registered, hregistry]
    exact hregistered
  · rw [inFlight, hstate, List.foldl_append]
    rfl

lemma inv_of_cleared {w' : World J B codec K} (hregistered : Registered w'.store)
    (hcleared : inFlight w'.store = none)
    (hstarted : ∀ n ∈ w'.applied, n < w'.starts.length) (honce : w'.applied.Nodup) : w'.Inv where
  registered := fun _ => hregistered
  current := fun f hf => by
    rw [hcleared] at hf
    cases hf
  started := hstarted
  once := honce

lemma initial_inv (h : w.Initial) : w.Inv where
  registered := h.registered
  current := fun f hf => by
    rw [h.starts, hf, h.applied]
    exact ⟨rfl, List.not_mem_nil⟩
  started := fun n hn => by
    rw [h.applied] at hn
    cases hn
  once := by
    rw [h.applied]
    exact List.nodup_nil

lemma last_start (h : w.Inv) {f : CompactionInFlight} (hf : inFlight w.store = some f) :
    w.starts.length - 1 < w.starts.length := by
  have hne : w.starts ≠ [] := by
    intro hnil
    have hlast := (h.current f hf).1
    rw [hnil] at hlast
    cases hlast
  have hpos := List.length_pos_iff.mpr hne
  omega

lemma inv_consume (h : w.Inv) {messageId : String} {payload : Value N} {out : Consumed J B codec K}
    (hout : Handled messageId w.messages payload w.store out) : (w.consume out).Inv := by
  cases hout with
  | @swapped f summary applied messages' action hprior hmatches htype hswap =>
    obtain ⟨hregistered, hcleared⟩ :=
      commitLogged_clears (h.registered (state_of_inFlight hprior)) [action]
    refine inv_of_cleared hregistered hcleared ?_ ?_
    · intro n hn
      rcases List.mem_append.mp hn with hn | hn
      · exact h.started n hn
      · obtain rfl := List.mem_singleton.mp hn
        exact last_start h hprior
    · refine List.nodup_append.mpr ⟨h.once, List.nodup_singleton _, ?_⟩
      intro n hn m hm heq
      obtain rfl := List.mem_singleton.mp hm
      exact (h.current f hprior).2 (heq ▸ hn)
  | @settled f actions hprior hmatches =>
    obtain ⟨hregistered, hcleared⟩ :=
      commitLogged_clears (h.registered (state_of_inFlight hprior)) actions
    exact inv_of_cleared hregistered hcleared h.started h.once
  | ignored hforeign => exact ⟨h.registered, h.current, h.started, h.once⟩

lemma inv_of_kept (h : w.Inv) {w' : World J B codec K}
    (hregistered : Registered w.store → Registered w'.store)
    (hstate : w'.store.read none = w.store.read none) (hstarts : w'.starts = w.starts)
    (happlied : w'.applied = w.applied) : w'.Inv := by
  have hcompaction : compactionState w'.store = compactionState w.store := hstate
  have hinFlight : inFlight w'.store = inFlight w.store := by rw [inFlight, hcompaction, inFlight]
  refine ⟨fun hsome => ?_, fun f hf => ?_, ?_, ?_⟩
  · rw [hcompaction] at hsome
    exact hregistered (h.registered hsome)
  · rw [hstarts, happlied]
    exact h.current f (hinFlight ▸ hf)
  · rw [hstarts, happlied]
    exact h.started
  · rw [happlied]
    exact h.once

lemma commit_others {store : CompactionStore codec K}
    {batch : MutationBatch (withCompaction codec K)} (hother : ∀ op ∈ batch.ops, op.slot ≠ none) :
    (store.commit batch).2.read none = store.read none := by
  cases hempty : batch.isEmpty with
  | true =>
    rw [StateStore.commit_isEmpty store hempty]
  | false =>
    rcases StateStore.commit_cases store hempty with ⟨e, -, hcommit⟩ | ⟨-, hcommit⟩
    · rw [hcommit]
    · rw [hcommit]
      have hops : ∀ ops : List (MutationOp (withCompaction codec K)), (∀ op ∈ ops, op.slot ≠ none) →
          ∀ map, ops.foldl MutationOp.apply map none = map none := by
        intro ops
        induction ops with
        | nil => exact fun _ _ => rfl
        | cons op ops ih =>
          intro hne map
          rw [List.foldl_cons, ih (fun o ho => hne o (List.mem_cons_of_mem _ ho)),
            MutationOp.apply_of_ne (hne op List.mem_cons_self).symm]
      exact hops batch.ops hother _

lemma registered_registerKeys {store : CompactionStore codec K} (h : Registered store)
    (registrations : List (KeyRegistration (Option κ))) :
    Registered (store.registerKeys registrations) := by
  have hfold : ∀ (regs : List (KeyRegistration (Option κ))) (registry : PluginRegistry (Option κ)),
      (registry.keysByName.get compactionKeyName).isSome →
      ((regs.foldl PluginRegistry.registerKey registry).keysByName.get compactionKeyName).isSome := by
    intro regs
    induction regs with
    | nil => exact fun _ hsome => hsome
    | cons reg regs ih =>
      intro registry hsome
      rw [List.foldl_cons]
      refine ih _ ?_
      unfold PluginRegistry.registerKey
      split
      · exact hsome
      · rw [PluginRegistry.insertKey, Table.get_insert]
        split
        · rfl
        · exact hsome
  exact hfold registrations store.registry h

lemma installPlugin_inner (store : CompactionStore codec K) (plugin : Plugin (Option κ)) :
    (store.installPlugin plugin).2.inner = store.inner := by
  unfold StateStore.installPlugin
  split
  · rfl
  · unfold StateStore.installPluginWithKeys
    split
    · rfl
    · split <;> rfl

lemma registered_installPlugin {store : CompactionStore codec K} (h : Registered store)
    (plugin : Plugin (Option κ)) : Registered (store.installPlugin plugin).2 := by
  rcases hinstall : store.installPlugin plugin with ⟨result, store'⟩
  cases result with
  | error e =>
    obtain rfl := StateStore.installPlugin_error store hinstall
    exact h
  | ok u =>
    obtain ⟨reg, hreg⟩ := Option.isSome_iff_exists.mp h
    rw [Registered, (installPlugin_keeps hinstall hreg).2]
    rfl

lemma reserveAttempt_cases (snapshot : Snapshot (withCompaction codec K))
    (store : CompactionStore codec K) (f : CompactionInFlight) :
    (∃ reservation, reservation ≠ .reserved ∧
      reserveAttempt snapshot store f = (reservation, store)) ∨
    ∃ store', reserveAttempt snapshot store f = (.reserved, store') ∧
      Registered store ∧ store'.registry = store.registry ∧ compactionState store' =
        some (((compactionState store).getD .default).reduce (.setInFlight f)) := by
  unfold reserveAttempt
  dsimp only
  split
  · exact .inl ⟨.busy, fun h => (nomatch h), rfl⟩
  · have hempty : ((updates [.setInFlight f] : MutationBatch (withCompaction codec K)).withBaseRevision
        snapshot.revision).isEmpty = false := rfl
    rcases StateStore.commit_cases store hempty with ⟨e, -, hcommit⟩ | ⟨hvalid, -⟩
    · rw [hcommit]
      cases e with
      | revisionConflict _ _ => exact .inl ⟨.conflict, fun h => (nomatch h), rfl⟩
      | _ => exact .inl ⟨.failed _, fun h => (nomatch h), rfl⟩
    · obtain ⟨hbase, hkeys⟩ := validate_ok.mp hvalid
      have hregistered : Registered store := by
        have hkey := hkeys compactionKeyName List.mem_cons_self
        unfold PluginRegistry.ensureKey at hkey
        split at hkey
        · rename_i hsome
          exact hsome
        · cases hkey
      obtain ⟨revision, store', hcommit, hspec⟩ :=
        commit_updates hregistered (.setInFlight f) [] rfl hbase
      rw [hcommit]
      exact .inr ⟨store', rfl, hregistered, hspec⟩

lemma inv_reserve (h : w.Inv) (snapshot : Snapshot (withCompaction codec K))
    (f : CompactionInFlight) : (w.reserve snapshot f).Inv := by
  unfold World.reserve
  rcases reserveAttempt_cases snapshot w.store f with
    ⟨reservation, hne, hattempt⟩ | ⟨store', hattempt, hregistered, hregistry, hstate⟩
  · rw [hattempt]
    cases reservation <;> first | exact absurd rfl hne | exact h
  · rw [hattempt]
    have hinFlight : inFlight store' = some f := by
      rw [inFlight, hstate]
      rfl
    have hlast : (w.starts ++ [f]).length - 1 = w.starts.length := by simp
    refine ⟨fun _ => ?_, fun g hg => ?_, fun n hn => ?_, h.once⟩
    · change (store'.registry.keysByName.get compactionKeyName).isSome
      rw [hregistry]
      exact hregistered
    · obtain rfl := Option.some.inj (hinFlight.symm.trans hg)
      refine ⟨List.getLast?_concat, fun hmem => ?_⟩
      have hlt := h.started _ hmem
      dsimp only at hlt
      omega
    · have hlt := h.started n hn
      rw [List.length_append]
      exact Nat.lt_add_right _ hlt

theorem inv_step {numbers : NumberReading N F} {action : Action N J B codec K}
    {w' : World J B codec K} (hstep : step numbers w action w') (h : w.Inv) : w'.Inv := by
  obtain ⟨hallows, rfl⟩ := hstep
  cases action with
  | event nowMs messageId payload => exact inv_consume h (tryConsume_handled _ _ _ _ _ _)
  | reserve snapshot f => exact inv_reserve h snapshot f
  | spawnFails taskId =>
    change World.Inv { w with store := clearInFlightAfterSpawnFailure w.store taskId }
    unfold clearInFlightAfterSpawnFailure
    split
    · exact h
    · rename_i hprior
      obtain ⟨f, hf⟩ : ∃ f, inFlight w.store = some f := by
        cases hf : inFlight w.store with
        | none =>
          rw [hf] at hprior
          exact absurd rfl hprior
        | some f => exact ⟨f, rfl⟩
      obtain ⟨hregistered, hcleared⟩ :=
        commitLogged_clears (h.registered (state_of_inFlight hf)) []
      exact inv_of_cleared hregistered hcleared h.started h.once
  | rewrite messages => exact ⟨h.registered, h.current, h.started, h.once⟩
  | commit batch =>
    refine inv_of_kept h (fun hregistered => ?_) (commit_others hallows) rfl rfl
    change ((w.store.commit batch).2.registry.keysByName.get compactionKeyName).isSome
    rw [commit_registry]
    exact hregistered
  | registerKeys registrations =>
    exact inv_of_kept h (fun hregistered => registered_registerKeys hregistered registrations)
      rfl rfl rfl
  | installPlugin plugin =>
    exact inv_of_kept h (fun hregistered => registered_installPlugin hregistered plugin)
      (congrArg (fun inner => inner.get none) (installPlugin_inner w.store plugin)) rfl rfl

lemma event_settles {numbers : NumberReading N F} {nowMs : Nat} {messageId : String}
    {payload : Value N} (h : w.Inv) :
    Settles payload w (w.act numbers (.event nowMs messageId payload)) := by
  have hout := tryConsume_handled numbers nowMs messageId w.messages payload w.store
  change Settles payload w (w.consume (tryConsumeCompactionEvent numbers nowMs messageId w.messages
    payload w.store))
  generalize tryConsumeCompactionEvent numbers nowMs messageId w.messages payload w.store = out at hout
  cases hout with
  | @swapped f summary applied messages' action hprior hmatches htype hswap =>
    refine ⟨fun _ _ _ => ?_, fun hforeign => absurd hmatches (hforeign f hprior), fun _ =>
      ⟨htype, ⟨f, hprior, hmatches, (h.current f hprior).1⟩, rfl⟩⟩
    exact (commitLogged_clears (h.registered (state_of_inFlight hprior)) [action]).2
  | @settled f actions hprior hmatches =>
    refine ⟨fun _ _ _ => ?_, fun hforeign => absurd hmatches (hforeign f hprior),
      fun hne => absurd rfl hne⟩
    exact (commitLogged_clears (h.registered (state_of_inFlight hprior)) actions).2
  | ignored hforeign =>
    exact ⟨fun f hf hmatches => absurd hmatches (hforeign f hf), fun _ => ⟨rfl, rfl⟩,
      fun hne => absurd rfl hne⟩

end Steps

/-- Summaries are swapped in once for each compaction that was started at the most, and every event
clears the marker that it matches or changes nothing. -/
theorem compaction_events_settle (numbers : NumberReading N F) (w w' : World J B codec K)
    (tr : List (Transition (World J B codec K) (Action N J B codec K))) (hinit : w.Initial)
    (hrun : Run (step numbers) w tr w') :
    w'.applied.Nodup ∧ (∀ n ∈ w'.applied, n < w'.starts.length) ∧
      ∀ τ ∈ tr, ∀ nowMs messageId payload, τ.label = .event nowMs messageId payload →
        Settles payload τ.pre τ.post := by
  obtain ⟨hinv, hall⟩ := hrun.invariant (I := World.Inv) (C := fun _ => True)
    (fun τ hstep _ h => inv_step hstep h) (fun _ _ => trivial) (initial_inv hinit)
  refine ⟨hinv.once, hinv.started, fun τ hτ nowMs messageId payload hlabel => ?_⟩
  obtain ⟨-, hpost⟩ := hrun.step_of_mem hτ
  rw [hpost, hlabel]
  exact event_settles (hall τ hτ).1

section Duplicate

def noCodec : Codec Unit CompactionState := ⟨fun _ => .ok (), fun _ => .ok .default⟩

def noNumbers : NumberReading Unit Unit := ⟨fun _ => none, fun _ => none, fun _ _ => (), fun _ => 0⟩

def noKeys : Empty → StateKey Unit := fun k => k.elim

def speakingWorld : World Unit Unit noCodec noKeys where
  messages := [.tool "m1" "c1" (.text "removed"), .tool "m2" "c2" (.text "listed")]
  store := .new
  starts := []
  applied := []

def summarizedEvent : Value Unit := .object [("kind", .string "custom"),
  ("event_type", .string compactionCompletedEvent), ("task_id", .string "bg_0"),
  ("payload", .object [("boundary_message_id", .string "m1"), ("summary", .string "removed c1")])]

def registration : KeyRegistration (Option Empty) :=
  .new (withCompaction noCodec noKeys) none ⟨true, false, .run⟩

def registeredWorld : World Unit Unit noCodec noKeys :=
  speakingWorld.act noNumbers (.registerKeys [registration])

def startedWorld : World Unit Unit noCodec noKeys :=
  registeredWorld.act noNumbers (.reserve ⟨0, .empty⟩ ⟨"bg_0", "m1", 0⟩)

def summarizedWorld : World Unit Unit noCodec noKeys :=
  startedWorld.act noNumbers (.event 1 "m3" summarizedEvent)

def twiceSummarizedWorld : World Unit Unit noCodec noKeys :=
  summarizedWorld.act noNumbers (.event 2 "m4" summarizedEvent)

theorem compaction_events_settle_twice : twiceSummarizedWorld.applied = [0] ∧
    twiceSummarizedWorld.applied.Nodup ∧
      ∀ n ∈ twiceSummarizedWorld.applied, n < twiceSummarizedWorld.starts.length := by
  have hinit : speakingWorld.Initial := ⟨fun h => absurd h Bool.false_ne_true, rfl, rfl⟩
  have hregister : step noNumbers speakingWorld (.registerKeys [registration]) registeredWorld :=
    ⟨trivial, rfl⟩
  have hstart : step noNumbers registeredWorld (.reserve ⟨0, .empty⟩ ⟨"bg_0", "m1", 0⟩)
      startedWorld := ⟨trivial, rfl⟩
  have hfirst : step noNumbers startedWorld (.event 1 "m3" summarizedEvent) summarizedWorld :=
    ⟨trivial, rfl⟩
  have hagain : step noNumbers summarizedWorld (.event 2 "m4" summarizedEvent)
      twiceSummarizedWorld := ⟨trivial, rfl⟩
  obtain ⟨honce, hstarted, -⟩ := compaction_events_settle noNumbers speakingWorld
    twiceSummarizedWorld _ hinit
    (.cons hregister (.cons hstart (.cons hfirst (.cons hagain (.nil _)))))
  exact ⟨rfl, honce, hstarted⟩

end Duplicate

end CompactionRuns

end Awaken.Context
