import Awaken.Engine.Gather
import Awaken.Engine.Runtime
import Awaken.State.Persistence

namespace Awaken.Engine

open Awaken.State

variable {J κ : Type} [DecidableEq κ]

def runtimeQueueOptions : StateKeyOptions := ⟨true, false, .run⟩

def runtimeQueuePlugin : Plugin (RuntimeKey κ) :=
  ⟨"phase-runtime", [(.pending, runtimeQueueOptions), (.failed, runtimeQueueOptions)]⟩

namespace PhaseRuntime

variable {keys : RuntimeKeys J κ}

def new (store : StateStore keys.key) : Except StateError (PhaseRuntime keys) :=
  match store.installPlugin runtimeQueuePlugin with
  | (.ok (), store) => .ok ⟨store, 1, []⟩
  | (.error (.pluginAlreadyInstalled _), store) => .ok ⟨store, 1, []⟩
  | (.error e, _) => .error e

def installPlugin (self : PhaseRuntime keys) (plugin : Plugin (RuntimeKey κ)) :
    Except StateError (PhaseRuntime keys) :=
  match self.store.installPlugin plugin with
  | (.ok (), store) => .ok { self with store := store }
  | (.error e, _) => .error e

def boot (plugins : List (Plugin (RuntimeKey κ))) : Except StateError (PhaseRuntime keys) := do
  let self ← new .new
  plugins.foldlM installPlugin self

def restart (self : PhaseRuntime keys) (plugins : List (Plugin (RuntimeKey κ)))
    (policy : UnknownKeyPolicy) : Except StateError (PhaseRuntime keys) := do
  let persisted ← self.store.exportPersisted
  let fresh ← boot plugins
  match fresh.store.restorePersisted persisted policy with
  | (.error e, _) => .error e
  | (.ok (), store) => .ok { fresh with store := store, history := self.history }

end PhaseRuntime

inductive RuntimeOp (keys : RuntimeKeys J κ) where
  | submitCommand (env : ExecutionEnv keys.key) (command : StateCommand keys.key)
  | runPhase (env : ExecutionEnv keys.key) (ctx : PhaseContext keys.key) (maxRounds : Nat)
  | runExecuteLoop (env : ExecutionEnv keys.key) (ctx : PhaseContext keys.key) (maxRounds : Nat)
  | restart (plugins : List (Plugin (RuntimeKey κ))) (policy : UnknownKeyPolicy)

variable {keys : RuntimeKeys J κ}

def PhaseRuntime.perform (self : PhaseRuntime keys) : RuntimeOp keys → PhaseRuntime keys
  | .submitCommand env command => (self.submitCommand env command).2
  | .runPhase env ctx maxRounds => (self.runPhaseCtxInner env ctx maxRounds).2
  | .runExecuteLoop env ctx maxRounds => (self.executeScheduledActions env ctx maxRounds).2
  | .restart plugins policy => (self.restart plugins policy).toOption.getD self

def PhaseRuntime.performAll (self : PhaseRuntime keys) (ops : List (RuntimeOp keys)) :
    PhaseRuntime keys :=
  ops.foldl PhaseRuntime.perform self

end Awaken.Engine

namespace Awaken.Engine

open Awaken.State PhaseRuntime
open scoped List

variable {J κ : Type} {keys : RuntimeKeys J κ}

section History

def scheduled (history : List (QueueEvent J)) : List (ScheduledActionEnvelope J) :=
  history.flatMap (fun event =>
    match event with
    | .queued nextId _ actions => envelopes nextId actions
    | _ => [])

def handed (history : List (QueueEvent J)) : List (ScheduledActionEnvelope J) :=
  history.flatMap (fun event =>
    match event with
    | .handed envelope => [envelope]
    | _ => [])

def PhaseRuntime.failedEnvelopes (self : PhaseRuntime keys) : List (ScheduledActionEnvelope J) :=
  self.failed.map (fun entry => ⟨entry.id, entry.action⟩)

/-- The ids that the counter hands out are not those of waiting actions. -/
def QueueEvent.Fresh : QueueEvent J → Prop
  | .queued nextId waiting actions =>
    actions.length ≤ 2 ^ 64 ∧ ∀ envelope ∈ waiting, envelope.id ∉ drawnIds nextId actions.length
  | _ => True

def Fresh (history : List (QueueEvent J)) : Prop := ∀ event ∈ history, event.Fresh

lemma Fresh.of_prefix {history history' : List (QueueEvent J)} (h : Fresh history')
    (hp : history <+: history') : Fresh history :=
  fun event hm => h event (hp.subset hm)

end History

section Ids

lemma drawnIds_eq {n : Nat} (hn : n < 2 ^ 64) (k : Nat) :
    drawnIds n k = (List.range k).map (fun i => (n + i) % 2 ^ 64) := by
  induction k generalizing n with
  | zero => rfl
  | succ k ih =>
    rw [drawnIds, fetchAdd, ih (Nat.mod_lt _ (by decide)), List.range_succ_eq_map, List.map_cons,
      Nat.add_zero n, Nat.mod_eq_of_lt hn, List.map_map]
    congr 1
    refine List.map_congr_left ?_
    intro i _
    rw [Function.comp_apply, Nat.mod_add_mod, Nat.succ_eq_add_one, Nat.add_assoc, Nat.add_comm 1 i]

lemma drawnIds_nodup {n k : Nat} (hn : n < 2 ^ 64) (hk : k ≤ 2 ^ 64) : (drawnIds n k).Nodup := by
  rw [drawnIds_eq hn]
  refine List.Nodup.map_on ?_ List.nodup_range
  intro i hi j hj hij
  rw [List.mem_range] at hi hj
  omega

lemma envelopes_ids (n : Nat) (actions : List (ScheduledAction J)) :
    (envelopes n actions).map (·.id) = drawnIds n actions.length := by
  induction actions generalizing n with
  | nil => rfl
  | cons action actions ih => rw [envelopes, List.map_cons, ih, List.length_cons, drawnIds]

lemma advance_lt {n : Nat} (hn : n < 2 ^ 64) (k : Nat) : advance n k < 2 ^ 64 := by
  induction k generalizing n with
  | zero => exact hn
  | succ k ih => exact ih (Nat.mod_lt _ (by decide))

end Ids

section Removal

variable {waiting : List (ScheduledActionEnvelope J)} {envelope : ScheduledActionEnvelope J}

lemma remove_split (hd : (waiting.map (·.id)).Nodup) (hm : envelope ∈ waiting) :
    ∃ l r, waiting = l ++ envelope :: r ∧ applyPending waiting (.remove envelope.id) = l ++ r := by
  obtain ⟨l, r, rfl⟩ := List.append_of_mem hm
  refine ⟨l, r, rfl, ?_⟩
  rw [List.map_append, List.map_cons, List.nodup_middle, List.nodup_cons, ← List.map_append] at hd
  have hall : ∀ e ∈ l ++ r, e.id ≠ envelope.id := fun e he heq =>
    hd.1 (List.mem_map.mpr ⟨e, he, heq⟩)
  have hkeep : (l ++ r).filter (fun e => e.id ≠ envelope.id) = l ++ r :=
    List.filter_eq_self.mpr (by simpa using hall)
  rw [List.filter_append] at hkeep
  rw [applyPending, List.filter_append, List.filter_cons_of_neg (by simp), hkeep]

lemma remove_perm (hd : (waiting.map (·.id)).Nodup) (hm : envelope ∈ waiting) :
    waiting.Perm (envelope :: applyPending waiting (.remove envelope.id)) := by
  obtain ⟨l, r, hsplit, hremove⟩ := remove_split hd hm
  rw [hremove, hsplit]
  exact List.perm_middle

end Removal

section Queues

variable [DecidableEq κ] {map : StateMap keys.key}

@[simp] lemma pendingOf_pushPending (entry : ScheduledActionEnvelope J) :
    pendingOf ((pushPending entry).apply map) = pendingOf map ++ [entry] :=
  congrArg (fun value => Option.getD value [])
    (StateMap.update_self (K := keys.key) map .pending (ScheduledActionQueueUpdate.push entry))

@[simp] lemma pendingOf_removePending (id : Nat) :
    pendingOf ((removePending id).apply map) = applyPending (pendingOf map) (.remove id) :=
  congrArg (fun value => Option.getD value [])
    (StateMap.update_self (K := keys.key) map .pending (ScheduledActionQueueUpdate.remove id))

@[simp] lemma failedOf_pushFailed (entry : FailedScheduledAction J) :
    failedOf ((pushFailed entry).apply map) = failedOf map ++ [entry] :=
  congrArg (fun value => Option.getD value [])
    (StateMap.update_self (K := keys.key) map .failed (FailedScheduledActionUpdate.push entry))

lemma pendingOf_of_ne {op : MutationOp keys.key} (h : op.slot ≠ .pending) :
    pendingOf (op.apply map) = pendingOf map := by
  rw [pendingOf, MutationOp.apply_of_ne (Ne.symm h), pendingOf]

lemma failedOf_of_ne {op : MutationOp keys.key} (h : op.slot ≠ .failed) :
    failedOf (op.apply map) = failedOf map := by
  rw [failedOf, MutationOp.apply_of_ne (Ne.symm h), failedOf]

omit [DecidableEq κ] in
lemma pushPending_slot_ne (entry : ScheduledActionEnvelope J) :
    (pushPending entry : MutationOp keys.key).slot ≠ .failed :=
  fun h : (RuntimeKey.pending : RuntimeKey κ) = .failed => nomatch h

omit [DecidableEq κ] in
lemma removePending_slot_ne (id : Nat) : (removePending id : MutationOp keys.key).slot ≠ .failed :=
  fun h : (RuntimeKey.pending : RuntimeKey κ) = .failed => nomatch h

omit [DecidableEq κ] in
lemma pushFailed_slot_ne (entry : FailedScheduledAction J) :
    (pushFailed entry : MutationOp keys.key).slot ≠ .pending :=
  fun h : (RuntimeKey.failed : RuntimeKey κ) = .pending => nomatch h

lemma pendingOf_pushes (entries : List (ScheduledActionEnvelope J)) :
    pendingOf ((entries.map pushPending).foldl MutationOp.apply map) = pendingOf map ++ entries := by
  induction entries generalizing map with
  | nil => simp
  | cons entry entries ih =>
    rw [List.map_cons, List.foldl_cons, ih, pendingOf_pushPending, List.append_assoc]
    rfl

lemma failedOf_pushes (entries : List (ScheduledActionEnvelope J)) :
    failedOf ((entries.map pushPending).foldl MutationOp.apply map) = failedOf map := by
  induction entries generalizing map with
  | nil => rfl
  | cons entry entries ih =>
    rw [List.map_cons, List.foldl_cons, ih, failedOf_of_ne (pushPending_slot_ne entry)]

/-- The command leaves the two queues to the runtime. -/
def LeavesQueues (command : StateCommand keys.key) : Prop :=
  ∀ op ∈ command.patch.ops, op.slot ≠ .pending ∧ op.slot ≠ .failed

lemma queues_of_leaves (map : StateMap keys.key) {ops : List (MutationOp keys.key)}
    (h : ∀ op ∈ ops, op.slot ≠ .pending ∧ op.slot ≠ .failed) :
    pendingOf (ops.foldl MutationOp.apply map) = pendingOf map ∧
      failedOf (ops.foldl MutationOp.apply map) = failedOf map := by
  induction ops generalizing map with
  | nil => exact ⟨rfl, rfl⟩
  | cons op ops ih =>
    obtain ⟨hhead, hrest⟩ := List.forall_mem_cons.mp h
    obtain ⟨hp, hf⟩ := ih (op.apply map) hrest
    exact ⟨hp.trans (pendingOf_of_ne hhead.1), hf.trans (failedOf_of_ne hhead.2)⟩

end Queues

section Invariant

variable [DecidableEq κ]

def queueRegistered (registry : PluginRegistry (RuntimeKey κ)) (keys : RuntimeKeys J κ)
    (k : RuntimeKey κ) : Prop :=
  registry.keysByType.get k = some (.new keys.key k runtimeQueueOptions)

def QueueEvent.RemovesOne : QueueEvent J → Prop
  | .removed waiting envelope =>
    ∃ l r, waiting = l ++ envelope :: r ∧ applyPending waiting (.remove envelope.id) = l ++ r
  | _ => True

def Accounted (history : List (QueueEvent J)) (pending failed : List (ScheduledActionEnvelope J)) :
    Prop :=
  ∃ finished, (handed history).Perm (finished ++ failed) ∧
    (scheduled history).Perm (pending ++ (finished ++ failed))

structure QueueInv (rt : PhaseRuntime keys) : Prop where
  coherent : rt.store.registry.Coherent keys.key
  pendingKey : queueRegistered rt.store.registry keys .pending
  failedKey : queueRegistered rt.store.registry keys .failed
  counter : rt.nextId < 2 ^ 64
  distinct : (rt.pending.map (·.id)).Nodup
  accounted : Accounted rt.history rt.pending rt.failedEnvelopes
  removals : ∀ event ∈ rt.history, event.RemovesOne

variable {rt rt' : PhaseRuntime keys}

lemma QueueInv.refused (h : QueueInv rt) {nextId : Nat} (hn : nextId < 2 ^ 64) :
    QueueInv (rt.refused nextId) :=
  ⟨h.coherent, h.pendingKey, h.failedKey, hn, h.distinct, h.accounted, h.removals⟩

lemma submitted_pending (rt : PhaseRuntime keys) (command : StateCommand keys.key) :
    (rt.submitted command).pending =
      rt.waitingAfter command ++ envelopes rt.nextId command.scheduledActions := by
  change pendingOf (commitOps rt.store (committedOps rt.nextId command)).inner.ext = _
  rw [commitOps_ext, committedOps, List.foldl_append, pendingOf_pushes]
  rfl

lemma submitted_failed (rt : PhaseRuntime keys) (command : StateCommand keys.key) :
    (rt.submitted command).failed =
      failedOf (command.patch.ops.foldl MutationOp.apply rt.store.inner.ext) := by
  change failedOf (commitOps rt.store (committedOps rt.nextId command)).inner.ext = _
  rw [commitOps_ext, committedOps, List.foldl_append, failedOf_pushes]

lemma submitted_registry (rt : PhaseRuntime keys) (command : StateCommand keys.key) :
    (rt.submitted command).store.registry = rt.store.registry := commitOps_registry _ _

lemma scheduled_append (history : List (QueueEvent J)) (event : QueueEvent J) :
    scheduled (history ++ [event]) = scheduled history ++ scheduled [event] :=
  List.flatMap_append

lemma handed_append (history : List (QueueEvent J)) (event : QueueEvent J) :
    handed (history ++ [event]) = handed history ++ handed [event] :=
  List.flatMap_append

lemma submitted_distinct {waiting : List (ScheduledActionEnvelope J)} {nextId : Nat}
    {actions : List (ScheduledAction J)} (hn : nextId < 2 ^ 64)
    (hd : (waiting.map (·.id)).Nodup) (hf : (QueueEvent.queued nextId waiting actions).Fresh) :
    ((waiting ++ envelopes nextId actions).map (·.id)).Nodup := by
  rw [List.map_append, envelopes_ids, List.nodup_append]
  refine ⟨hd, drawnIds_nodup hn hf.1, ?_⟩
  intro a ha b hb hab
  obtain ⟨envelope, he, rfl⟩ := List.mem_map.mp ha
  exact hf.2 envelope he (hab ▸ hb)

lemma QueueInv.submitted (h : QueueInv rt) {command : StateCommand keys.key}
    (hq : LeavesQueues command) (hf : Fresh (rt.submitted command).history) :
    QueueInv (rt.submitted command) := by
  obtain ⟨hpend, hfail⟩ := queues_of_leaves rt.store.inner.ext hq
  have hw : rt.waitingAfter command = rt.pending := hpend
  have hfailed : (rt.submitted command).failedEnvelopes = rt.failedEnvelopes := by
    rw [failedEnvelopes, submitted_failed, hfail]
    rfl
  have hfresh := hf _ (List.mem_append_right _ List.mem_cons_self)
  have hreg := submitted_registry rt command
  refine ⟨hreg ▸ h.coherent, ?_, ?_, advance_lt h.counter _, ?_, ?_, ?_⟩
  · rw [queueRegistered, hreg]
    exact h.pendingKey
  · rw [queueRegistered, hreg]
    exact h.failedKey
  · rw [submitted_pending]
    exact submitted_distinct h.counter (hw ▸ h.distinct) hfresh
  · obtain ⟨finished, hhanded, hsched⟩ := h.accounted
    rw [hfailed, submitted_pending, hw]
    refine ⟨finished, ?_, ?_⟩
    · change (handed (rt.history ++ [_])).Perm _
      rw [handed_append]
      exact (List.append_nil _).symm ▸ hhanded
    · change (scheduled (rt.history ++ [_])).Perm _
      rw [scheduled_append]
      refine (hsched.append_right _).trans ?_
      simp only [scheduled, List.flatMap_cons, List.flatMap_nil, List.append_nil]
      rw [List.append_assoc rt.pending, List.append_assoc rt.pending]
      exact (List.perm_append_comm).append_left _
  · refine List.forall_mem_append.mpr ⟨h.removals, ?_⟩
    exact List.forall_mem_singleton.mpr trivial

lemma QueueInv.finish (h : QueueInv rt) {envelope : ScheduledActionEnvelope J}
    (hm : envelope ∈ rt.pending) (events : List (QueueEvent J))
    (hreg : rt'.store.registry = rt.store.registry) (hn : rt'.nextId < 2 ^ 64)
    (hhist : rt'.history =
      rt.history ++ [.handed envelope] ++ events ++ [.removed rt.pending envelope])
    (hhanded : handed events = []) (hone : ∀ event ∈ events, event.RemovesOne)
    (hpend : rt'.pending = applyPending rt.pending (.remove envelope.id) ++ scheduled events)
    (hd : (rt'.pending.map (·.id)).Nodup)
    (hfail : rt'.failedEnvelopes = rt.failedEnvelopes ∨
      rt'.failedEnvelopes = rt.failedEnvelopes ++ [envelope]) : QueueInv rt' := by
  refine ⟨hreg ▸ h.coherent, ?_, ?_, hn, hd, ?_, ?_⟩
  · rw [queueRegistered, hreg]
    exact h.pendingKey
  · rw [queueRegistered, hreg]
    exact h.failedKey
  · obtain ⟨finished, hh, hs⟩ := h.accounted
    have hdone : ∃ finished', (finished' ++ rt'.failedEnvelopes).Perm
        (envelope :: (finished ++ rt.failedEnvelopes)) := by
      rcases hfail with hf | hf
      · exact ⟨envelope :: finished, by rw [hf, List.cons_append]⟩
      · refine ⟨finished, ?_⟩
        rw [hf, ← List.append_assoc]
        exact List.perm_append_singleton _ _
    obtain ⟨finished', hdone⟩ := hdone
    refine ⟨finished', ?_, ?_⟩
    · have hsplit : handed rt'.history = handed rt.history ++ [envelope] := by
        rw [hhist, handed_append, handed, List.flatMap_append, ← handed, ← handed, hhanded,
          handed_append]
        simp [handed]
      rw [hsplit]
      exact ((List.perm_append_singleton _ _).trans (hh.cons envelope)).trans hdone.symm
    · have hsplit : scheduled rt'.history = scheduled rt.history ++ scheduled events := by
        rw [hhist, scheduled_append, scheduled, List.flatMap_append, ← scheduled, ← scheduled,
          scheduled_append]
        simp [scheduled]
      have hrest := (remove_perm h.distinct hm).append_right (finished ++ rt.failedEnvelopes)
      rw [hsplit, hpend]
      calc scheduled rt.history ++ scheduled events
        _ ~ (rt.pending ++ (finished ++ rt.failedEnvelopes)) ++ scheduled events :=
            hs.append_right _
        _ ~ (applyPending rt.pending (.remove envelope.id) ++
              (envelope :: (finished ++ rt.failedEnvelopes))) ++ scheduled events :=
            (hrest.trans List.perm_middle.symm).append_right _
        _ ~ (applyPending rt.pending (.remove envelope.id) ++ scheduled events) ++
              (finished' ++ rt'.failedEnvelopes) := by
            rw [List.append_assoc, List.append_assoc]
            exact (List.perm_append_comm.trans (hdone.symm.append_left _)).append_left _
  · rw [hhist]
    refine List.forall_mem_append.mpr ⟨List.forall_mem_append.mpr
      ⟨List.forall_mem_append.mpr ⟨h.removals, ?_⟩, hone⟩, ?_⟩
    · exact List.forall_mem_singleton.mpr trivial
    · exact List.forall_mem_singleton.mpr (remove_split h.distinct hm)

end Invariant

section Processing

variable [DecidableEq κ] {rt : PhaseRuntime keys} {env : ExecutionEnv keys.key}
  {ctx : PhaseContext keys.key} {envelope : ScheduledActionEnvelope J}

lemma removed_queues (map : StateMap keys.key) {command : StateCommand keys.key}
    (hq : LeavesQueues command) (id : Nat) :
    pendingOf ((command.patch.push (removePending id)).ops.foldl MutationOp.apply map) =
        applyPending (pendingOf map) (.remove id) ∧
      failedOf ((command.patch.push (removePending id)).ops.foldl MutationOp.apply map) =
        failedOf map := by
  obtain ⟨hpend, hfail⟩ := queues_of_leaves map hq
  change pendingOf ((command.patch.ops ++ [_]).foldl MutationOp.apply map) = _ ∧
    failedOf ((command.patch.ops ++ [_]).foldl MutationOp.apply map) = _
  rw [List.foldl_append, List.foldl_cons, List.foldl_nil, pendingOf_removePending, hpend,
    failedOf_of_ne (removePending_slot_ne id), hfail]
  exact ⟨rfl, rfl⟩

lemma removed_distinct (h : QueueInv rt) :
    ((applyPending rt.pending (.remove envelope.id)).map (·.id)).Nodup :=
  h.distinct.sublist (List.filter_sublist.map _)

lemma QueueInv.processed (h : QueueInv rt) (hm : envelope ∈ rt.pending)
    {command : StateCommand keys.key} (hq : LeavesQueues command) :
    let command' := { command with patch := command.patch.push (removePending envelope.id) }
    let rt' := ((rt.record (.handed envelope)).submitted command').record
      (.removed rt.pending envelope)
    Fresh rt'.history → QueueInv rt' := by
  intro command' rt' hf
  obtain ⟨hpend, hfail⟩ := removed_queues rt.store.inner.ext hq envelope.id
  have hw : (rt.record (.handed envelope)).waitingAfter command' =
      applyPending rt.pending (.remove envelope.id) := hpend
  have hfresh := hf (.queued rt.nextId _ command.scheduledActions)
    (List.mem_append_left _ (List.mem_append_right _ List.mem_cons_self))
  have hpending : rt'.pending = applyPending rt.pending (.remove envelope.id) ++
      envelopes rt.nextId command.scheduledActions := by
    rw [← hw]
    exact submitted_pending _ command'
  refine h.finish hm [.queued rt.nextId _ command.scheduledActions] (submitted_registry _ command')
    (advance_lt h.counter _) rfl rfl ?_ ?_ ?_ (.inl ?_)
  · exact List.forall_mem_singleton.mpr trivial
  · rw [hpending]
    simp [scheduled]
  · rw [hpending]
    exact submitted_distinct h.counter (removed_distinct h) (hw ▸ hfresh)
  · rw [failedEnvelopes, show rt'.failed = _ from submitted_failed _ command']
    exact congrArg _ hfail

lemma registered_name {registry : PluginRegistry (RuntimeKey κ)} {k : RuntimeKey κ}
    (hc : registry.Coherent keys.key) (hk : queueRegistered registry keys k) :
    registry.ensureKey (keys.key k).key = .ok () := by
  have hname : registry.keysByName.get (keys.key k).key = _ := (hc.byType k _ hk).2.2
  rw [PluginRegistry.ensureKey, hname]
  rfl

def deadLetterOps (envelope : ScheduledActionEnvelope J) (error : String) :
    List (MutationOp keys.key) :=
  [removePending envelope.id, pushFailed ⟨envelope.id, envelope.action, error⟩]

lemma deadLetter_eq (h : QueueInv rt) (nextId : Nat) (error : String) :
    let rt₀ := (rt.record (.handed envelope)).refused nextId
    let store := rt.store.applied (deadLetterOps envelope error)
    rt₀.deadLetter envelope error =
      (.ok (), { rt₀ with store := store }.record (.removed rt.pending envelope)) := by
  intro rt₀ store
  set patch : MutationBatch keys.key := (MutationBatch.new.push (removePending envelope.id)).push
    (pushFailed ⟨envelope.id, envelope.action, error⟩) with hpatch
  have hv : rt.store.validate patch = .ok () := by
    refine validate_ok.mpr ⟨rfl, ?_⟩
    refine List.forall_mem_cons.mpr ⟨registered_name h.coherent h.pendingKey, ?_⟩
    exact List.forall_mem_singleton.mpr (registered_name h.coherent h.failedKey)
  unfold deadLetter
  dsimp only
  rw [← hpatch, show rt₀.store.commit patch = _ from commit_ok rfl hv]
  rfl

lemma QueueInv.deadLettered (h : QueueInv rt) (hm : envelope ∈ rt.pending) {nextId : Nat}
    (hn : nextId < 2 ^ 64) (error : String) :
    QueueInv (((rt.record (.handed envelope)).refused nextId).deadLetter envelope error).2 := by
  rw [deadLetter_eq h]
  have hext : ∀ map : StateMap keys.key,
      pendingOf ((deadLetterOps envelope error).foldl MutationOp.apply map) =
          applyPending (pendingOf map) (.remove envelope.id) ∧
      failedOf ((deadLetterOps envelope error).foldl MutationOp.apply map) =
          failedOf map ++ [⟨envelope.id, envelope.action, error⟩] := by
    intro map
    rw [deadLetterOps, List.foldl_cons, List.foldl_cons, List.foldl_nil, pendingOf_of_ne (pushFailed_slot_ne _),
      pendingOf_removePending, failedOf_pushFailed, failedOf_of_ne (removePending_slot_ne _)]
    exact ⟨rfl, rfl⟩
  refine h.finish hm [] rfl hn (by rw [List.append_nil]; rfl) rfl (by simp) ?_ ?_ (.inr ?_)
  · exact (hext rt.store.inner.ext).1.trans (List.append_nil _).symm
  · exact (congrArg (fun waiting => (waiting.map ScheduledActionEnvelope.id).Nodup)
      (hext rt.store.inner.ext).1).mpr (removed_distinct h)
  · have hfail := (hext rt.store.inner.ext).2
    have hmap := congrArg (List.map (fun entry : FailedScheduledAction J =>
      (⟨entry.id, entry.action⟩ : ScheduledActionEnvelope J))) hfail
    rw [List.map_append] at hmap
    exact hmap

lemma deadLetter_pending (h : QueueInv rt) (nextId : Nat) (error : String) :
    (((rt.record (.handed envelope)).refused nextId).deadLetter envelope error).2.pending =
      applyPending rt.pending (.remove envelope.id) := by
  rw [deadLetter_eq h]
  change pendingOf ((deadLetterOps envelope error).foldl MutationOp.apply rt.store.inner.ext) = _
  rw [deadLetterOps, List.foldl_cons, List.foldl_cons, List.foldl_nil,
    pendingOf_of_ne (pushFailed_slot_ne _), pendingOf_removePending]
  rfl

lemma failAction_snd (rt : PhaseRuntime keys) (report : PhaseRunReport)
    (envelope : ScheduledActionEnvelope J) (error : String) :
    (rt.failAction report envelope error).2 = (rt.deadLetter envelope error).2 := by
  unfold failAction
  rcases rt.deadLetter envelope error with ⟨_ | _, rt'⟩ <;> rfl

lemma deadLetter_history (rt : PhaseRuntime keys) (envelope : ScheduledActionEnvelope J)
    (error : String) :
    rt.history <+: (rt.deadLetter envelope error).2.history := by
  unfold deadLetter
  dsimp only
  split
  · exact List.prefix_rfl
  · exact List.prefix_append _ _

def QuietHandler (handler : ScheduledActionHandler keys.key) : Prop :=
  ∀ ctx payload command, handler ctx payload = .ok command → LeavesQueues command

lemma processAction_cases (rt : PhaseRuntime keys) (env : ExecutionEnv keys.key)
    (ctx : PhaseContext keys.key) (report : PhaseRunReport) (envelope : ScheduledActionEnvelope J)
    (handler : ScheduledActionHandler keys.key) (hn : rt.nextId < 2 ^ 64) :
    let result := (rt.processAction env ctx report envelope handler).2
    (∃ ctx' payload command, handler ctx' payload = .ok command ∧
      result = ((rt.record (.handed envelope)).submitted { command with
        patch := command.patch.push (removePending envelope.id) }).record
          (.removed rt.pending envelope)) ∨
    ∃ nextId error, nextId < 2 ^ 64 ∧
      result = (((rt.record (.handed envelope)).refused nextId).deadLetter envelope error).2 := by
  unfold processAction
  dsimp only
  cases hh : handler (ctx.withSnapshot (rt.record (.handed envelope)).store.snapshot)
      envelope.action.payload with
  | error err =>
    rw [failAction_snd]
    exact .inr ⟨rt.nextId, err.display, hn, rfl⟩
  | ok command =>
    dsimp only
    rcases submitCommandInner_cases (rt.record (.handed envelope)) env { command with
      patch := command.patch.push (removePending envelope.id) } with
      ⟨submitted, hs⟩ | ⟨err, nextId, hs, hnext⟩
    · rw [hs]
      exact .inl ⟨_, _, command, hh, rfl⟩
    · rw [hs, failAction_snd]
      refine .inr ⟨nextId, _, ?_, rfl⟩
      rcases hnext with rfl | rfl
      · exact hn
      · exact advance_lt hn _

lemma QueueInv.processAction (h : QueueInv rt) (env : ExecutionEnv keys.key)
    (ctx : PhaseContext keys.key) (report : PhaseRunReport)
    (hm : envelope ∈ rt.pending) {handler : ScheduledActionHandler keys.key}
    (hq : QuietHandler handler) :
    let rt' := (rt.processAction env ctx report envelope handler).2
    Fresh rt'.history →
      QueueInv rt' ∧ ∀ other ∈ rt.pending, other.id ≠ envelope.id → other ∈ rt'.pending := by
  intro rt' hf
  have hkeep : ∀ other ∈ rt.pending, other.id ≠ envelope.id →
      other ∈ applyPending rt.pending (.remove envelope.id) := by
    intro other hother hne
    exact List.mem_filter.mpr ⟨hother, by simpa using hne⟩
  rcases processAction_cases rt env ctx report envelope handler h.counter with
    ⟨ctx', payload, command, hh, hres⟩ | ⟨nextId, error, hn, hres⟩
  · have hleaves := hq ctx' payload command hh
    change rt' = _ at hres
    rw [hres] at hf ⊢
    refine ⟨h.processed hm hleaves hf, ?_⟩
    intro other hother hne
    have hw : (rt.record (.handed envelope)).waitingAfter { command with
        patch := command.patch.push (removePending envelope.id) } =
          applyPending rt.pending (.remove envelope.id) :=
      (removed_queues rt.store.inner.ext hleaves envelope.id).1
    change other ∈ PhaseRuntime.pending (PhaseRuntime.submitted _ _)
    rw [submitted_pending, hw]
    exact List.mem_append_left _ (hkeep other hother hne)
  · change rt' = _ at hres
    rw [hres]
    refine ⟨h.deadLettered hm hn error, ?_⟩
    intro other hother hne
    rw [deadLetter_pending h]
    exact hkeep other hother hne

lemma processAction_history (rt : PhaseRuntime keys) (env : ExecutionEnv keys.key)
    (ctx : PhaseContext keys.key) (report : PhaseRunReport)
    (envelope : ScheduledActionEnvelope J) (handler : ScheduledActionHandler keys.key) :
    rt.history <+: (rt.processAction env ctx report envelope handler).2.history := by
  unfold PhaseRuntime.processAction
  dsimp only
  have hhanded : rt.history <+: (rt.record (.handed envelope)).history := List.prefix_append _ _
  split
  · rw [failAction_snd]
    exact hhanded.trans (deadLetter_history _ _ _)
  · rename_i command _
    rcases submitCommandInner_cases (rt.record (.handed envelope)) env { command with
      patch := command.patch.push (removePending envelope.id) } with
      ⟨submitted, hs⟩ | ⟨err, nextId, hs, -⟩
    · rw [hs]
      exact hhanded.trans ((List.prefix_append _ _).trans (List.prefix_append _ _))
    · rw [hs, failAction_snd]
      have hdead := deadLetter_history ((rt.record (.handed envelope)).refused nextId) envelope
        ("failed to submit action command: " ++ err.display)
      exact hhanded.trans hdead

/-- What every function of the runtime does to its bookkeeping: the history grows, and as long as
drawn ids are fresh the invariant stays. -/
structure Keeps (rt rt' : PhaseRuntime keys) : Prop where
  history : rt.history <+: rt'.history
  inv : Fresh rt'.history → QueueInv rt → QueueInv rt'

lemma Keeps.refl (rt : PhaseRuntime keys) : Keeps rt rt := ⟨List.prefix_rfl, fun _ h => h⟩

lemma Keeps.trans {rt₁ rt₂ rt₃ : PhaseRuntime keys} (h : Keeps rt₁ rt₂) (h' : Keeps rt₂ rt₃) :
    Keeps rt₁ rt₃ :=
  ⟨h.history.trans h'.history, fun hf hi => h'.inv hf (h.inv (hf.of_prefix h'.history) hi)⟩

lemma processActions_history
    (matched : List (ScheduledActionEnvelope J × ScheduledActionHandler keys.key))
    (rt : PhaseRuntime keys) (report : PhaseRunReport) :
    rt.history <+: (rt.processActions env ctx report matched).2.history := by
  induction matched generalizing rt report with
  | nil => exact List.prefix_rfl
  | cons first rest ih =>
    unfold processActions
    have hfirst := processAction_history rt env ctx report first.1 first.2
    rcases hp : rt.processAction env ctx report first.1 first.2 with ⟨_ | report', rt'⟩
    · rw [hp] at hfirst
      exact hfirst
    · rw [hp] at hfirst
      exact hfirst.trans (ih rt' report')

lemma QueueInv.processActions
    {matched : List (ScheduledActionEnvelope J × ScheduledActionHandler keys.key)}
    (h : QueueInv rt) (report : PhaseRunReport) (hm : ∀ p ∈ matched, p.1 ∈ rt.pending)
    (hd : (matched.map (fun p => p.1.id)).Nodup) (hq : ∀ p ∈ matched, QuietHandler p.2)
    (hf : Fresh (rt.processActions env ctx report matched).2.history) :
    QueueInv (rt.processActions env ctx report matched).2 := by
  induction matched generalizing rt report with
  | nil => exact h
  | cons first rest ih =>
    obtain ⟨hm₀, hm⟩ := List.forall_mem_cons.mp hm
    obtain ⟨hq₀, hq⟩ := List.forall_mem_cons.mp hq
    obtain ⟨hd₀, hd⟩ := List.nodup_cons.mp hd
    have hstep := h.processAction env ctx report hm₀ hq₀
    unfold PhaseRuntime.processActions at hf ⊢
    rcases hp : rt.processAction env ctx report first.1 first.2 with ⟨_ | report', rt'⟩
    · rw [hp] at hstep
      simp only [hp] at hf ⊢
      exact (hstep hf).1
    · rw [hp] at hstep
      simp only [hp] at hf ⊢
      obtain ⟨hinv, hkeep⟩ := hstep (hf.of_prefix (processActions_history rest rt' report'))
      refine ih hinv report' ?_ hd hq hf
      intro p hp'
      refine hkeep p.1 (hm p hp') ?_
      intro hid
      exact hd₀ (List.mem_map.mpr ⟨p, hp', hid⟩)

end Processing

section Phases

variable [DecidableEq κ] {env : ExecutionEnv keys.key} {ctx : PhaseContext keys.key}

structure QuietEnv (env : ExecutionEnv keys.key) : Prop where
  hooks : ∀ phase, ∀ tagged ∈ env.phaseHooks phase, ∀ ctx command,
    tagged.hook ctx = .ok command → LeavesQueues command
  handlers : ∀ key handler, env.scheduledActionHandlers key = some handler → QuietHandler handler

omit [DecidableEq κ] in
lemma matching_spec (rt : PhaseRuntime keys) (env : ExecutionEnv keys.key) (phase : Phase) :
    ((rt.matching env phase).map (·.1)).Sublist rt.pending ∧
      ∀ p ∈ rt.matching env phase, env.scheduledActionHandlers p.1.action.key = some p.2 := by
  unfold matching
  generalize rt.pending = waiting
  induction waiting with
  | nil => exact ⟨List.Sublist.refl _, by simp⟩
  | cons envelope waiting ih =>
    obtain ⟨hsub, hall⟩ := ih
    rw [List.filterMap_cons]
    split
    · exact ⟨hsub.cons _, hall⟩
    · rename_i p hp
      have hspec : p.1 = envelope ∧ env.scheduledActionHandlers p.1.action.key = some p.2 := by
        split at hp
        · obtain ⟨handler, hh, rfl⟩ := Option.map_eq_some_iff.mp hp
          exact ⟨rfl, hh⟩
        · exact nomatch hp
      refine ⟨?_, List.forall_mem_cons.mpr ⟨hspec.2, hall⟩⟩
      rw [List.map_cons, hspec.1]
      exact hsub.cons_cons _

lemma keeps_processActions (ctx : PhaseContext keys.key) (hq : QuietEnv env) (rt : PhaseRuntime keys) (report : PhaseRunReport)
    (phase : Phase) :
    Keeps rt (rt.processActions env ctx report (rt.matching env phase)).2 := by
  obtain ⟨hsub, hall⟩ := matching_spec rt env phase
  refine ⟨processActions_history _ _ _, fun hf h => h.processActions report ?_ ?_ ?_ hf⟩
  · intro p hp
    exact hsub.subset (List.mem_map_of_mem hp)
  · have hd := h.distinct.sublist (hsub.map (·.id))
    rwa [List.map_map] at hd
  · intro p hp
    exact hq.handlers _ _ (hall p hp)

lemma keeps_executeRounds (hq : QuietEnv env) (maxRounds left : Nat) (rt : PhaseRuntime keys)
    (report : PhaseRunReport) : Keeps rt (rt.executeRounds env ctx maxRounds report left).2 := by
  induction left generalizing rt report with
  | zero => exact .refl rt
  | succ left ih =>
    unfold executeRounds
    dsimp only
    split
    · split <;> exact .refl rt
    · have hround := keeps_processActions ctx hq rt
        { report with rounds := report.rounds + 1 } ctx.phase
      rcases hp : rt.processActions env ctx { report with rounds := report.rounds + 1 }
        (rt.matching env ctx.phase) with ⟨_ | report', rt'⟩
      · rw [hp] at hround
        exact hround
      · rw [hp] at hround
        exact hround.trans (ih rt' report')

lemma keeps_submit (rt : PhaseRuntime keys) (env : ExecutionEnv keys.key)
    {command : StateCommand keys.key} (hq : LeavesQueues command) :
    Keeps rt (rt.submitCommandInner env command).2 := by
  rcases submitCommandInner_cases rt env command with ⟨report, hs⟩ | ⟨e, nextId, hs, hnext⟩
  · rw [hs]
    exact ⟨List.prefix_append _ _, fun hf h => h.submitted hq hf⟩
  · rw [hs]
    refine ⟨List.prefix_rfl, fun _ h => h.refused ?_⟩
    rcases hnext with rfl | rfl
    · exact h.counter
    · exact advance_lt h.counter _

lemma keeps_submitNonEmpty (rt : PhaseRuntime keys) (env : ExecutionEnv keys.key)
    {command : StateCommand keys.key} (hq : LeavesQueues command) :
    Keeps rt (rt.submitNonEmpty env command).2 := by
  have hsub := keeps_submit rt env hq
  unfold submitNonEmpty
  split
  · exact .refl rt
  · rcases hs : rt.submitCommandInner env command with ⟨_ | report, rt'⟩
    · rw [hs] at hsub
      exact hsub
    · rw [hs] at hsub
      exact hsub

omit [DecidableEq κ] in
lemma runHook_leaves (hq : QuietEnv env) {i : Fin (filterHooks env ctx).length}
    {snapshot : Snapshot keys.key} {command : StateCommand keys.key}
    (h : runHook ((filterHooks env ctx).get i) ctx snapshot = .ok command) :
    LeavesQueues command := by
  have hmem := (List.mem_filter.mp (List.get_mem (filterHooks env ctx) i)).1
  unfold runHook at h
  cases hr : ((filterHooks env ctx).get i).hook (ctx.withSnapshot snapshot) with
  | error e =>
    rw [hr] at h
    exact nomatch h
  | ok cmd =>
    have hleaves := hq.hooks _ _ hmem _ _ hr
    rw [hr] at h
    obtain rfl := Except.ok.inj h
    split
    · exact hleaves
    · exact hleaves

omit [DecidableEq κ] in
lemma merged_leaves {store : StateStore keys.key} {commands : List (StateCommand keys.key)}
    {merged : StateCommand keys.key} (hq : ∀ c ∈ commands, LeavesQueues c)
    (h : store.mergeAllCommands commands = .ok merged) : LeavesQueues merged := by
  obtain ⟨-, rfl⟩ := mergeAllCommands_ok.mp h
  intro op hop
  rw [foldl_joined_ops] at hop
  obtain ⟨c, hc, hmem⟩ := List.mem_flatMap.mp hop
  exact hq c hc op hmem

lemma keeps_submitMerged (rt : PhaseRuntime keys) (env : ExecutionEnv keys.key)
    {commands : List (StateCommand keys.key)} (hq : ∀ c ∈ commands, LeavesQueues c) :
    Keeps rt (rt.submitMerged env commands).2 := by
  unfold submitMerged
  cases hm : rt.store.mergeAllCommands commands with
  | error e => exact .refl rt
  | ok merged => exact keeps_submitNonEmpty rt env (merged_leaves hq hm)

lemma keeps_rerunDeferred (hq : QuietEnv env) (indices : List (Fin (filterHooks env ctx).length))
    (rt : PhaseRuntime keys) (effects : HookEffects) :
    Keeps rt (rt.rerunDeferred env (filterHooks env ctx) ctx effects indices).2 := by
  induction indices generalizing rt effects with
  | nil => exact .refl rt
  | cons i indices ih =>
    unfold rerunDeferred
    cases hr : runHook ((filterHooks env ctx).get i) ctx rt.store.snapshot with
    | error e => exact .refl rt
    | ok cmd =>
      have hsub := keeps_submitNonEmpty rt env (runHook_leaves hq hr)
      dsimp only
      rcases hs : rt.submitNonEmpty env cmd with ⟨_ | more, rt'⟩
      · rw [hs] at hsub
        exact hsub
      · rw [hs] at hsub
        exact hsub.trans (ih rt' _)

lemma keeps_gather (ctx : PhaseContext keys.key) (hq : QuietEnv env) (rt : PhaseRuntime keys) :
    Keeps rt (rt.gatherAndCommitHooks env ctx).2 := by
  unfold gatherAndCommitHooks
  dsimp only
  split
  · exact .refl rt
  cases hr : runHooksIndexed (filterHooks env ctx) ctx rt.store.snapshot with
  | error e => exact .refl rt
  | ok indexed =>
    dsimp only
    have hall : ∀ p ∈ indexed, LeavesQueues p.2 := by
      intro p hp
      exact runHook_leaves hq ((mem_firstRun hr p.1 p.2).mp hp).1
    split
    · exact .refl rt
    split
    · refine keeps_submitMerged rt env ?_
      intro c hc
      obtain ⟨p, hp, rfl⟩ := List.mem_map.mp hc
      exact hall p hp
    · obtain ⟨batch, rest, hpart, hsub, -⟩ :=
        partition_batch rt.store.registry.mergeStrategy indexed
      rw [hpart]
      dsimp only
      have hbatch : Keeps rt (if (batch.map (·.2)).isEmpty then
          ((.ok .zero, rt) : Except StateError HookEffects × PhaseRuntime keys)
          else rt.submitMerged env (batch.map (·.2))).2 := by
        split
        · exact .refl rt
        · refine keeps_submitMerged rt env ?_
          intro c hc
          obtain ⟨p, hp, rfl⟩ := List.mem_map.mp hc
          exact hall p (hsub.subset hp)
      revert hbatch
      generalize (if (batch.map (·.2)).isEmpty then
        ((.ok .zero, rt) : Except StateError HookEffects × PhaseRuntime keys)
        else rt.submitMerged env (batch.map (·.2))) = result
      intro hbatch
      rcases result with ⟨_ | effects, rt'⟩
      · exact hbatch
      · exact hbatch.trans (keeps_rerunDeferred hq rest rt' effects)

lemma keeps_runPhase (hq : QuietEnv env) (rt : PhaseRuntime keys) (maxRounds : Nat) :
    Keeps rt (rt.runPhaseCtxInner env ctx maxRounds).2 := by
  unfold runPhaseCtxInner
  split
  · exact .refl rt
  · have hgather := keeps_gather ctx hq rt
    rcases hg : rt.gatherAndCommitHooks env ctx with ⟨_ | hooks, rt₁⟩
    · rw [hg] at hgather
      exact hgather
    · rw [hg] at hgather
      dsimp only
      split
      · exact hgather
      · have hexec : Keeps rt₁ (rt₁.executeScheduledActions env ctx maxRounds).2 :=
          keeps_executeRounds hq _ _ _ _
        rcases he : rt₁.executeScheduledActions env ctx maxRounds with ⟨_ | report, rt₂⟩
        · rw [he] at hexec
          exact hgather.trans hexec
        · rw [he] at hexec
          exact hgather.trans hexec

end Phases

section Restarts

variable [DecidableEq κ] {rt rt' : PhaseRuntime keys}

structure Started (rt : PhaseRuntime keys) : Prop where
  coherent : rt.store.registry.Coherent keys.key
  pendingKey : queueRegistered rt.store.registry keys .pending
  failedKey : queueRegistered rt.store.registry keys .failed
  empty : rt.store.inner.ext = StateMap.empty
  counter : rt.nextId = 1
  history : rt.history = []

lemma new_started (h : PhaseRuntime.new .new = .ok rt) : Started rt := by
  have hrt : PhaseRuntime.new (.new : StateStore keys.key) =
      .ok ⟨(StateStore.new.installPlugin runtimeQueuePlugin).2, 1, []⟩ := rfl
  obtain rfl := Except.ok.inj (hrt.symm.trans h)
  exact ⟨coherent_installPlugin .empty _, rfl, rfl, rfl, rfl, rfl⟩

lemma queueRegistered_iff {registry : PluginRegistry (RuntimeKey κ)} {k : RuntimeKey κ}
    (hc : registry.Coherent keys.key) :
    queueRegistered registry keys k ↔ registry.keysByName.get (keys.key k).key =
      some (.new keys.key k runtimeQueueOptions) :=
  ⟨fun h => (hc.byType k _ h).2.2, fun h => (hc.byName _ _ h).2⟩

lemma Started.installPlugin (hs : Started rt) {plugin : Plugin (RuntimeKey κ)}
    (h : rt.installPlugin plugin = .ok rt') : Started rt' := by
  unfold PhaseRuntime.installPlugin at h
  rcases hi : rt.store.installPlugin plugin with ⟨_ | _, store'⟩
  · rw [hi] at h
    exact nomatch h
  · rw [hi] at h
    obtain rfl := Except.ok.inj h
    have hc := coherent_installPlugin hs.coherent plugin
    rw [hi] at hc
    have hpend := installPlugin_keeps hi ((queueRegistered_iff hs.coherent).mp hs.pendingKey)
    have hfail := installPlugin_keeps hi ((queueRegistered_iff hs.coherent).mp hs.failedKey)
    refine ⟨hc, (queueRegistered_iff hc).mpr hpend.2, (queueRegistered_iff hc).mpr hfail.2, ?_,
      hs.counter, hs.history⟩
    exact (congrArg Snapshot.ext hpend.1).trans hs.empty

lemma boot_started {plugins : List (Plugin (RuntimeKey κ))} (h : boot plugins = .ok rt) :
    Started rt := by
  unfold boot at h
  cases hn : PhaseRuntime.new (.new : StateStore keys.key) with
  | error e =>
    rw [hn] at h
    exact nomatch h
  | ok start =>
    rw [hn] at h
    have hs := new_started hn
    clear hn
    change plugins.foldlM PhaseRuntime.installPlugin start = .ok rt at h
    induction plugins generalizing start with
    | nil =>
      obtain rfl := Except.ok.inj h
      exact hs
    | cons plugin plugins ih =>
      rw [List.foldlM_cons] at h
      cases hi : start.installPlugin plugin with
      | error e =>
        rw [hi] at h
        exact nomatch h
      | ok next =>
        rw [hi] at h
        exact ih next (hs.installPlugin hi) h

lemma Started.inv (hs : Started rt) : QueueInv rt := by
  have hpend : rt.pending = [] := by rw [PhaseRuntime.pending, hs.empty]; rfl
  have hfail : rt.failedEnvelopes = [] := by
    rw [failedEnvelopes, PhaseRuntime.failed, hs.empty]
    rfl
  refine ⟨hs.coherent, hs.pendingKey, hs.failedKey, ?_, ?_, ?_, ?_⟩
  · rw [hs.counter]
    decide
  · rw [hpend]
    exact .nil
  · rw [hpend, hfail, hs.history]
    exact ⟨[], .nil, .nil⟩
  · rw [hs.history]
    simp

lemma QueueInv.restart (h : QueueInv rt) (hp : keys.pendingCodec.RoundTrips)
    (hf : keys.failedCodec.RoundTrips) {plugins : List (Plugin (RuntimeKey κ))}
    {policy : UnknownKeyPolicy} (hr : rt.restart plugins policy = .ok rt') : QueueInv rt' := by
  unfold PhaseRuntime.restart at hr
  cases he : rt.store.exportPersisted with
  | error e =>
    rw [he] at hr
    exact nomatch hr
  | ok persisted =>
    cases hb : (boot plugins : Except StateError (PhaseRuntime keys)) with
    | error e =>
      rw [he, hb] at hr
      exact nomatch hr
    | ok fresh =>
      rw [he, hb] at hr
      have hs := boot_started hb
      have hregistry : (fresh.store.restorePersisted persisted policy).2.registry =
          fresh.store.registry := by
        unfold StateStore.restorePersisted
        split <;> rfl
      have hkeep : ∀ k reg, (fresh.store.restorePersisted persisted policy).1 = .ok () →
          rt.store.registry.keysByType.get k = some reg → reg.options.persistent = true →
          fresh.store.registry.keysByType.get k = some reg → (keys.key k).codec.RoundTrips →
          (fresh.store.restorePersisted persisted policy).2.read k = rt.store.read k :=
        fun k reg hok hk hpersist hk' hrt =>
          restore_export h.coherent hs.coherent he hok hk hpersist hk' hrt
      rcases hres : fresh.store.restorePersisted persisted policy with ⟨_ | _, store'⟩
      · simp only [bind, Except.bind, hres] at hr
        exact nomatch hr
      · simp only [bind, Except.bind, hres] at hr
        obtain rfl := Except.ok.inj hr
        rw [hres] at hregistry hkeep
        have hpending : store'.read .pending = rt.store.read .pending :=
          hkeep _ _ rfl h.pendingKey rfl hs.pendingKey hp
        have hfailed : store'.read .failed = rt.store.read .failed :=
          hkeep _ _ rfl h.failedKey rfl hs.failedKey hf
        have hpend : pendingOf store'.inner.ext = rt.pending :=
          congrArg (fun value => Option.getD value []) hpending
        have hfail : failedOf store'.inner.ext = rt.failed :=
          congrArg (fun value => Option.getD value []) hfailed
        refine ⟨hregistry ▸ hs.coherent, ?_, ?_, ?_, ?_, ?_, h.removals⟩
        · exact (congrArg (queueRegistered · keys .pending) hregistry).mpr hs.pendingKey
        · exact (congrArg (queueRegistered · keys .failed) hregistry).mpr hs.failedKey
        · exact hs.counter ▸ (by decide : 1 < 2 ^ 64)
        · exact (congrArg (fun waiting => (waiting.map ScheduledActionEnvelope.id).Nodup)
            hpend).mpr h.distinct
        · have hlists : failedEnvelopes ({ fresh with store := store', history := rt.history } :
              PhaseRuntime keys) = rt.failedEnvelopes := congrArg (List.map _) hfail
          rw [hlists]
          exact (congrArg (fun waiting => Accounted rt.history waiting rt.failedEnvelopes)
            hpend).mpr h.accounted

end Restarts

section Runs

variable [DecidableEq κ]

/-- The commands of the operation leave the two queues to the runtime. -/
def RuntimeOp.LeavesQueues : RuntimeOp keys → Prop
  | .submitCommand _ command => Engine.LeavesQueues command
  | .runPhase env _ _ => QuietEnv env
  | .runExecuteLoop env _ _ => QuietEnv env
  | .restart _ _ => True

lemma restart_history {rt rt' : PhaseRuntime keys} {plugins : List (Plugin (RuntimeKey κ))}
    {policy : UnknownKeyPolicy} (hr : rt.restart plugins policy = .ok rt') :
    rt'.history = rt.history := by
  unfold PhaseRuntime.restart at hr
  cases he : rt.store.exportPersisted with
  | error e =>
    rw [he] at hr
    exact nomatch hr
  | ok persisted =>
    cases hb : (boot plugins : Except StateError (PhaseRuntime keys)) with
    | error e =>
      rw [he, hb] at hr
      exact nomatch hr
    | ok fresh =>
      rw [he, hb] at hr
      rcases hres : fresh.store.restorePersisted persisted policy with ⟨_ | _, store'⟩
      · simp only [bind, Except.bind, hres] at hr
        exact nomatch hr
      · simp only [bind, Except.bind, hres] at hr
        obtain rfl := Except.ok.inj hr
        rfl

lemma keeps_perform (hp : keys.pendingCodec.RoundTrips) (hf : keys.failedCodec.RoundTrips)
    {op : RuntimeOp keys} (hq : op.LeavesQueues) (rt : PhaseRuntime keys) :
    Keeps rt (rt.perform op) := by
  cases op with
  | submitCommand env command => exact keeps_submit rt env hq
  | runPhase env ctx maxRounds => exact keeps_runPhase hq rt maxRounds
  | runExecuteLoop env ctx maxRounds => exact keeps_executeRounds hq _ _ _ _
  | restart plugins policy =>
    change Keeps rt ((rt.restart plugins policy).toOption.getD rt)
    cases hr : rt.restart plugins policy with
    | error e => exact .refl rt
    | ok rt' => exact ⟨restart_history hr ▸ List.prefix_rfl, fun _ h => h.restart hp hf hr⟩

lemma keeps_performAll (hp : keys.pendingCodec.RoundTrips) (hf : keys.failedCodec.RoundTrips)
    {ops : List (RuntimeOp keys)} (hq : ∀ op ∈ ops, op.LeavesQueues) (rt : PhaseRuntime keys) :
    Keeps rt (rt.performAll ops) := by
  induction ops generalizing rt with
  | nil => exact .refl rt
  | cons op ops ih =>
    obtain ⟨hq₀, hq⟩ := List.forall_mem_cons.mp hq
    exact (keeps_perform hp hf hq₀ rt).trans (ih hq (rt.perform op))

/-- As long as the counter hands out no id that a waiting action carries, and nothing but the runtime
writes the two queues, every scheduled action waits or was handed over once, and each removal takes
away the action it is for. -/
theorem scheduled_exactly_once (hp : keys.pendingCodec.RoundTrips)
    (hf : keys.failedCodec.RoundTrips) (plugins : List (Plugin (RuntimeKey κ)))
    (start : PhaseRuntime keys) (hboot : boot plugins = .ok start) (ops : List (RuntimeOp keys))
    (hq : ∀ op ∈ ops, op.LeavesQueues) (hfresh : Fresh (start.performAll ops).history) :
    let rt := start.performAll ops
    (rt.pending.map (·.id)).Nodup ∧ Accounted rt.history rt.pending rt.failedEnvelopes ∧
      ∀ event ∈ rt.history, event.RemovesOne := by
  have hinv := (keeps_performAll hp hf hq start).inv hfresh (boot_started hboot).inv
  exact ⟨hinv.distinct, hinv.accounted, hinv.removals⟩

end Runs

section Documents

inductive Doc where
  | text (value : String)
  | pending (entries : List (Nat × Phase × String × Doc))
  | failed (entries : List (Nat × Phase × String × Doc × String))

def docPending : Codec Doc (List (ScheduledActionEnvelope Doc)) where
  encode value := .ok (.pending (value.map (fun envelope =>
    (envelope.id, envelope.action.phase, envelope.action.key, envelope.action.payload))))
  decode
    | .pending entries => .ok (entries.map (fun entry =>
      ⟨entry.1, entry.2.1, entry.2.2.1, entry.2.2.2⟩))
    | _ => .error (.keyDecode "pending" "expected a queue")

def docFailed : Codec Doc (List (FailedScheduledAction Doc)) where
  encode value := .ok (.failed (value.map (fun entry =>
    (entry.id, entry.action.phase, entry.action.key, entry.action.payload, entry.error))))
  decode
    | .failed entries => .ok (entries.map (fun entry =>
      ⟨entry.1, ⟨entry.2.1, entry.2.2.1, entry.2.2.2.1⟩, entry.2.2.2.2⟩))
    | _ => .error (.keyDecode "failed" "expected a list of failures")

lemma docPending_roundTrips : docPending.RoundTrips := by
  intro value json h
  obtain rfl := Except.ok.inj h
  simp [docPending, Function.comp_def]

lemma docFailed_roundTrips : docFailed.RoundTrips := by
  intro value json h
  obtain rfl := Except.ok.inj h
  simp [docFailed, Function.comp_def]

def docKeys : RuntimeKeys Doc Empty := ⟨docPending, docFailed, fun k => nomatch k⟩

def docStart : PhaseRuntime docKeys :=
  ⟨(StateStore.new.installPlugin runtimeQueuePlugin).2, 1, []⟩

def docEnv : ExecutionEnv docKeys.key := ⟨fun _ => [], fun _ => some (fun _ _ => .ok .new), fun _ => none⟩

lemma docEnv_quiet : QuietEnv docEnv := by
  refine ⟨fun _ _ h => (nomatch h), ?_⟩
  intro key handler h ctx payload command hc
  obtain rfl := Option.some.inj h
  obtain rfl := Except.ok.inj hc
  exact fun _ hop => nomatch hop

def schedule (phase : Phase) (note : String) : RuntimeOp docKeys :=
  .submitCommand docEnv ⟨.new, [⟨phase, "job", .text note⟩], []⟩

lemma schedule_leaves (phase : Phase) (note : String) : (schedule phase note).LeavesQueues :=
  fun _ hop => nomatch hop

def runBeforeInference : RuntimeOp docKeys :=
  .runPhase docEnv ⟨.beforeInference, ⟨0, .empty⟩, [], none⟩ 16

def settled : List (RuntimeOp docKeys) :=
  [schedule .beforeInference "a", runBeforeInference, .restart [] .error,
    schedule .afterInference "b"]

theorem scheduled_exactly_once_settled :
    let rt := docStart.performAll settled
    (rt.pending.map (·.id)).Nodup ∧ Accounted rt.history rt.pending rt.failedEnvelopes ∧
      ∀ event ∈ rt.history, event.RemovesOne := by
  refine scheduled_exactly_once docPending_roundTrips docFailed_roundTrips [] docStart rfl settled
    ?_ ?_
  · rintro op (_ | ⟨_, _ | ⟨_, _ | ⟨_, _ | ⟨_, hop⟩⟩⟩⟩)
    · exact schedule_leaves _ _
    · exact docEnv_quiet
    · exact trivial
    · exact schedule_leaves _ _
    · exact nomatch hop
  · have hhist : (docStart.performAll settled).history =
        [.queued 1 [] [⟨.beforeInference, "job", .text "a"⟩],
          .handed ⟨1, ⟨.beforeInference, "job", .text "a"⟩⟩, .queued 2 [] [],
          .removed [⟨1, ⟨.beforeInference, "job", .text "a"⟩⟩] ⟨1, ⟨.beforeInference, "job", .text "a"⟩⟩,
          .queued 1 [] [⟨.afterInference, "job", .text "b"⟩]] := rfl
    rw [Fresh, hhist]
    simp [QueueEvent.Fresh]

def crossing : List (RuntimeOp docKeys) :=
  [schedule .beforeInference "a", .restart [] .error, schedule .afterInference "b"]

theorem restart_loses_action :
    ¬ ((docStart.performAll crossing).pending.map (·.id)).Nodup ∧
      let rt := docStart.performAll (crossing ++ [runBeforeInference])
      ¬ Accounted rt.history rt.pending rt.failedEnvelopes := by
  constructor
  · have hids : (docStart.performAll crossing).pending.map (·.id) = [1, 1] := rfl
    rw [hids]
    decide
  · intro rt haccounted
    obtain ⟨finished, hhandedPerm, hscheduledPerm⟩ := haccounted
    have hhanded := List.Perm.length_eq hhandedPerm
    have hscheduled := List.Perm.length_eq hscheduledPerm
    have hone : (handed rt.history).length = 1 := rfl
    have htwo : (scheduled rt.history).length = 2 := rfl
    have hnone : rt.pending = [] := rfl
    rw [hnone, List.nil_append] at hscheduled
    omega

end Documents

end Awaken.Engine
