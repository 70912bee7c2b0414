import Awaken.Engine.Runtime
import Awaken.State.ParallelMerge

namespace Awaken.Engine

open Awaken.State

variable {J κ : Type} {keys : RuntimeKeys J κ}

def committedOps (nextId : Nat) (command : StateCommand keys.key) : List (MutationOp keys.key) :=
  command.patch.ops ++ (envelopes nextId command.scheduledActions).map pushPending

lemma pushes_ops (entries : List (ScheduledActionEnvelope J)) (patch : MutationBatch keys.key) :
    (entries.foldl (fun patch entry => patch.push (pushPending entry)) patch).ops =
      patch.ops ++ entries.map pushPending := by
  induction entries generalizing patch with
  | nil => simp
  | cons entry entries ih =>
    rw [List.foldl_cons, ih, List.map_cons, List.append_cons]
    rfl

variable [DecidableEq κ]

def commitOps (store : StateStore keys.key) (ops : List (MutationOp keys.key)) :
    StateStore keys.key :=
  if ops.isEmpty then store else store.applied ops

lemma commit_cases (store : StateStore keys.key) (patch : MutationBatch keys.key) :
    (∃ revision, store.commit patch = (.ok revision, commitOps store patch.ops)) ∨
      ∃ e, store.commit patch = (.error e, store) := by
  cases hn : patch.isEmpty with
  | true =>
    have hops : patch.ops.isEmpty = true := hn
    exact .inl ⟨store.revision, by simp only [StateStore.commit, commitOps, hn, hops, if_true]⟩
  | false =>
    have hops : patch.ops.isEmpty = false := hn
    by_cases hv : store.validate patch = .ok ()
    · refine .inl ⟨store.inner.revision + 1, ?_⟩
      rw [commit_ok hn hv, commitOps, hops]
      rfl
    · exact .inr (commit_error hn hv)

lemma commitOps_ext (store : StateStore keys.key) (ops : List (MutationOp keys.key)) :
    (commitOps store ops).inner.ext = ops.foldl MutationOp.apply store.inner.ext := by
  cases ops <;> rfl

lemma commitOps_registry (store : StateStore keys.key) (ops : List (MutationOp keys.key)) :
    (commitOps store ops).registry = store.registry := by
  cases ops <;> rfl

namespace PhaseRuntime

def waitingAfter (self : PhaseRuntime keys) (command : StateCommand keys.key) :
    List (ScheduledActionEnvelope J) :=
  pendingOf (command.patch.ops.foldl MutationOp.apply self.store.inner.ext)

def submitted (self : PhaseRuntime keys) (command : StateCommand keys.key) :
    PhaseRuntime keys where
  store := commitOps self.store (committedOps self.nextId command)
  nextId := advance self.nextId (command.scheduledActions.length + command.effects.length)
  history := self.history ++
    [.queued self.nextId (self.waitingAfter command) command.scheduledActions]

def refused (self : PhaseRuntime keys) (nextId : Nat) : PhaseRuntime keys :=
  { self with nextId := nextId }

theorem submitCommandInner_cases (self : PhaseRuntime keys) (env : ExecutionEnv keys.key)
    (command : StateCommand keys.key) :
    (∃ report, self.submitCommandInner env command = (.ok report, self.submitted command)) ∨
      ∃ e nextId, self.submitCommandInner env command = (.error e, self.refused nextId) ∧
        (nextId = self.nextId ∨
          nextId =
            advance self.nextId (command.scheduledActions.length + command.effects.length)) := by
  unfold submitCommandInner
  cases checkHandlers env command with
  | error e => exact .inr ⟨e, self.nextId, rfl, .inl rfl⟩
  | ok u =>
    dsimp only
    set patch := (envelopes self.nextId command.scheduledActions).foldl
      (fun patch entry => patch.push (pushPending entry)) command.patch with hpatch
    have hops : patch.ops = committedOps self.nextId command := by
      rw [hpatch, pushes_ops]
      rfl
    rcases commit_cases self.store patch with ⟨revision, hc⟩ | ⟨e, hc⟩
    · rw [hc, hops]
      exact .inl ⟨_, rfl⟩
    · rw [hc]
      exact .inr ⟨e, _, rfl, .inr rfl⟩

end PhaseRuntime

end Awaken.Engine
