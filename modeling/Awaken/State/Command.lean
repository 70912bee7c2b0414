import Awaken.State.Mutation

namespace Awaken.State

variable {J κ : Type} {K : κ → StateKey J}

structure ScheduledAction (J : Type) where
  phase : Phase
  key : String
  payload : J
deriving DecidableEq

structure TypedEffect (J : Type) where
  key : String
  payload : J
deriving DecidableEq

structure StateCommand (K : κ → StateKey J) where
  patch : MutationBatch K
  scheduledActions : List (ScheduledAction J)
  effects : List (TypedEffect J)

namespace StateCommand

def new : StateCommand K := ⟨.new, [], []⟩

def withBaseRevision (self : StateCommand K) (revision : Nat) : StateCommand K :=
  { self with patch := self.patch.withBaseRevision revision }

def baseRevision (self : StateCommand K) : Option Nat := self.patch.baseRevision

def isEmpty (self : StateCommand K) : Bool :=
  self.patch.isEmpty && self.scheduledActions.isEmpty && self.effects.isEmpty

def update (self : StateCommand K) (k : κ) (update : (K k).Update) : StateCommand K :=
  { self with patch := self.patch.update k update }

def extend (self other : StateCommand K) : Except StateError (StateCommand K) := do
  let patch ← self.patch.extend other.patch
  return ⟨patch, self.scheduledActions ++ other.scheduledActions, self.effects ++ other.effects⟩

def mergeParallel (self other : StateCommand K) (strategy : String → MergeStrategy) :
    Except StateError (StateCommand K) := do
  let patch ← self.patch.mergeParallel other.patch strategy
  return ⟨patch, self.scheduledActions ++ other.scheduledActions, self.effects ++ other.effects⟩

end StateCommand

end Awaken.State
