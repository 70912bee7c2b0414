import Mathlib.Logic.Function.Basic
import Mathlib.Tactic.Lemma
import Awaken.Lib.Commute

/-! Errors of the state engine, state keys and the typed map they index. The values of `κ` stand for
the types that implement the `StateKey` trait, `J` for JSON values. -/

namespace Awaken.State

inductive Phase where
  | runStart
  | stepStart
  | beforeInference
  | afterInference
  | toolGate
  | beforeToolExecute
  | afterToolExecute
  | stepEnd
  | runEnd
deriving DecidableEq

def Phase.debug : Phase → String
  | .runStart => "RunStart"
  | .stepStart => "StepStart"
  | .beforeInference => "BeforeInference"
  | .afterInference => "AfterInference"
  | .toolGate => "ToolGate"
  | .beforeToolExecute => "BeforeToolExecute"
  | .afterToolExecute => "AfterToolExecute"
  | .stepEnd => "StepEnd"
  | .runEnd => "RunEnd"

inductive UnknownKeyPolicy where
  | error
  | skip
deriving DecidableEq

inductive StateError where
  | revisionConflict (expected actual : Nat)
  | mutationBaseRevisionMismatch (left right : Nat)
  | pluginAlreadyInstalled (name : String)
  | pluginNotInstalled (typeName : String)
  | keyAlreadyRegistered (key : String)
  | unknownKey (key : String)
  | keyDecode (key message : String)
  | keyEncode (key message : String)
  | handlerAlreadyRegistered (key : String)
  | effectHandlerAlreadyRegistered (key : String)
  | phaseRunLoopExceeded (phase : Phase) (maxRounds : Nat)
  | unknownScheduledActionHandler (key : String)
  | unknownEffectHandler (key : String)
  | parallelMergeConflict (key : String)
  | toolAlreadyRegistered (toolId : String)
  | cancelled
deriving DecidableEq

def StateError.display : StateError → String
  | .revisionConflict expected actual =>
    "revision conflict: expected " ++ toString expected ++ ", actual " ++ toString actual
  | .mutationBaseRevisionMismatch left right =>
    "patch base revision mismatch: " ++ toString left ++ " vs " ++ toString right
  | .pluginAlreadyInstalled name => "plugin already installed: " ++ name
  | .pluginNotInstalled typeName => "plugin not installed: " ++ typeName
  | .keyAlreadyRegistered key => "key already registered: " ++ key
  | .unknownKey key => "unknown key: " ++ key
  | .keyDecode key message => "failed to decode key " ++ key ++ ": " ++ message
  | .keyEncode key message => "failed to encode key " ++ key ++ ": " ++ message
  | .handlerAlreadyRegistered key => "scheduled action handler already registered: " ++ key
  | .effectHandlerAlreadyRegistered key => "effect handler already registered: " ++ key
  | .phaseRunLoopExceeded phase maxRounds =>
    "phase " ++ phase.debug ++ " did not converge after " ++ toString maxRounds ++ " rounds"
  | .unknownScheduledActionHandler key => "no scheduled action handler registered for " ++ key
  | .unknownEffectHandler key => "no effect handler registered for " ++ key
  | .parallelMergeConflict key => "parallel merge conflict on exclusive key: " ++ key
  | .toolAlreadyRegistered toolId => "tool already registered: " ++ toolId
  | .cancelled => "operation cancelled"

end Awaken.State

namespace Awaken.State

open Awaken.Lib

inductive KeyScope where
  | run
  | thread
deriving DecidableEq

inductive MergeStrategy where
  | exclusive
  | commutative
deriving DecidableEq

structure StateKeyOptions where
  persistent : Bool
  retainOnUninstall : Bool
  scope : KeyScope
deriving DecidableEq

structure Codec (J V : Type) where
  encode : V → Except StateError J
  decode : J → Except StateError V

structure StateKey (J : Type) where
  key : String
  merge : MergeStrategy
  Value : Type
  Update : Type
  default : Value
  apply : Value → Update → Value
  codec : Codec J Value

/-- The law that `MergeStrategy::Commutative` declares. -/
def StateKey.Commutative {J : Type} (key : StateKey J) : Prop :=
  ∀ a b, Commutes key.apply a b

variable {J κ : Type} [DecidableEq κ]

abbrev StateMap (K : κ → StateKey J) : Type := (k : κ) → Option (K k).Value

namespace StateMap

variable {K : κ → StateKey J}

def empty : StateMap K := fun _ => none

def insert (map : StateMap K) (k : κ) (value : (K k).Value) : StateMap K :=
  Function.update map k (some value)

def remove (map : StateMap K) (k : κ) : StateMap K := Function.update map k none

def update (map : StateMap K) (k : κ) (update : (K k).Update) : StateMap K :=
  map.insert k ((K k).apply ((map k).getD (K k).default) update)

@[simp] lemma update_self (map : StateMap K) (k : κ) (u : (K k).Update) :
    map.update k u k = some ((K k).apply ((map k).getD (K k).default) u) :=
  Function.update_self _ _ _

lemma update_of_ne {k j : κ} (h : j ≠ k) (map : StateMap K) (u : (K k).Update) :
    map.update k u j = map j := Function.update_of_ne h _ _

@[simp] lemma remove_self (map : StateMap K) (k : κ) : map.remove k k = none :=
  Function.update_self _ _ _

lemma remove_of_ne {k j : κ} (h : j ≠ k) (map : StateMap K) : map.remove k j = map j :=
  Function.update_of_ne h _ _

end StateMap

end Awaken.State
