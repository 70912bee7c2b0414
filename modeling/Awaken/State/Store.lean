import Awaken.Lib.Table
import Awaken.State.Command

namespace Awaken.State

open Awaken.Lib

variable {J κ : Type} [DecidableEq κ] {K : κ → StateKey J}

structure KeyRegistration (κ : Type) where
  typeId : κ
  key : String
  options : StateKeyOptions
  mergeStrategy : MergeStrategy
  scope : KeyScope

def KeyRegistration.new (K : κ → StateKey J) (k : κ) (options : StateKeyOptions) :
    KeyRegistration κ where
  typeId := k
  key := (K k).key
  options := options
  mergeStrategy := (K k).merge
  scope := options.scope

structure PluginRegistry (κ : Type) where
  plugins : Table String (List κ)
  keysByType : Table κ (KeyRegistration κ)
  keysByName : Table String (KeyRegistration κ)

namespace PluginRegistry

def empty : PluginRegistry κ := ⟨.empty, .empty, .empty⟩

def mergeStrategy (self : PluginRegistry κ) (key : String) : MergeStrategy :=
  ((self.keysByName.get key).map (·.mergeStrategy)).getD .exclusive

def ensureKey (self : PluginRegistry κ) (key : String) : Except StateError Unit :=
  if (self.keysByName.get key).isSome then .ok () else .error (.unknownKey key)

def insertKey (self : PluginRegistry κ) (reg : KeyRegistration κ) : PluginRegistry κ :=
  { self with
    keysByName := self.keysByName.insert reg.key reg
    keysByType := self.keysByType.insert reg.typeId reg }

end PluginRegistry

structure Snapshot (K : κ → StateKey J) where
  revision : Nat
  ext : StateMap K

def Snapshot.get (self : Snapshot K) (k : κ) : Option (K k).Value := self.ext k

structure StateStore (K : κ → StateKey J) where
  inner : Snapshot K
  registry : PluginRegistry κ

namespace StateStore

def new : StateStore K := ⟨⟨0, .empty⟩, .empty⟩

def snapshot (self : StateStore K) : Snapshot K := self.inner

def revision (self : StateStore K) : Nat := self.inner.revision

def read (self : StateStore K) (k : κ) : Option (K k).Value := self.inner.get k

def mergeAllCommands (self : StateStore K) (commands : List (StateCommand K)) :
    Except StateError (StateCommand K) :=
  commands.foldlM (fun acc cmd => acc.mergeParallel cmd self.registry.mergeStrategy) .new

def checkBase (self : StateStore K) : Option Nat → Except StateError Unit
  | some expected =>
    if self.inner.revision ≠ expected then
      .error (.revisionConflict expected self.inner.revision)
    else .ok ()
  | none => .ok ()

def validate (self : StateStore K) (patch : MutationBatch K) : Except StateError Unit := do
  self.checkBase patch.baseRevision
  patch.touchedKeys.forM self.registry.ensureKey

def applied (self : StateStore K) (ops : List (MutationOp K)) : StateStore K :=
  { self with inner := ⟨self.inner.revision + 1, ops.foldl MutationOp.apply self.inner.ext⟩ }

def commit (self : StateStore K) (patch : MutationBatch K) :
    Except StateError Nat × StateStore K :=
  if patch.isEmpty then (.ok self.revision, self)
  else
    match self.validate patch with
    | .error e => (.error e, self)
    | .ok () => (.ok (self.inner.revision + 1), self.applied patch.ops)

def installPluginWithKeys (self : StateStore K) (name : String)
    (registrations : List (KeyRegistration κ)) : Except StateError Unit × StateStore K :=
  if (self.registry.plugins.get name).isSome then (.error (.pluginAlreadyInstalled name), self)
  else
    match registrations.find? (fun reg => (self.registry.keysByName.get reg.key).isSome) with
    | some reg => (.error (.keyAlreadyRegistered reg.key), self)
    | none =>
      let registry := registrations.foldl PluginRegistry.insertKey self.registry
      (.ok (), { self with registry :=
        { registry with plugins := registry.plugins.insert name (registrations.map (·.typeId)) } })

end StateStore

end Awaken.State
