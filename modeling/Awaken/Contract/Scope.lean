import Awaken.Lib.Text
import Awaken.Lib.Netstring

namespace Awaken.Contract.Scope

open Awaken.Lib.Text Awaken.Lib.Netstring

def maxScopeIdLen : Nat := 512

inductive ScopeError where
  | empty
  | tooLong (max : Nat)
  | controlCharacter
deriving DecidableEq

structure ScopeId where
  value : String
  notBlank : isBlank value = false
  lengthLe : value.utf8ByteSize ≤ maxScopeIdLen
  noControl : value.toList.any isControl = false
deriving DecidableEq

def ScopeId.new (value : String) : Except ScopeError ScopeId :=
  if h₁ : isBlank value = true then .error .empty
  else if h₂ : value.utf8ByteSize > maxScopeIdLen then .error (.tooLong maxScopeIdLen)
  else if h₃ : value.toList.any isControl = true then .error .controlCharacter
  else .ok ⟨value, by simpa using h₁, by omega, by simpa using h₃⟩

def scopedKey (scopeId : ScopeId) (value : String) : String :=
  s!"scope:{scopeId.value.utf8ByteSize}:{scopeId.value}:{value}"

def unscopedKey (scopeId : ScopeId) (value : String) : Option String :=
  stripPrefix s!"scope:{scopeId.value.utf8ByteSize}:{scopeId.value}:" value

def inScope (scopeId : ScopeId) (key : String) : Bool := (unscopedKey scopeId key).isSome

lemma scopedKey_eq (scopeId : ScopeId) (value : String) :
    scopedKey scopeId value = "scope:" ++ (netstring scopeId.value ++ value) := by
  rw [← String.toList_inj]
  simp [scopedKey, netstring, toString]

lemma unscopedKey_eq (scopeId : ScopeId) (value : String) :
    unscopedKey scopeId value = stripPrefix ("scope:" ++ netstring scopeId.value) value := by
  unfold unscopedKey
  congr 1

theorem unscopedKey_eq_some {scopeId : ScopeId} {key value : String} :
    unscopedKey scopeId key = some value ↔ key = scopedKey scopeId value := by
  rw [unscopedKey_eq, scopedKey_eq, stripPrefix_eq_some, String.append_assoc]

@[simp] theorem unscopedKey_scopedKey (scopeId : ScopeId) (value : String) :
    unscopedKey scopeId (scopedKey scopeId value) = some value :=
  (unscopedKey_eq_some).mpr rfl

@[simp] theorem inScope_scopedKey (scopeId : ScopeId) (value : String) :
    inScope scopeId (scopedKey scopeId value) = true := by
  rw [inScope, unscopedKey_scopedKey, Option.isSome_some]

theorem inScope_iff {scopeId : ScopeId} {key : String} :
    inScope scopeId key = true ↔ ∃ value, key = scopedKey scopeId value := by
  simp only [inScope, Option.isSome_iff_exists, unscopedKey_eq_some]

theorem inScope_unique {a b : ScopeId} {key : String} (ha : inScope a key = true)
    (hb : inScope b key = true) : a = b := by
  obtain ⟨x, hx⟩ := (inScope_iff).mp ha
  obtain ⟨y, hy⟩ := (inScope_iff).mp hb
  have h : scopedKey a x = scopedKey b y := hx.symm.trans hy
  rw [scopedKey_eq, scopedKey_eq] at h
  have hv := (netstring_append_inj (append_inj_of_size rfl h).2).1
  cases a
  cases b
  cases hv
  rfl

theorem inScope_of_ne {a b : ScopeId} {key : String} (h : a ≠ b) (ha : inScope a key = true) :
    inScope b key = false :=
  Bool.eq_false_iff.mpr (fun hb => h (inScope_unique ha hb))

end Awaken.Contract.Scope
