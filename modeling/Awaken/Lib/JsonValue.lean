import Awaken.Lib.Utf8
import Mathlib.Tactic.Lemma

namespace Awaken.Lib

variable {N : Type}

inductive Value (N : Type) where
  | null
  | bool (b : Bool)
  | number (n : N)
  | string (s : String)
  | array (items : List (Value N))
  | object (map : List (String × Value N))

namespace Value

inductive Keyed : Value N → Prop
  | null : Keyed .null
  | bool (b : Bool) : Keyed (.bool b)
  | number (n : N) : Keyed (.number n)
  | string (s : String) : Keyed (.string s)
  | array {items : List (Value N)} (h : ∀ v ∈ items, Keyed v) : Keyed (.array items)
  | object {map : List (String × Value N)} (hkeys : (map.map Prod.fst).Nodup)
      (h : ∀ key v, (key, v) ∈ map → Keyed v) : Keyed (.object map)

inductive Same : Value N → Value N → Prop
  | null : Same .null .null
  | bool (b : Bool) : Same (.bool b) (.bool b)
  | number (n : N) : Same (.number n) (.number n)
  | string (s : String) : Same (.string s) (.string s)
  | array {items items' : List (Value N)} (h : List.Forall₂ Same items items') :
      Same (.array items) (.array items')
  | object {map map' : List (String × Value N)}
      (hkeys : ∀ key, key ∈ map.map Prod.fst ↔ key ∈ map'.map Prod.fst)
      (h : ∀ key v w, (key, v) ∈ map → (key, w) ∈ map' → Same v w) :
      Same (.object map) (.object map')

def get (key : String) : Value N → Option (Value N)
  | .object map => map.lookup key
  | _ => none

def asStr : Value N → Option String
  | .string s => some s
  | _ => none

def asNumber : Value N → Option N
  | .number n => some n
  | _ => none

@[elab_as_elim]
theorem induct {P : Value N → Prop} (hnull : P .null) (hbool : ∀ b, P (.bool b))
    (hnumber : ∀ n, P (.number n)) (hstring : ∀ s, P (.string s))
    (harray : ∀ items, (∀ v ∈ items, P v) → P (.array items))
    (hobject : ∀ map, (∀ key v, (key, v) ∈ map → P v) → P (.object map)) : ∀ v, P v := by
  refine @Value.rec N P (fun items => ∀ v ∈ items, P v)
    (fun map => ∀ key v, (key, v) ∈ map → P v) (fun entry => P entry.2) hnull hbool hnumber hstring harray hobject ?_ ?_ ?_ ?_ ?_
  · exact fun v hv => nomatch hv
  · intro v items hv hitems w hw
    rcases List.mem_cons.mp hw with rfl | hw
    · exact hv
    · exact hitems w hw
  · exact fun key v hv => nomatch hv
  · intro entry map hentry hmap key v hv
    rcases List.mem_cons.mp hv with rfl | hv
    · exact hentry
    · exact hmap key v hv
  · exact fun key v hv => hv

end Value

structure KeyedValue (N : Type) where
  value : Value N
  keyed : value.Keyed

def ascii (text : String) : List UInt8 := text.toList.map Char.toUInt8

structure Printer (N : Type) where
  string : String → List UInt8
  number : N → List UInt8
  nonFinite : N → Option String
  ofU32 : UInt32 → N

def isNumberByte (b : UInt8) : Bool := b ∈ ascii "0123456789+-.eE"

structure Printer.Faithful (printer : Printer N) : Prop where
  quoted : ∀ s, ∃ rest, printer.string s = '"'.toUInt8 :: rest
  apart : ∀ {s t x y}, printer.string s ++ x = printer.string t ++ y → s = t
  numeral : ∀ n, printer.number n ≠ [] ∧ ∀ b ∈ printer.number n, isNumberByte b
  number_injective : Function.Injective printer.number
  ofU32_injective : Function.Injective printer.ofU32
  finite : ∀ n, printer.nonFinite n = none

end Awaken.Lib
