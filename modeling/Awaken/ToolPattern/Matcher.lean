import Mathlib.Data.Prod.Lex
import Awaken.Lib.Utf8
import Awaken.ToolPattern.Types

namespace Awaken.ToolPattern

inductive Json (N : Type) where
  | null
  | bool (b : Bool)
  | number (n : N)
  | string (text : List Char)
  | array (items : List (Json N))
  | object (fields : List (List Char × Json N))

structure MatchLib (R N : Type) where
  regex : RegexLib R
  isMatch : R → List Char → Bool
  globMatch : List Char → List Char → Bool
  numberText : N → List Char
  jsonText : Json N → List Char

structure Specificity where
  toolKind : Nat
  hasArgs : Bool
  fieldCount : Nat
  fieldPrecision : Nat
deriving DecidableEq

def Specificity.rank (self : Specificity) : ℕ ×ₗ Bool ×ₗ ℕ ×ₗ ℕ :=
  toLex (self.toolKind, toLex (self.hasArgs, toLex (self.fieldCount, self.fieldPrecision)))

section Glob

def starByte : UInt8 := 42

def slashByte : UInt8 := 47

def normalizeFrom : List UInt8 → List UInt8 → List Char
  | _, [] => []
  | before, byte :: bytes =>
    let kept := normalizeFrom (byte :: before) bytes
    if byte = starByte then
      if before.head? = some starByte ∨ bytes.head? = some starByte then '*' :: kept
      else if before.take 3 = [slashByte, starByte, starByte] ∨
          bytes.take 3 = [slashByte, starByte, starByte] then '*' :: kept
      else '*' :: '*' :: kept
    else Char.ofNat byte.toNat :: kept

def normalizeWildcards (pattern : List Char) : List Char := normalizeFrom [] (Lib.utf8Bytes pattern)

variable {R N : Type} (lib : MatchLib R N)

def wildcardMatch (pattern value : List Char) : Bool :=
  lib.globMatch (normalizeWildcards pattern) value

end Glob

section Arguments

variable {R N : Type} (lib : MatchLib R N)

def resolvePath : Json N → List PathSegment → List (Json N)
  | value, [] => [value]
  | value, .field name :: path =>
    match value with
    | .object fields =>
      match fields.find? (fun entry => entry.1 = name) with
      | some entry => resolvePath entry.2 path
      | none => []
    | _ => []
  | value, .index i :: path =>
    match value with
    | .array items =>
      match items[i]? with
      | some item => resolvePath item path
      | none => []
    | _ => []
  | value, .anyIndex :: path =>
    match value with
    | .array items => items.flatMap (fun item => resolvePath item path)
    | _ => []
  | value, .wildcard :: path =>
    match value with
    | .object fields => fields.flatMap (fun entry => resolvePath entry.2 path)
    | _ => []

def valueToString : Json N → List Char
  | .string text => text
  | .null => []
  | .bool true => "true".toList
  | .bool false => "false".toList
  | .number n => lib.numberText n
  | other => lib.jsonText other

def inferPrimaryValue : Json N → List Char
  | .object [entry] => valueToString lib entry.2
  | args => valueToString lib args

def evaluateOp (op : MatchOp) (pattern value : List Char) : Bool :=
  match op with
  | .glob => wildcardMatch lib pattern value
  | .exact => pattern = value
  | .regex =>
    match lib.regex.new pattern with
    | .ok re => lib.isMatch re value
    | .error _ => false
  | .notGlob => !wildcardMatch lib pattern value
  | .notExact => pattern ≠ value
  | .notRegex =>
    match lib.regex.new pattern with
    | .ok re => !lib.isMatch re value
    | .error _ => true

def evaluateFieldCondition (condition : FieldCondition) (args : Json N) : Bool :=
  (resolvePath args condition.path).any (fun value =>
    evaluateOp lib condition.op condition.value (valueToString lib value))

end Arguments

def opPrecision : MatchOp → Nat
  | .exact | .notExact => 3
  | .glob | .notGlob => 2
  | .regex | .notRegex => 1

section Match

variable {R N : Type} (lib : MatchLib R N)

/-- How precisely the name of the tool is given, when it matches. -/
def matchTool (tool : ToolMatcher R) (toolId : List Char) : Option Nat :=
  match tool with
  | .exact name => if name = toolId then some 3 else none
  | .glob pattern => if wildcardMatch lib pattern toolId then some 2 else none
  | .regex re => if lib.isMatch re toolId then some 1 else none

def matchArgs (args : ArgMatcher) (toolKind : Nat) (toolArgs : Json N) : Option Specificity :=
  match args with
  | .any => some ⟨toolKind, false, 0, 0⟩
  | .primary op value =>
    if evaluateOp lib op value (inferPrimaryValue lib toolArgs) then
      some ⟨toolKind, true, 1, opPrecision op⟩
    else none
  | .fields conditions =>
    if conditions.all (fun condition => evaluateFieldCondition lib condition toolArgs) then
      some ⟨toolKind, true, min conditions.length 255,
        conditions.foldl (fun sum condition => min (sum + opPrecision condition.op) 255) 0⟩
    else none

def patternMatches (pattern : ToolCallPattern R) (toolId : List Char) (toolArgs : Json N) :
    Option Specificity :=
  (matchTool lib pattern.tool toolId).bind (fun toolKind => matchArgs lib pattern.args toolKind toolArgs)

end Match

end Awaken.ToolPattern
