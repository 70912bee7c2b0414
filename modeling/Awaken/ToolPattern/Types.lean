/-! Patterns of tool calls and how they are printed. A text is the list of its characters. -/

namespace Awaken.ToolPattern

inductive PathSegment where
  | field (name : List Char)
  | index (i : Nat)
  | anyIndex
  | wildcard
deriving DecidableEq

def PathSegment.display : PathSegment → List Char
  | .field name => name
  | .index i => '[' :: (Nat.toDigits 10 i ++ [']'])
  | .anyIndex => ['[', '*', ']']
  | .wildcard => ['*']

inductive MatchOp where
  | glob
  | exact
  | regex
  | notGlob
  | notExact
  | notRegex
deriving DecidableEq

def MatchOp.display : MatchOp → List Char
  | .glob => ['~']
  | .exact => ['=']
  | .regex => ['=', '~']
  | .notGlob => ['!', '~']
  | .notExact => ['!', '=']
  | .notRegex => ['!', '=', '~']

structure FieldCondition where
  path : List PathSegment
  op : MatchOp
  value : List Char
deriving DecidableEq

def displayTail : List PathSegment → List Char
  | [] => []
  | .index i :: path => (PathSegment.index i).display ++ displayTail path
  | .anyIndex :: path => PathSegment.anyIndex.display ++ displayTail path
  | segment :: path => '.' :: (segment.display ++ displayTail path)

def displayPath : List PathSegment → List Char
  | [] => []
  | segment :: path => segment.display ++ displayTail path

def FieldCondition.display (self : FieldCondition) : List Char :=
  displayPath self.path ++ ' ' :: (self.op.display ++ ' ' :: '"' :: (self.value ++ ['"']))

def displayConditions : List FieldCondition → List Char
  | [] => []
  | [condition] => condition.display
  | condition :: conditions => condition.display ++ ',' :: ' ' :: displayConditions conditions

structure RegexLib (R : Type) where
  new : List Char → Except String R
  asStr : R → List Char
  asStr_new : ∀ text re, new text = .ok re → asStr re = text

inductive ToolMatcher (R : Type) where
  | exact (name : List Char)
  | glob (name : List Char)
  | regex (re : R)
deriving DecidableEq

inductive ArgMatcher where
  | any
  | primary (op : MatchOp) (value : List Char)
  | fields (conditions : List FieldCondition)
deriving DecidableEq

structure ToolCallPattern (R : Type) where
  tool : ToolMatcher R
  args : ArgMatcher
deriving DecidableEq

variable {R : Type}

def ToolMatcher.display (lib : RegexLib R) : ToolMatcher R → List Char
  | .exact name => name
  | .glob name => name
  | .regex re => '/' :: (lib.asStr re ++ ['/'])

def ArgMatcher.display : ArgMatcher → List Char
  | .any => ['*']
  | .primary .glob value => value
  | .primary op value => op.display ++ ' ' :: '"' :: (value ++ ['"'])
  | .fields conditions => displayConditions conditions

def ToolCallPattern.display (lib : RegexLib R) (self : ToolCallPattern R) : List Char :=
  match self.args with
  | .any => self.tool.display lib
  | args => self.tool.display lib ++ '(' :: (args.display ++ [')'])

end Awaken.ToolPattern
