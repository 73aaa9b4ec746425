/-!
# The written form of patterns

A pattern as it is written, before modes such as the case-insensitive one are applied to it.
-/
namespace FeatureFlags.Pattern

/-- A character of a pattern. -/
structure Literal where
  char : Char
  /-- Written as two hexadecimal digits, so that it stands for a byte where characters are bytes. -/
  byte : Bool
  deriving DecidableEq, Repr, Inhabited

/-- What can be switched within a pattern. -/
inductive Mode where
  | ignoreCase
  | multiLine
  | dotMatchesNewline
  | swapGreed
  | unicode
  | crlf
  | verbose
  deriving DecidableEq, Repr

/-- A switch: a mode, on or off. -/
structure Switch where
  mode : Mode
  on : Bool
  deriving DecidableEq, Repr

/-- Whether the last of the switches on a mode turns it on. -/
def lastSwitch (switches : List Switch) (mode : Mode) : Option Bool :=
  ((switches.reverse).find? fun s => s.mode == mode).map (·.on)

/-- A condition on a place in the text. -/
inductive Assertion where
  | startLine
  | endLine
  | startText
  | endText
  | wordBoundary
  | notWordBoundary
  | wordStart
  | wordEnd
  | wordStartHalf
  | wordEndHalf
  deriving DecidableEq, Repr

/-- The classes written as a backslash and one letter. -/
inductive LetterClass where
  | digit
  | space
  | word
  deriving DecidableEq, Repr

/-- The classes written between `[:` and `:]`. -/
inductive AsciiClass where
  | alnum
  | alpha
  | ascii
  | blank
  | cntrl
  | digit
  | graph
  | lower
  | print
  | punct
  | space
  | upper
  | word
  | xdigit
  deriving DecidableEq, Repr

/-- How a class of characters is named by a property. -/
inductive PropertyName where
  | plain (name : String)
  | valued (property value : String)
  deriving DecidableEq, Repr

/-- A class with a name. -/
inductive NamedClass where
  | letter (kind : LetterClass) (negated : Bool)
  | ascii (kind : AsciiClass) (negated : Bool)
  | property (name : PropertyName) (negated : Bool)
  deriving DecidableEq, Repr

/-- The operators between sets of characters. -/
inductive SetOperator where
  | inter
  | diff
  | symmDiff
  deriving DecidableEq, Repr

/-- What stands between square brackets. -/
inductive SetExpr where
  | literal (l : Literal)
  | range (first last : Literal)
  | named (c : NamedClass)
  | bracketed (negated : Bool) (inner : SetExpr)
  | union (items : List SetExpr)
  | operation (op : SetOperator) (left right : SetExpr)
  deriving Repr, Inhabited

/-- A pattern as written. -/
inductive Ast where
  | empty
  | switches (s : List Switch)
  | literal (l : Literal)
  | dot
  | assertion (a : Assertion)
  | named (c : NamedClass)
  | bracketed (negated : Bool) (inner : SetExpr)
  | repetition (min : Nat) (max : Option Nat) (inner : Ast)
  /-- A group: one that captures, or one that may switch modes. -/
  | group (captures : Bool) (s : List Switch) (inner : Ast)
  | alternation (branches : List Ast)
  | concat (items : List Ast)
  deriving Repr, Inhabited

/-! ## Nesting -/

mutual

/-- How deep sets are nested. -/
def SetExpr.depth : SetExpr → Nat
  | .bracketed _ inner => inner.depth + 1
  | .union items => if items.length < 2 then depths items else depths items + 1
  | .operation _ left right => max left.depth right.depth + 1
  | _ => 0

def SetExpr.depths : List SetExpr → Nat
  | [] => 0
  | item :: rest => max item.depth (SetExpr.depths rest)

end

mutual

/-- How deep the parts of a pattern are nested. -/
def Ast.depth : Ast → Nat
  | .bracketed _ inner => inner.depth + 1
  | .repetition _ _ inner => inner.depth + 1
  | .group _ _ inner => inner.depth + 1
  | .alternation branches => depths branches + 1
  | .concat items => depths items + 1
  | _ => 0

def Ast.depths : List Ast → Nat
  | [] => 0
  | a :: rest => max a.depth (Ast.depths rest)

end

end FeatureFlags.Pattern
