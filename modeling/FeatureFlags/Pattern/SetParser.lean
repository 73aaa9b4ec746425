import FeatureFlags.Pattern.Lexeme

/-!
# Reading sets of characters

What stands between square brackets is read by a machine with a stack of the brackets and the set
operators that still wait for their end. Operators bind alike and to the left.
-/
namespace FeatureFlags.Pattern

/-- A bracket that is open, with the items before it, or an operator with its left side. -/
inductive SetFrame where
  | bracket (negated : Bool) (before : List SetExpr)
  | operation (op : SetOperator) (left : SetExpr)

/-- The union of items in reverse order; a single item stands for itself. -/
def unionOf : List SetExpr → SetExpr
  | [item] => item
  | items => .union items.reverse

/-- Completes the operator that waits for its right side, if one does. -/
def closeOperation (right : SetExpr) : List SetFrame → SetExpr × List SetFrame
  | .operation op left :: stack => (.operation op left right, stack)
  | stack => (right, stack)

def asciiClasses : List (String × AsciiClass) :=
  [("alnum", .alnum), ("alpha", .alpha), ("ascii", .ascii), ("blank", .blank), ("cntrl", .cntrl),
    ("digit", .digit), ("graph", .graph), ("lower", .lower), ("print", .print), ("punct", .punct),
    ("space", .space), ("upper", .upper), ("word", .word), ("xdigit", .xdigit)]

/-- A class such as `[:alpha:]`, after its bracket; nothing when this is no such class. -/
def takeAscii (cs : List Char) : Option (NamedClass × List Char) :=
  match cs with
  | ':' :: cs =>
    let (negated, cs) : Bool × List Char := match cs with
      | '^' :: cs => (true, cs)
      | cs => (false, cs)
    match cs.dropWhile (· != ':') with
    | ':' :: ']' :: rest =>
      (asciiClasses.lookup (String.ofList (cs.takeWhile (· != ':')))).map fun k =>
        (.ascii k negated, rest)
    | _ => none
  | _ => none

/-- Literal minus signs at the start of a bracket. -/
def takeMinuses (verbose : Bool) : (room : Nat) → List Char → List SetExpr × List Char
  | room + 1, '-' :: cs =>
    let (items, rest) := takeMinuses verbose room (skipSpace verbose cs)
    (.literal ⟨'-', false⟩ :: items, rest)
  | _, cs => ([], cs)

/-- The start of a bracket after `[`: whether it is negated, and the items that may only stand
first. -/
def takeBracket (verbose : Bool) (cs : List Char) : Bool × List SetExpr × List Char :=
  let cs := skipSpace verbose cs
  let (negated, cs) : Bool × List Char := match cs with
    | '^' :: cs => (true, skipSpace verbose cs)
    | cs => (false, cs)
  match takeMinuses verbose cs.length cs with
  | ([], ']' :: cs) => (negated, [.literal ⟨']', false⟩], skipSpace verbose cs)
  | (items, cs) => (negated, items, cs)

/-- One character or class of a set. -/
def takeSetItem (verbose : Bool) : List Char → Option (SetExpr × List Char)
  | [] => none
  | '\\' :: cs =>
    match takeEscape verbose cs with
    | some (.literal l, rest) => some (.literal l, rest)
    | some (.named c, rest) => some (.named c, rest)
    | _ => none
  | c :: cs => some (.literal ⟨c, false⟩, cs)

/-- The character after the first one, passing over blanks and the start of a comment. -/
def peekSpaced (verbose : Bool) (cs : List Char) : Option Char :=
  if verbose then
    match cs.dropWhile Text.isBlank with
    | '#' :: rest => (rest.dropWhile Text.isBlank).head?
    | rest => rest.head?
  else cs.head?

/-- An item of a set, or a range of characters. -/
def takeSetRange (verbose : Bool) (cs : List Char) : Option (SetExpr × List Char) := do
  let (first, cs) ← takeSetItem verbose cs
  match skipSpace verbose cs with
  | [] => none
  | '-' :: after =>
    let next := peekSpaced verbose after
    if next = some ']' ∨ next = some '-' then some (first, '-' :: after)
    else
      let (last, rest) ← takeSetItem verbose (skipSpace verbose after)
      match first, last with
      | .literal a, .literal b => if a.char ≤ b.char then some (.range a b, rest) else none
      | _, _ => none
  | cs => some (first, cs)

/-- Reads on inside brackets; `items` are those of the innermost one so far, in reverse order. -/
def readSet (verbose : Bool) : (room : Nat) → List SetFrame → List SetExpr → List Char →
    Option (SetExpr × List Char)
  | 0, _, _, _ => none
  | room + 1, stack, items, cs =>
    let operation (op : SetOperator) (rest : List Char) :=
      let (left, stack) := closeOperation (unionOf items) stack
      readSet verbose room (.operation op left :: stack) [] rest
    let bracket (cs : List Char) :=
      let (negated, first, rest) := takeBracket verbose cs
      if rest.isEmpty then none
      else readSet verbose room (.bracket negated items :: stack) first.reverse rest
    match skipSpace verbose cs with
    | [] => none
    | '[' :: cs =>
      if stack.isEmpty then bracket cs
      else match takeAscii cs with
        | some (c, rest) => readSet verbose room stack (.named c :: items) rest
        | none => bracket cs
    | ']' :: cs =>
      let (inner, stack) := closeOperation (unionOf items) stack
      match stack with
      | .bracket negated before :: stack =>
        if stack.isEmpty then some (.bracketed negated inner, cs)
        else readSet verbose room stack (.bracketed negated inner :: before) cs
      | _ => none
    | '&' :: '&' :: cs => operation .inter cs
    | '-' :: '-' :: cs => operation .diff cs
    | '~' :: '~' :: cs => operation .symmDiff cs
    | cs =>
      match takeSetRange verbose cs with
      | none => none
      | some (item, rest) => readSet verbose room stack (item :: items) rest

/-- The set in brackets that the text begins with. -/
def takeSet (verbose : Bool) (cs : List Char) : Option (SetExpr × List Char) :=
  readSet verbose (cs.length + 1) [] [] cs

end FeatureFlags.Pattern
