import FeatureFlags.Pattern.SetParser
import FeatureFlags.Unicode.Category
import FeatureFlags.Unicode.Property

/-!
# Reading patterns

A pattern is read from left to right with a stack of the groups that are open. Inside each group the
items of the current branch and the branches before it are kept in reverse order.
-/
namespace FeatureFlags.Pattern

open Unicode

/-- How deep the parts of a pattern may be nested. -/
def maxDepth : Nat := 250

/-- The branches of a group or of the whole pattern that have been read so far. -/
structure Branches where
  done : List Ast
  items : List Ast

namespace Branches

def none : Branches := ⟨[], []⟩

def add (b : Branches) (item : Ast) : Branches := { b with items := item :: b.items }

/-- The current branch; a single item stands for itself. -/
def current (b : Branches) : Ast :=
  match b.items with
  | [] => .empty
  | [item] => item
  | items => .concat items.reverse

def bar (b : Branches) : Branches := ⟨b.current :: b.done, []⟩

/-- All the branches; a single one stands for itself. -/
def close (b : Branches) : Ast :=
  if b.done.isEmpty then b.current else .alternation (b.current :: b.done).reverse

end Branches

/-- A group that is open. -/
structure OpenGroup where
  captures : Bool
  switches : List Switch
  /-- Whether the text after the group is read in verbose mode. -/
  verboseAfter : Bool
  /-- The branches that the group is an item of. -/
  outer : Branches

/-- Where reading a pattern has come to. -/
structure Reading where
  stack : List OpenGroup
  branches : Branches
  verbose : Bool
  /-- The names of groups so far. -/
  names : List (List Char)
  rest : List Char

def alphabetic : CodeSet := (property? "alphabetic").getD default

def numeric : CodeSet := categoriesSet ["nd", "nl", "no"]

/-- Whether a character may stand in the name of a group, or begin it. -/
def isNameChar (first : Bool) (c : Char) : Bool :=
  c == '_' || alphabetic.contains c.toNat ||
    (!first && (c == '.' || c == '[' || c == ']' || numeric.contains c.toNat))

/-- The name of a group up to the closing angle bracket. -/
def takeGroupName (cs : List Char) : Option (List Char × List Char) :=
  match cs.takeWhile (· != '>'), cs.dropWhile (· != '>') with
  | c :: name, '>' :: rest =>
    if isNameChar true c && name.all (isNameChar false) then some (c :: name, rest) else none
  | _, _ => none

/-- What an opening parenthesis begins: a group, or switches for the rest of the group it stands
in. -/
def Reading.openGroup (r : Reading) (cs : List Char) : Option Reading :=
  let group (captures : Bool) (switches : List Switch) (names : List (List Char))
    (rest : List Char) : Reading :=
    { stack := ⟨captures, switches, r.verbose, r.branches⟩ :: r.stack
      branches := .none
      verbose := (lastSwitch switches .verbose).getD r.verbose
      names, rest }
  let named (cs : List Char) : Option Reading :=
    match takeGroupName cs with
    | some (name, rest) =>
      if r.names.contains name then none else some (group true [] (name :: r.names) rest)
    | none => none
  match skipSpace r.verbose cs with
  | '?' :: '=' :: _ => none
  | '?' :: '!' :: _ => none
  | '?' :: '<' :: '=' :: _ => none
  | '?' :: '<' :: '!' :: _ => none
  | '?' :: 'P' :: '<' :: cs => named cs
  | '?' :: '<' :: cs => named cs
  | '?' :: cs =>
    match takeSwitches true [] cs with
    | some (switches, ':' :: rest) => some (group false switches r.names rest)
    | some (switches, ')' :: rest) =>
      if switches.isEmpty then none
      else some { r with
        branches := r.branches.add (.switches switches)
        verbose := (lastSwitch switches .verbose).getD r.verbose
        rest }
    | _ => none
  | cs => some (group true [] r.names cs)

/-- Closes the innermost group. -/
def Reading.closeGroup (r : Reading) (cs : List Char) : Option Reading :=
  match r.stack with
  | [] => none
  | g :: stack =>
    some { r with
      stack
      branches := g.outer.add (.group g.captures g.switches r.branches.close)
      verbose := g.verboseAfter
      rest := cs }

/-- Passes over the sign that makes a repetition lazy, which does not change whether a text
matches. -/
def dropLazy : List Char → List Char
  | '?' :: cs => cs
  | cs => cs

/-- Repeats the last item; there has to be one, and switches cannot be repeated. -/
def Reading.repeatLast (r : Reading) (min : Nat) (max : Option Nat) (rest : List Char) :
    Option Reading :=
  match r.branches.items with
  | [] => none
  | .empty :: _ => none
  | .switches _ :: _ => none
  | item :: items =>
    some { r with branches := { r.branches with items := .repetition min max item :: items }, rest }

/-- Reads the next part of the pattern, of which `cs` is what is left. -/
def Reading.next (r : Reading) (cs : List Char) : Option Reading :=
  let item (a : Ast) (rest : List Char) : Option Reading :=
    some { r with branches := r.branches.add a, rest }
  match cs with
  | [] => none
  | '(' :: rest => r.openGroup rest
  | ')' :: rest => r.closeGroup rest
  | '|' :: rest => some { r with branches := r.branches.bar, rest }
  | '[' :: _ =>
    match takeSet r.verbose cs with
    | some (.bracketed negated inner, rest) => item (.bracketed negated inner) rest
    | _ => none
  | '?' :: rest => r.repeatLast 0 (some 1) (dropLazy rest)
  | '*' :: rest => r.repeatLast 0 none (dropLazy rest)
  | '+' :: rest => r.repeatLast 1 none (dropLazy rest)
  | '\x7b' :: rest =>
    match takeBounds r.verbose rest with
    | some (min, max, rest) => r.repeatLast min max (dropLazy (skipSpace r.verbose rest))
    | none => none
  | '\\' :: rest =>
    match takeEscape r.verbose rest with
    | some (.literal l, rest) => item (.literal l) rest
    | some (.assertion a, rest) => item (.assertion a) rest
    | some (.named c, rest) => item (.named c) rest
    | none => none
  | '.' :: rest => item .dot rest
  | '^' :: rest => item (.assertion .startLine) rest
  | '$' :: rest => item (.assertion .endLine) rest
  | c :: rest => item (.literal ⟨c, false⟩) rest

/-- Reads the parts of a pattern one after the other, at most `room` of them. -/
def Reading.run : (room : Nat) → Reading → Option Ast
  | 0, _ => none
  | room + 1, r =>
    match skipSpace r.verbose r.rest with
    | [] => if r.stack.isEmpty then some r.branches.close else none
    | cs =>
      match r.next cs with
      | some r => run room r
      | none => none

/-- The pattern that a text is, unless it is malformed or nested too deep. -/
def parse? (pattern : String) : Option Ast :=
  let cs := pattern.toList
  match Reading.run (cs.length + 1) ⟨[], .none, false, [], cs⟩ with
  | some ast => if ast.depth ≤ maxDepth then some ast else none
  | none => none

end FeatureFlags.Pattern
