import FeatureFlags.Unicode.Category
import FeatureFlags.Unicode.CodeSet
import FeatureFlags.Unicode.Property

/-!
# Regular expressions and the texts that they match

A text of `n` characters has the places 0 to `n`. A set of places is a natural number whose bit `i`
says whether place `i` is in it. `Course.ends` maps the places where a match may begin to those
where it may end, so an expression matches within a text when the places reached from all places are
not empty.
-/
namespace FeatureFlags.Pattern

open Unicode

/-- A condition on a place in a text. -/
inductive Look where
  | textStart
  | textEnd
  | lineStart
  | lineEnd
  | crlfStart
  | crlfEnd
  | wordBoundary (unicode : Bool)
  | notWordBoundary (unicode : Bool)
  | wordStart (unicode : Bool)
  | wordEnd (unicode : Bool)
  | wordStartHalf (unicode : Bool)
  | wordEndHalf (unicode : Bool)
  deriving DecidableEq, Repr

/-- A regular expression. -/
inductive Regex where
  | empty
  /-- One character of a set. -/
  | chars (set : CodeSet)
  | look (l : Look)
  | concat (items : List Regex)
  | alternation (branches : List Regex)
  /-- From `min` to `max` times in a row. -/
  | repetition (min : Nat) (max : Option Nat) (inner : Regex)
  | capture (inner : Regex)
  deriving Repr, Inhabited

/-- The characters that words are made of. -/
def wordSet : CodeSet :=
  .ofRanges <| (categoriesSet ["mn", "mc", "me", "nd", "pc"]).ranges ++
    ((property? "alphabetic").getD default).ranges ++
      ((property? "joincontrol").getD default).ranges

def asciiWordSet : CodeSet := .ofRanges [⟨0x30, 0x39⟩, ⟨0x41, 0x5a⟩, ⟨0x5f, 0x5f⟩, ⟨0x61, 0x7a⟩]

/-- Whether the character, if there is one, belongs to a word. -/
def isWord (unicode : Bool) (c : Option Char) : Bool :=
  match c with
  | some c => (if unicode then wordSet else asciiWordSet).contains c.toNat
  | none => false

/-- Whether a condition holds between the characters `before` and `after`, which end or begin the
text when they are missing. -/
def Look.holds (before after : Option Char) : Look → Bool
  | textStart => before.isNone
  | textEnd => after.isNone
  | lineStart => before.all (· == '\n')
  | lineEnd => after.all (· == '\n')
  | crlfStart => before.all fun c => c == '\n' || (c == '\r' && after != some '\n')
  | crlfEnd => after.all fun c => c == '\r' || (c == '\n' && before != some '\r')
  | wordBoundary u => isWord u before != isWord u after
  | notWordBoundary u => isWord u before == isWord u after
  | wordStart u => !isWord u before && isWord u after
  | wordEnd u => isWord u before && !isWord u after
  | wordStartHalf u => !isWord u before
  | wordEndHalf u => !isWord u after

/-! ## Sets of places -/

/-- The places, from `place` on, whose next character passes the test. -/
def placesBefore (test : Char → Bool) (place : Nat) : List Char → Nat
  | [] => 0
  | c :: cs => (if test c then 1 <<< place else 0) ||| placesBefore test (place + 1) cs

/-- The places, from `place` on, where the condition holds; `before` is the character in front. -/
def placesWhere (l : Look) (before : Option Char) (place : Nat) : List Char → Nat
  | [] => if l.holds before none then 1 <<< place else 0
  | c :: cs =>
    (if l.holds before (some c) then 1 <<< place else 0) ||| placesWhere l (some c) (place + 1) cs

/-- A regular expression laid over a text: sets of characters and conditions have become sets of
places. -/
inductive Course where
  | empty
  /-- One character on from any of the places. -/
  | advance (starts : Nat)
  /-- Only at the places. -/
  | remain (allowed : Nat)
  | concat (items : List Course)
  | alternation (branches : List Course)
  | repetition (min : Nat) (max : Option Nat) (inner : Course)
  deriving Repr, Inhabited

mutual

/-- The expression over a text. -/
def Regex.over (text : List Char) : Regex → Course
  | .empty => .empty
  | .chars set => .advance (placesBefore (fun c => set.contains c.toNat) 0 text)
  | .look l => .remain (placesWhere l none 0 text)
  | .concat items => .concat (Regex.overAll text items)
  | .alternation branches => .alternation (Regex.overAll text branches)
  | .repetition min max inner => .repetition min max (inner.over text)
  | .capture inner => inner.over text

def Regex.overAll (text : List Char) : List Regex → List Course
  | [] => []
  | r :: rest => r.over text :: Regex.overAll text rest

end

/-- Takes `count` steps, and none that would change nothing. -/
def iterate (step : Nat → Nat) : (count : Nat) → Nat → Nat
  | 0, places => places
  | count + 1, places =>
    let next := step places
    if next = places then places else iterate step count next

/-- The places within at most `count` steps. -/
def within (step : Nat → Nat) : (count : Nat) → Nat → Nat
  | 0, places => places
  | count + 1, places =>
    let next := places ||| step places
    if next = places then places else within step count next

mutual

/-- The places where a match may end that begins at one of the places, in a text of this length. -/
def Course.ends (length : Nat) : Course → Nat → Nat
  | .empty, places => places
  | .advance starts, places => (places &&& starts) <<< 1
  | .remain allowed, places => places &&& allowed
  | .concat items, places => Course.endsAll length items places
  | .alternation branches, places => Course.endsAny length branches places
  | .repetition min max inner, places =>
    let count := match max with
      | some max => max - min
      | none => length + 1
    within (inner.ends length) count (iterate (inner.ends length) min places)

/-- The items one after the other. -/
def Course.endsAll (length : Nat) : List Course → Nat → Nat
  | [], places => places
  | c :: rest, places => Course.endsAll length rest (c.ends length places)

/-- Any of the branches. -/
def Course.endsAny (length : Nat) : List Course → Nat → Nat
  | [], _ => 0
  | c :: rest, places => c.ends length places ||| Course.endsAny length rest places

end

/-- Whether the expression matches somewhere in the text. -/
def Regex.matchesIn (r : Regex) (text : String) : Bool :=
  let cs := text.toList
  (r.over cs).ends cs.length (1 <<< (cs.length + 1) - 1) != 0

end FeatureFlags.Pattern
