import FeatureFlags.Pattern.Meaning

/-!
# The size of patterns

A pattern is refused when the automaton for it would take more than ten megabytes. The automaton
reads UTF-8, so a set of characters counts by the byte sequences that make it up, sequences with a
common start sharing it; a repetition with bounds counts as often as it is repeated.
-/
namespace FeatureFlags.Pattern

open Unicode

/-- The bytes that the automaton of a pattern may take. -/
def sizeLimit : Nat := 10 <<< 20

/-- The bytes of one state. -/
def stateSize : Nat := 32

/-- The bytes of one way on from a state that has several. -/
def branchSize : Nat := 4

/-- The bytes of a range of bytes that leads on from a state. -/
def arcSize : Nat := 8

/-- A range of bytes, and the ranges for the bytes of a character one after the other. -/
abbrev ByteRanges := List (Nat × Nat)

/-- The last code point that UTF-8 writes with as many bytes. -/
def lastOfLength : List Nat := [0x7f, 0x7ff, 0xffff]

/-- The UTF-8 bytes of a code point. -/
def utf8Bytes (c : Nat) : List Nat :=
  if c ≤ 0x7f then [c]
  else if c ≤ 0x7ff then [0xc0 + c / 64, 0x80 + c % 64]
  else if c ≤ 0xffff then [0xe0 + c / 4096, 0x80 + c / 64 % 64, 0x80 + c % 64]
  else [0xf0 + c / 262144, 0x80 + c / 4096 % 64, 0x80 + c / 64 % 64, 0x80 + c % 64]

/-- Where a range of code points has to be cut so that its bytes vary independently: behind the
first part, if it has to be cut at all. -/
def cut? (first last : Nat) : Option Nat :=
  match lastOfLength.find? fun m => first ≤ m && m < last with
  | some m => some m
  | none =>
    if last ≤ 0x7f then none
    else [64, 4096, 262144].findSome? fun block =>
      if first / block = last / block then none
      else if first % block ≠ 0 then some (first / block * block + block - 1)
      else if last % block ≠ block - 1 then some (last / block * block - 1)
      else none

/-- The byte sequences of a range of code points; it is cut at most `room` times in a row. -/
def byteRanges : (room : Nat) → (first last : Nat) → List ByteRanges
  | 0, _, _ => []
  | room + 1, first, last =>
    if last < first then []
    else if first < 0xe000 ∧ 0xd7ff < last then byteRanges room first 0xd7ff ++
      byteRanges room 0xe000 last
    else
      match cut? first last with
      | some m => byteRanges room first m ++ byteRanges room (m + 1) last
      | none => [(utf8Bytes first).zip (utf8Bytes last)]

/-- The number of entries that two lists have in common at their start. -/
def commonStart : ByteRanges → ByteRanges → Nat
  | a :: as, b :: bs => if a = b then commonStart as bs + 1 else 0
  | _, _ => 0

/-- The states for byte sequences, `before` being the one in front of the first. -/
def sequenceStates (before : ByteRanges) : List ByteRanges → Nat
  | [] => 0
  | s :: rest => s.length - commonStart before s + sequenceStates s rest

/-- The size of a set of characters. -/
def setSize (s : CodeSet) : Nat :=
  match s.ranges with
  | [] => stateSize
  | [⟨first, last⟩] =>
    if first = last then (utf8Bytes first).length * stateSize else general
  | _ => general
where
  general : Nat :=
    if isAsciiSet s then 2 * stateSize + s.ranges.length * arcSize
    else
      let sequences := s.ranges.flatMap fun r => byteRanges 32 r.first r.last
      (2 + sequenceStates [] sequences) * stateSize + sequences.length * branchSize

mutual

/-- Whether the expression may match an empty text. -/
def Regex.nullable : Regex → Bool
  | .empty => true
  | .chars _ => false
  | .look _ => true
  | .concat items => Regex.allNullable items
  | .alternation branches => Regex.anyNullable branches
  | .repetition min _ inner => min == 0 || inner.nullable
  | .capture inner => inner.nullable

def Regex.allNullable : List Regex → Bool
  | [] => true
  | r :: rest => r.nullable && Regex.allNullable rest

def Regex.anyNullable : List Regex → Bool
  | [] => false
  | r :: rest => r.nullable || Regex.anyNullable rest

end

/-- The size of a choice between two ways on. -/
def choiceSize : Nat := stateSize + 2 * branchSize

mutual

/-- The size of the automaton of an expression. -/
def Regex.size : Regex → Nat
  | .empty => stateSize
  | .chars set => setSize set
  | .look _ => stateSize
  | .concat items => Regex.sizes items
  | .alternation branches => 2 * stateSize + branches.length * branchSize + Regex.sizes branches
  | .repetition min none inner =>
    if min = 0 ∧ inner.nullable then 2 * choiceSize + stateSize + inner.size
    else choiceSize + Nat.max min 1 * inner.size
  | .repetition min (some max) inner =>
    if min = max then min * inner.size
    else stateSize + min * inner.size + (max - min) * (choiceSize + inner.size)
  | .capture inner => 2 * stateSize + inner.size

def Regex.sizes : List Regex → Nat
  | [] => 0
  | r :: rest => r.size + Regex.sizes rest

end

end FeatureFlags.Pattern
