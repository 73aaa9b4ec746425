import FeatureFlags.Pattern.Ast
import FeatureFlags.Pattern.Property
import FeatureFlags.Pattern.Regex
import FeatureFlags.Text.Blank
import FeatureFlags.Unicode.CaseFold

/-!
# What patterns mean

The modes in force where a part of a pattern stands decide what it matches. A switch holds up to the
end of the group that it stands in. Where the Unicode mode is off, classes are sets of bytes, and
one with a byte above 127 has no meaning, because texts are made of characters.
-/
namespace FeatureFlags.Pattern

open Unicode

/-- The modes that decide about meaning. -/
structure Modes where
  ignoreCase : Bool
  multiLine : Bool
  dotMatchesNewline : Bool
  unicode : Bool
  crlf : Bool
  deriving DecidableEq, Repr

/-- The modes at the start of a pattern. -/
def Modes.initial : Modes := ⟨false, false, false, true, false⟩

def Modes.apply (m : Modes) (switches : List Switch) : Modes where
  ignoreCase := (lastSwitch switches .ignoreCase).getD m.ignoreCase
  multiLine := (lastSwitch switches .multiLine).getD m.multiLine
  dotMatchesNewline := (lastSwitch switches .dotMatchesNewline).getD m.dotMatchesNewline
  unicode := (lastSwitch switches .unicode).getD m.unicode
  crlf := (lastSwitch switches .crlf).getD m.crlf

def letters (ranges : List (Char × Char)) : CodeSet :=
  .ofRanges (ranges.map fun r => ⟨r.1.toNat, r.2.toNat⟩)

def AsciiClass.set : AsciiClass → CodeSet
  | .alnum => letters [('0', '9'), ('A', 'Z'), ('a', 'z')]
  | .alpha => letters [('A', 'Z'), ('a', 'z')]
  | .ascii => .range 0 0x7f
  | .blank => letters [('\t', '\t'), (' ', ' ')]
  | .cntrl => .ofRanges [⟨0, 0x1f⟩, ⟨0x7f, 0x7f⟩]
  | .digit => letters [('0', '9')]
  | .graph => letters [('!', '~')]
  | .lower => letters [('a', 'z')]
  | .print => letters [(' ', '~')]
  | .punct => letters [('!', '/'), (':', '@'), ('[', '\x60'), ('\x7b', '~')]
  | .space => letters [('\t', '\r'), (' ', ' ')]
  | .upper => letters [('A', 'Z')]
  | .word => asciiWordSet
  | .xdigit => letters [('0', '9'), ('A', 'F'), ('a', 'f')]

def digitSet : CodeSet := categorySet "nd"

def spaceSet : CodeSet := (property? "whitespace").getD default

def LetterClass.set (unicode : Bool) : LetterClass → CodeSet
  | .digit => if unicode then digitSet else AsciiClass.digit.set
  | .space => if unicode then spaceSet else AsciiClass.space.set
  | .word => if unicode then wordSet else asciiWordSet

/-- The set with the other case of its ASCII letters. -/
def foldAscii (s : CodeSet) : CodeSet :=
  let shifted (by' : Int) (low high : Nat) :=
    (CodeSet.clip ⟨low, high⟩ s).map fun r =>
      (⟨(r.first + by').toNat, (r.last + by').toNat⟩ : CodeRange)
  .ofRanges (s.ranges ++ shifted (-32) 0x61 0x7a ++ shifted 32 0x41 0x5a)

def Modes.fold (m : Modes) (s : CodeSet) : CodeSet :=
  if !m.ignoreCase then s else if m.unicode then s.foldCase else foldAscii s

def isAsciiSet (s : CodeSet) : Bool := s.ranges.all (·.last ≤ 0x7f)

/-- A set, or its complement; no set of bytes may go beyond ASCII. -/
def Modes.negate (m : Modes) (negated : Bool) (s : CodeSet) : Option CodeSet :=
  if m.unicode then some (if negated then s.complement maxCodePoint else s)
  else
    let s := if negated then s.complement 0xff else s
    if isAsciiSet s then some s else none

def NamedClass.set? (m : Modes) : NamedClass → Option CodeSet
  | .letter kind negated => m.negate negated (kind.set m.unicode)
  | .ascii kind negated => m.negate negated (m.fold kind.set)
  | .property name negated =>
    if m.unicode then name.set?.bind fun s => m.negate negated (m.fold s) else none

/-- The code point of a character in a set; where characters are bytes, an ASCII one or a written
byte. -/
def Modes.code? (m : Modes) (l : Literal) : Option Nat :=
  if m.unicode || l.byte || l.char.toNat ≤ 0x7f then some l.char.toNat else none

mutual

/-- The characters of a set. -/
def SetExpr.set? (m : Modes) : SetExpr → Option CodeSet
  | .literal l => (m.code? l).map CodeSet.single
  | .range first last => do
    let a ← m.code? first
    let b ← m.code? last
    return CodeSet.range a b
  | .named c => c.set? m
  | .bracketed negated inner => (SetExpr.set? m inner).bind fun s => m.negate negated (m.fold s)
  | .union items => (SetExpr.sets? m items).map CodeSet.ofRanges
  | .operation op left right => do
    let a ← SetExpr.set? m left
    let b ← SetExpr.set? m right
    let a := m.fold a
    let b := m.fold b
    return match op with
      | .inter => a.inter b
      | .diff => a.diff b
      | .symmDiff => a.symmDiff b

/-- The ranges of several sets. -/
def SetExpr.sets? (m : Modes) : List SetExpr → Option (List CodeRange)
  | [] => some []
  | item :: rest => do
    let s ← SetExpr.set? m item
    let ranges ← SetExpr.sets? m rest
    return s.ranges ++ ranges

end

/-- The character itself or, where case is ignored, every character that differs in case only. -/
def Modes.literal? (m : Modes) (l : Literal) : Option Regex :=
  if !m.unicode && l.byte && 0x7f < l.char.toNat then none
  else some (.chars (m.fold (.single l.char.toNat)))

/-- Every character or, without the mode for it, every one that does not end a line. -/
def Modes.dot? (m : Modes) : Option Regex :=
  if !m.unicode then none
  else if m.dotMatchesNewline then some (.chars (.range 0 maxCodePoint))
  else
    let ends := if m.crlf then letters [('\n', '\n'), ('\r', '\r')] else letters [('\n', '\n')]
    some (.chars (ends.complement maxCodePoint))

def Modes.look (m : Modes) : Assertion → Look
  | .startLine => if !m.multiLine then .textStart else if m.crlf then .crlfStart else .lineStart
  | .endLine => if !m.multiLine then .textEnd else if m.crlf then .crlfEnd else .lineEnd
  | .startText => .textStart
  | .endText => .textEnd
  | .wordBoundary => .wordBoundary m.unicode
  | .notWordBoundary => .notWordBoundary m.unicode
  | .wordStart => .wordStart m.unicode
  | .wordEnd => .wordEnd m.unicode
  | .wordStartHalf => .wordStartHalf m.unicode
  | .wordEndHalf => .wordEndHalf m.unicode

mutual

/-- Whether the expression matches empty texts only. -/
def Regex.onlyEmpty : Regex → Bool
  | .empty => true
  | .chars _ => false
  | .look _ => true
  | .concat items => Regex.allOnlyEmpty items
  | .alternation branches => Regex.allOnlyEmpty branches
  | .repetition _ max inner => max == some 0 || inner.onlyEmpty
  | .capture inner => inner.onlyEmpty

def Regex.allOnlyEmpty : List Regex → Bool
  | [] => true
  | r :: rest => r.onlyEmpty && Regex.allOnlyEmpty rest

end

/-- A repetition in its simplest form: what matches empty texts only needs no second time. -/
def Regex.repeated (min : Nat) (max : Option Nat) (r : Regex) : Regex :=
  let (min, max) :=
    if r.onlyEmpty then (Nat.min min 1, some (Nat.min (max.getD 1) 1)) else (min, max)
  if max = some 0 then .empty
  else if min = 1 ∧ max = some 1 then r
  else .repetition min max r

mutual

/-- The expression that a pattern means under the modes, and the modes after it. -/
def Ast.meaning? (m : Modes) : Ast → Option (Regex × Modes)
  | .empty => some (.empty, m)
  | .switches s => some (.empty, m.apply s)
  | .literal l => (m.literal? l).map (·, m)
  | .dot => m.dot?.map (·, m)
  | .assertion a => some (.look (m.look a), m)
  | .named c => (c.set? m).map fun s => (.chars s, m)
  | .bracketed negated inner =>
    ((inner.set? m).bind fun s => m.negate negated (m.fold s)).map fun s => (.chars s, m)
  | .repetition min max inner => do
    let (r, m) ← Ast.meaning? m inner
    return (r.repeated min max, m)
  | .group captures s inner => do
    let (r, _) ← Ast.meaning? (m.apply s) inner
    return (if captures then .capture r else r, m)
  | .alternation branches => do
    let (rs, m) ← Ast.meanings? m branches
    return (.alternation rs, m)
  | .concat items => do
    let (rs, m) ← Ast.meanings? m items
    return (.concat rs, m)

def Ast.meanings? (m : Modes) : List Ast → Option (List Regex × Modes)
  | [] => some ([], m)
  | a :: rest => do
    let (r, m) ← Ast.meaning? m a
    let (rs, m) ← Ast.meanings? m rest
    return (r :: rs, m)

end

end FeatureFlags.Pattern
