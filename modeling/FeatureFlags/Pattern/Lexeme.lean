import FeatureFlags.Pattern.Ast
import FeatureFlags.Text.Blank

/-!
# Single signs of patterns

Readers for the parts of a pattern that do not nest: escapes, names, numbers and switches. Each
takes the characters that are left and gives what it read with the characters after it, or nothing
when the pattern is malformed there. In verbose mode blanks and comments are passed over between the
characters of most signs.
-/
namespace FeatureFlags.Pattern

open Text (isBlank)

/-- Passes over blanks and comments, in verbose mode. -/
def skipSpace (verbose : Bool) (cs : List Char) : List Char :=
  if verbose then go false cs else cs
where
  go : (inComment : Bool) → List Char → List Char
    | _, [] => []
    | true, c :: cs => go (c != '\n') cs
    | false, c :: cs => if isBlank c then go false cs else if c = '#' then go true cs else c :: cs

/-- Takes characters that pass the test, skipping space after each; at most `room` of them. -/
def collect (verbose : Bool) (test : Char → Bool) : (room : Nat) → List Char → List Char × List Char
  | room + 1, c :: cs =>
    if test c then
      let (taken, rest) := collect verbose test room (skipSpace verbose cs)
      (c :: taken, rest)
    else ([], c :: cs)
  | _, cs => ([], cs)

def takeSpaced (verbose : Bool) (test : Char → Bool) (cs : List Char) : List Char × List Char :=
  collect verbose test cs.length cs

def isDigit (c : Char) : Bool := '0' ≤ c && c ≤ '9'

def isHex (c : Char) : Bool := isDigit c || ('a' ≤ c && c ≤ 'f') || ('A' ≤ c && c ≤ 'F')

def isLetter (c : Char) : Bool := ('a' ≤ c && c ≤ 'z') || ('A' ≤ c && c ≤ 'Z')

def hexDigit (c : Char) : Nat :=
  if isDigit c then c.toNat - '0'.toNat
  else if 'a' ≤ c then c.toNat - 'a'.toNat + 10 else c.toNat - 'A'.toNat + 10

/-- The character with this code point, if there is one. -/
def charOf? (n : Nat) : Option Char := if n.isValidChar then some (Char.ofNat n) else none

/-- The character that hexadecimal digits name. -/
def charOfHex? (digits : List Char) : Option Char :=
  charOf? (digits.foldl (fun n c => n * 16 + hexDigit c) 0)

/-- The number at the start of a count, below 2^32, with blanks around it. -/
def takeCount (verbose : Bool) (cs : List Char) : Option (Nat × List Char) :=
  let (digits, cs) := takeSpaced verbose isDigit (cs.dropWhile isBlank)
  let value := digits.foldl (fun n c => n * 10 + hexDigit c) 0
  if digits.isEmpty || UInt32.size ≤ value then none
  else some (value, (takeSpaced verbose isBlank cs).2)

/-- The bounds of a repetition, after its opening brace and up to the closing one. -/
def takeBounds (verbose : Bool) (cs : List Char) : Option (Nat × Option Nat × List Char) := do
  let (low, cs) ← takeCount verbose (← nonempty (skipSpace verbose cs))
  let (high, cs) ← match cs with
    | ',' :: cs =>
      match skipSpace verbose cs with
      | '\x7d' :: cs => pure (none, '\x7d' :: cs)
      | cs => (takeCount verbose (← nonempty cs)).map fun (n, cs) => (some n, cs)
    | cs => pure (some low, cs)
  match cs with
  | '\x7d' :: cs => if high.all (low ≤ ·) then some (low, high, cs) else none
  | _ => none
where
  nonempty : List Char → Option (List Char)
    | [] => none
    | cs => some cs

/-- Exactly `count` hexadecimal digits. -/
def takeHexDigits (verbose : Bool) : (count : Nat) → List Char → Option (List Char × List Char)
  | 0, cs => some ([], cs)
  | count + 1, c :: cs =>
    if isHex c then
      (takeHexDigits verbose count (skipSpace verbose cs)).map fun (ds, rest) => (c :: ds, rest)
    else none
  | _ + 1, [] => none

/-- The code point of an escape after its letter: a fixed number of digits, or digits in braces. -/
def takeHex (verbose : Bool) (count : Nat) (cs : List Char) : Option (Literal × List Char) :=
  match skipSpace verbose cs with
  | '\x7b' :: cs =>
    match takeSpaced verbose isHex (skipSpace verbose cs) with
    | ([], _) => none
    | (digits, '\x7d' :: rest) =>
      (charOfHex? digits).map fun c => (⟨c, false⟩, skipSpace verbose rest)
    | _ => none
  | cs => do
    let (digits, rest) ← takeHexDigits verbose count cs
    let c ← charOfHex? digits
    return (⟨c, count == 2⟩, rest)

/-- Cuts a text at the first occurrence of a sign. -/
def cutAt (sign : List Char) : List Char → Option (List Char × List Char)
  | [] => none
  | c :: cs =>
    if sign.isPrefixOf (c :: cs) then some ([], (c :: cs).drop sign.length)
    else (cutAt sign cs).map fun (before, after) => (c :: before, after)

/-- The class that a property names in braces. The signs between name and value all mean the same:
only the letter in front decides whether it is the complement, even where the sign says that they
differ. -/
def propertyClass (negated : Bool) (name : List Char) : NamedClass :=
  match (cutAt ['!', '='] name).or ((cutAt [':'] name).or (cutAt ['='] name)) with
  | some (p, v) => .property (.valued (.ofList p) (.ofList v)) negated
  | none => .property (.plain (.ofList name)) negated

/-- The class of a property, after the letter that announces it. -/
def takeProperty (verbose negated : Bool) (cs : List Char) : Option (NamedClass × List Char) :=
  match skipSpace verbose cs with
  | [] => none
  | '\x7b' :: cs =>
    match takeSpaced verbose (· != '\x7d') (skipSpace verbose cs) with
    | (name, '\x7d' :: rest) => some (propertyClass negated name, rest)
    | _ => none
  | '\\' :: _ => none
  | c :: cs => some (.property (.plain (.ofList [c])) negated, skipSpace verbose cs)

/-- What a word boundary in braces names; nothing to see here when no letter follows the brace. -/
def takeBoundary (verbose : Bool) (cs : List Char) : Option (Assertion × List Char) :=
  match cs with
  | '\x7b' :: inner =>
    match skipSpace verbose inner with
    | [] => none
    | c :: inner =>
      if isLetter c || c == '-' then
        match takeSpaced verbose (fun c => isLetter c || c == '-') (c :: inner) with
        | (name, '\x7d' :: rest) =>
          ([("start", .wordStart), ("end", .wordEnd), ("start-half", .wordStartHalf),
            ("end-half", .wordEndHalf)].lookup (String.ofList name)).map (·, rest)
        | _ => none
      else some (.wordBoundary, cs)
  | cs => some (.wordBoundary, cs)

/-- What an escape stands for. -/
inductive Escape where
  | literal (l : Literal)
  | assertion (a : Assertion)
  | named (c : NamedClass)

/-- Whether the character has a meaning of its own somewhere in a pattern. -/
def isMeta (c : Char) : Bool := "\\.+*?()|[]\x7b\x7d^$#&-~".toList.contains c

/-- Whether a backslash before the character makes it stand for itself. -/
def isEscapable (c : Char) : Bool :=
  isMeta c || (c.toNat < 128 && !isDigit c && !isLetter c && c != '<' && c != '>')

/-- The escape after a backslash. -/
def takeEscape (verbose : Bool) : List Char → Option (Escape × List Char)
  | [] => none
  | c :: cs =>
    let plain (x : Char) : Option (Escape × List Char) := some (.literal ⟨x, false⟩, cs)
    match c with
    | 'x' => (takeHex verbose 2 cs).map fun (l, rest) => (.literal l, rest)
    | 'u' => (takeHex verbose 4 cs).map fun (l, rest) => (.literal l, rest)
    | 'U' => (takeHex verbose 8 cs).map fun (l, rest) => (.literal l, rest)
    | 'p' => (takeProperty verbose false cs).map fun (n, rest) => (.named n, rest)
    | 'P' => (takeProperty verbose true cs).map fun (n, rest) => (.named n, rest)
    | 'd' => some (.named (.letter .digit false), cs)
    | 's' => some (.named (.letter .space false), cs)
    | 'w' => some (.named (.letter .word false), cs)
    | 'D' => some (.named (.letter .digit true), cs)
    | 'S' => some (.named (.letter .space true), cs)
    | 'W' => some (.named (.letter .word true), cs)
    | 'a' => plain '\x07'
    | 'f' => plain '\x0c'
    | 't' => plain '\t'
    | 'n' => plain '\n'
    | 'r' => plain '\r'
    | 'v' => plain '\x0b'
    | 'A' => some (.assertion .startText, cs)
    | 'z' => some (.assertion .endText, cs)
    | 'b' => (takeBoundary verbose cs).map fun (a, rest) => (.assertion a, rest)
    | 'B' => some (.assertion .notWordBoundary, cs)
    | '<' => some (.assertion .wordStart, cs)
    | '>' => some (.assertion .wordEnd, cs)
    | c => if isEscapable c then plain c else none

def modeOf? (c : Char) : Option Mode :=
  match c with
  | 'i' => some .ignoreCase
  | 'm' => some .multiLine
  | 's' => some .dotMatchesNewline
  | 'U' => some .swapGreed
  | 'u' => some .unicode
  | 'R' => some .crlf
  | 'x' => some .verbose
  | _ => none

/-- The switches up to a colon or a closing parenthesis, which is left in place. A mode may be named
once, and one minus sign may stand before the modes that are turned off. -/
def takeSwitches (on : Bool) (seen : List Mode) : List Char → Option (List Switch × List Char)
  | [] => none
  | '-' :: cs =>
    if !on then none
    else match cs with
      | ':' :: _ => none
      | ')' :: _ => none
      | cs => takeSwitches false seen cs
  | c :: cs =>
    if c = ':' ∨ c = ')' then some ([], c :: cs)
    else match modeOf? c with
      | none => none
      | some mode =>
        if seen.contains mode then none
        else (takeSwitches on (mode :: seen) cs).map fun (ss, rest) => (⟨mode, on⟩ :: ss, rest)

end FeatureFlags.Pattern
