import FeatureFlags.Number.Binary64
import FeatureFlags.Number.Integer

/-!
# Reading decimal numbers

A decimal text is an optional sign followed by digits with at most one point (at least one digit in
all) and an optional exponent, or by `inf`, `infinity` or `nan` in any letter case. Its value is the
binary64 number nearest to the decimal one.
-/
namespace FeatureFlags.Binary64

/-- Why a text is not a decimal number. -/
inductive Fault where
  | empty
  | invalid
  deriving DecidableEq, Repr

def Fault.message : Fault → String
  | .empty => "cannot parse float from empty string"
  | .invalid => "invalid float literal"

/-- The number nearest to `digits * 10 ^ exponent`; far exponents are settled without the power. -/
def ofDecimal (negative : Bool) (digits : Nat) (exponent : Int) : Binary64 :=
  let size : Int := (Nat.toDigits 10 digits).length
  if digits = 0 then zero negative
  else if 310 < size + exponent then infinity negative
  else if size + exponent < -330 then zero negative
  else ofRatio negative (digits * Nat.pow 10 exponent.toNat) (Nat.pow 10 (-exponent).toNat)

open Integer (isDigit digitValue digitsValue)

/-- The exponent that a text ends in: none at all, or `e`, an optional sign and digits. -/
def exponent? : List Char → Option Int
  | [] => some 0
  | c :: cs =>
    if c = 'e' ∨ c = 'E' then
      let (negative, ds) : Bool × List Char := match cs with
        | '-' :: ds => (true, ds)
        | '+' :: ds => (false, ds)
        | ds => (false, ds)
      if ds.isEmpty || !ds.all isDigit then none
      else
        let n : Int := digitsValue 0 ds
        some (if negative then -n else n)
    else none

/-- Digits with an optional point and exponent. -/
def readFinite (negative : Bool) (cs : List Char) : Option Binary64 :=
  let whole := cs.takeWhile isDigit
  let (fraction, rest) := match cs.dropWhile isDigit with
    | '.' :: cs => (cs.takeWhile isDigit, cs.dropWhile isDigit)
    | cs => ([], cs)
  if whole.isEmpty && fraction.isEmpty then none
  else (exponent? rest).map fun e =>
    ofDecimal negative (digitsValue 0 (whole ++ fraction)) (e - fraction.length)

/-- The words for values that are not finite. -/
def readWord (negative : Bool) (cs : List Char) : Option Binary64 :=
  let word := cs.map Char.toLower
  if word = "inf".toList ∨ word = "infinity".toList then some (infinity negative)
  else if word = "nan".toList then some nan
  else none

/-- Reads a decimal number from the whole text. -/
def read (text : String) : Except Fault Binary64 :=
  let unsigned (negative : Bool) (cs : List Char) : Except Fault Binary64 :=
    match (readFinite negative cs).or (readWord negative cs) with
    | some x => .ok x
    | none => .error .invalid
  match text.toList with
  | [] => .error .empty
  | '-' :: cs => unsigned true cs
  | '+' :: cs => unsigned false cs
  | cs => unsigned false cs

end FeatureFlags.Binary64
