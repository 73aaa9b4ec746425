import FeatureFlags.Number.Binary64

/-!
# Shortest decimal digits of a number

A finite number owns the reals that round to it: from half a unit below its mantissa to half a unit
above it (a quarter below at a power of two), the ends included when the mantissa is even.
`shortest` takes the fewest decimal digits that name a real of this interval and, among those, the
nearest.
-/
namespace FeatureFlags.Binary64

/-- A positive decimal number: `digits * 10 ^ exponent`. -/
structure Decimal where
  digits : Nat
  exponent : Int
  deriving DecidableEq, Repr

/-- Compares `a * 10 ^ k` with `b * 2 ^ e`. -/
def compareScaled (a : Nat) (k : Int) (b : Nat) (e : Int) : Ordering :=
  compare ((a * Nat.pow 10 k.toNat) <<< (-e).toNat) ((b * Nat.pow 10 (-k).toNat) <<< e.toNat)

/-- Whether `t * 10 ^ k` rounds to `m * 2 ^ e`. -/
def owns (m : Nat) (e : Int) (t : Nat) (k : Int) : Bool :=
  let below := if m = 1 <<< 52 ∧ minExponent < e then 1 else 2
  let low := compareScaled t k (4 * m - below) (e - 2)
  let high := compareScaled t k (4 * m + 2) (e - 2)
  if m % 2 = 0 then low != .lt && high != .gt else low == .gt && high == .lt

/-- The greatest `t` with `t * 10 ^ k ≤ m * 2 ^ e`. -/
def floorAt (m : Nat) (e k : Int) : Nat :=
  ((m * Nat.pow 10 (-k).toNat) <<< e.toNat) / (Nat.pow 10 k.toNat <<< (-e).toNat)

/-- The power of ten just above `m * 2 ^ e`: the number lies below `10 ^ p` and not below its
tenth. -/
def magnitude (m : Nat) (e : Int) : Int :=
  ((Nat.toDigits 10 (floorAt m e (-330))).length : Int) - 330

/-- The neighbour of `m * 2 ^ e` on the grid of multiples of `10 ^ k` that rounds back to it. -/
def onGrid (m : Nat) (e k : Int) : Option Nat :=
  let low := floorAt m e k
  match owns m e low k, owns m e (low + 1) k with
  | true, true =>
    match compareScaled (2 * low + 1) k (2 * m) e with
    | .lt => some (low + 1)
    | .gt => some low
    | .eq => some (if low % 2 = 0 then low else low + 1)
  | true, false => some low
  | false, true => some (low + 1)
  | false, false => none

/-- Removes trailing zeros from the digits. -/
def Decimal.trim (digits : Nat) (exponent : Int) : (room : Nat) → Decimal
  | 0 => ⟨digits, exponent⟩
  | room + 1 =>
    if digits % 10 = 0 then trim (digits / 10) (exponent + 1) room else ⟨digits, exponent⟩

/-- The shortest decimal that rounds to `m * 2 ^ e`, for a positive mantissa. -/
def shortest (m : Nat) (e : Int) : Decimal :=
  let p := magnitude m e
  let found := (List.range 17).findSome? fun (i : Nat) =>
    let k := p - ((i : Int) + 1)
    (onGrid m e k).map fun t => Decimal.trim t k 18
  found.getD ⟨m, 0⟩

/-- Digits with the decimal point in its place and no exponent; no point for a whole number. -/
def Decimal.positional (d : Decimal) : String :=
  let ds := Nat.toDigits 10 d.digits
  if 0 ≤ d.exponent then
    String.ofList (ds ++ List.replicate d.exponent.toNat '0')
  else
    let places := (-d.exponent).toNat
    if places < ds.length then
      String.ofList (ds.take (ds.length - places) ++ '.' :: ds.drop (ds.length - places))
    else
      String.ofList ('0' :: '.' :: List.replicate (places - ds.length) '0' ++ ds)

def signText (negative : Bool) : String := if negative then "-" else ""

/-- The shortest digits, written without an exponent and, for a whole number, without a point. -/
def toText : Binary64 → String
  | nan => "NaN"
  | infinity s => signText s ++ "inf"
  | finite s 0 _ => signText s ++ "0"
  | finite s m e => signText s ++ (shortest m e).positional

/-- Like `toText`, but a whole number ends in `.0`. -/
def toPointedText (x : Binary64) : String :=
  match x with
  | finite .. => let text := x.toText; if text.toList.contains '.' then text else text ++ ".0"
  | _ => x.toText

end FeatureFlags.Binary64
