/-!
# Binary64 numbers

A finite number is a sign, a mantissa below 2^53 and a power of two from 2^-1074 up; the mantissa is
at least 2^52 unless the power is the least one. `ofRatio` rounds a quotient of natural numbers to
the nearest such number, halves to the even mantissa, and every operation here is exact arithmetic
followed by that one rounding.

**Results.**
* `roundQuotient_of_dvd`: an exact quotient is not changed by rounding.
-/
namespace FeatureFlags

/-- A binary64 value. Zero has mantissa 0 and exponent -1074. -/
inductive Binary64 where
  | nan
  | infinity (negative : Bool)
  | finite (negative : Bool) (mantissa : Nat) (exponent : Int)
  deriving DecidableEq, Repr, Inhabited

namespace Binary64

/-- The least exponent of a finite number. -/
def minExponent : Int := -1074

/-- The greatest exponent of a finite number. -/
def maxExponent : Int := 971

/-- The quotient `num / den` to the nearest natural number, a half going to the even one. -/
def roundQuotient (num den : Nat) : Nat :=
  let quotient := num / den
  let rest := num % den
  if 2 * rest < den then quotient
  else if den < 2 * rest then quotient + 1
  else if quotient % 2 = 0 then quotient else quotient + 1

theorem roundQuotient_of_dvd {num den : Nat} (hpos : 0 < den) (h : den ∣ num) :
    roundQuotient num den = num / den := by
  have hr : num % den = 0 := Nat.mod_eq_zero_of_dvd h
  simp [roundQuotient, hr, hpos]

/-- Numerator and denominator of `num / den / 2 ^ exponent`. -/
def scaled (num den : Nat) (exponent : Int) : Nat × Nat :=
  (num <<< (-exponent).toNat, den <<< exponent.toNat)

/-- The number with this rounded mantissa, which may have reached 2^53. -/
def pack (negative : Bool) (mantissa : Nat) (exponent : Int) : Binary64 :=
  let (m, e) := if mantissa = 1 <<< 53 then (1 <<< 52, exponent + 1) else (mantissa, exponent)
  if maxExponent < e then infinity negative else finite negative m e

def zero (negative : Bool) : Binary64 := finite negative 0 minExponent

/-- The exponent at which `num / den` has a mantissa of 53 bits, or the least exponent. -/
def exponentOf (num den : Nat) : Int :=
  let guess : Int := (num.log2 : Int) - den.log2 - 53
  let (n, d) := scaled num den guess
  max minExponent (if 1 <<< 53 ≤ n / d then guess + 1 else guess)

/-- The number nearest to `num / den`. -/
def ofRatio (negative : Bool) (num den : Nat) : Binary64 :=
  if num = 0 then zero negative
  else if den = 0 then infinity negative
  else
    let exponent := exponentOf num den
    let (n, d) := scaled num den exponent
    pack negative (roundQuotient n d) exponent

/-- The number nearest to a natural number. -/
def ofNat (n : Nat) : Binary64 := ofRatio false n 1

/-- The number nearest to an integer. -/
def ofInt (i : Int) : Binary64 := ofRatio (i < 0) i.natAbs 1

/-- The number nearest to a power of ten. -/
def powerOfTen (k : Nat) : Binary64 := ofNat (Nat.pow 10 k)

def neg : Binary64 → Binary64
  | nan => nan
  | infinity s => infinity !s
  | finite s m e => finite (!s) m e

def isInfinite : Binary64 → Bool
  | infinity _ => true
  | _ => false

def isZero : Binary64 → Bool
  | finite _ 0 _ => true
  | _ => false

/-- The product, rounded once. -/
def mul : Binary64 → Binary64 → Binary64
  | finite s m e, finite t n f =>
    ofRatio (s != t) ((m * n) <<< (e + f).toNat) (1 <<< (-(e + f)).toNat)
  | infinity s, finite t (_ + 1) _ => infinity (s != t)
  | finite s (_ + 1) _, infinity t => infinity (s != t)
  | infinity s, infinity t => infinity (s != t)
  | _, _ => nan

/-- The quotient, rounded once. -/
def div : Binary64 → Binary64 → Binary64
  | finite _ 0 _, finite _ 0 _ => nan
  | finite s m e, finite t n f =>
    ofRatio (s != t) (m <<< (e - f).toNat) (n <<< (f - e).toNat)
  | infinity s, finite t _ _ => infinity (s != t)
  | finite s _ _, infinity t => zero (s != t)
  | _, _ => nan

/-- The 64 bits of the number: sign, biased exponent, fraction; one pattern stands for every nan. -/
def toBits : Binary64 → Nat
  | nan => 0x7ff8000000000000
  | infinity s => s.toNat <<< 63 + 0x7ff0000000000000
  | finite s m e =>
    s.toNat <<< 63 +
      (if m < 1 <<< 52 then m else (e - minExponent + 1).toNat <<< 52 + (m - 1 <<< 52))

end Binary64
end FeatureFlags
