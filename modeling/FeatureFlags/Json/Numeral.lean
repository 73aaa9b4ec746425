import FeatureFlags.Json.Basic
import FeatureFlags.Number.Integer

/-!
# Numerals of JSON

A numeral is a run of digits without a leading zero, with an optional fraction and exponent. Its
value is an integer when it has neither and fits 64 bits; every other numeral, and `-0`, is a
binary64 number. That number is the integer of as many leading digits as fit 64 bits, rounded, and
then multiplied or divided by the rounded power of ten, rounding again. A result beyond the binary64
range is no value.
-/
namespace FeatureFlags.Json

open Integer (isDigit digitValue digitsValue)

/-- The parts of a numeral as written, digits only. -/
structure Numeral where
  negative : Bool
  whole : List Char
  fraction : List Char
  /-- Sign and digits of the exponent, when there is one. -/
  exponent : Option (Bool × List Char)
  deriving DecidableEq, Repr

/-- The whole digits of a numeral: a zero, or digits that do not begin with one. -/
def takeWhole : List Char → Option (List Char × List Char)
  | '0' :: '0' :: _ => none
  | cs =>
    match cs.takeWhile isDigit with
    | [] => none
    | '0' :: _ :: _ => none
    | ds => some (ds, cs.dropWhile isDigit)

/-- A point and at least one digit, or nothing. -/
def takeFraction : List Char → Option (List Char × List Char)
  | '.' :: cs =>
    match cs.takeWhile isDigit with
    | [] => none
    | ds => some (ds, cs.dropWhile isDigit)
  | cs => some ([], cs)

/-- An `e`, an optional sign and at least one digit, or nothing. -/
def takeExponent : List Char → Option (Option (Bool × List Char) × List Char)
  | c :: cs =>
    if c = 'e' ∨ c = 'E' then
      let (negative, cs) : Bool × List Char := match cs with
        | '-' :: cs => (true, cs)
        | '+' :: cs => (false, cs)
        | cs => (false, cs)
      match cs.takeWhile isDigit with
      | [] => none
      | ds => some (some (negative, ds), cs.dropWhile isDigit)
    else some (none, c :: cs)
  | [] => some (none, [])

def takeSign : List Char → Bool × List Char
  | '-' :: cs => (true, cs)
  | cs => (false, cs)

/-- The numeral that the text begins with, and the text after it. -/
def takeNumeral (cs : List Char) : Option (Numeral × List Char) := do
  let (negative, cs) := takeSign cs
  let (whole, cs) ← takeWhole cs
  let (fraction, cs) ← takeFraction cs
  let (exponent, cs) ← takeExponent cs
  return (⟨negative, whole, fraction, exponent⟩, cs)

/-- Reads digits on top of `value` while the result fits 64 bits; gives the digits left over. -/
def takeFitting (value : Nat) : List Char → Nat × List Char
  | [] => (value, [])
  | c :: cs =>
    let next := value * 10 + digitValue c
    if next < UInt64.size then takeFitting next cs else (value, c :: cs)

/-- Divides by `10 ^ 308`, up to `times` times, until zero is reached. -/
def shrink : (times : Nat) → Binary64 → Binary64
  | 0, x => x
  | times + 1, x => if x.isZero then x else shrink times (x.div (.powerOfTen 308))

/-- The number `significand * 10 ^ exponent`, rounding after each step. -/
def realOfParts (significand : Nat) (exponent : Int) : Option Binary64 :=
  let x := Binary64.ofNat significand
  if 0 ≤ exponent then
    if 308 < exponent then if significand = 0 then some x else none
    else
      let y := x.mul (.powerOfTen exponent.toNat)
      if y.isInfinite then none else some y
  else
    let places := (-exponent).toNat
    if places ≤ 308 then some (x.div (.powerOfTen places))
    else
      let times := (places - 1) / 308
      let y := shrink times x
      some (if y.isZero then y else y.div (.powerOfTen (places - times * 308)))

/-- The value of a numeral, if it has one. -/
def Numeral.value? (n : Numeral) : Option Number :=
  let (significand, dropped) := takeFitting 0 n.whole
  let sign (x : Binary64) := if n.negative then x.neg else x
  match n.fraction, n.exponent, dropped with
  | [], none, [] =>
    if n.negative then
      if significand = 0 ∨ 1 <<< 63 < significand then
        some (.real (sign (.ofNat significand)))
      else some (.integer (-significand))
    else some (.integer significand)
  | fraction, exponent, dropped =>
    let (significand, left) := takeFitting significand fraction
    let shift : Int := match exponent with
      | none => 0
      | some (true, ds) => -(digitsValue 0 ds : Int)
      | some (false, ds) => digitsValue 0 ds
    let places : Int := dropped.length - (fraction.length - left.length : Int) + shift
    (realOfParts significand places).map fun x => .real (sign x)

/-! ## What is left is shorter -/

theorem takeWhole_length {cs ds rest : List Char} (h : takeWhole cs = some (ds, rest)) :
    rest.length < cs.length := by
  unfold takeWhole at h
  split at h
  · simp at h
  · split at h
    · simp at h
    · simp at h
    · next hne _ =>
      simp only [Option.some.injEq, Prod.mk.injEq] at h
      have hsum := congrArg List.length (List.takeWhile_append_dropWhile (p := isDigit) (l := cs))
      rw [List.length_append, h.1, h.2] at hsum
      have : ds.length ≠ 0 := fun h0 => hne (h.1.trans (List.length_eq_zero_iff.1 h0))
      omega

theorem takeFraction_length {cs ds rest : List Char} (h : takeFraction cs = some (ds, rest)) :
    rest.length ≤ cs.length := by
  unfold takeFraction at h
  split at h
  · next cs =>
    split at h
    · simp at h
    · simp only [Option.some.injEq, Prod.mk.injEq] at h
      have := (List.dropWhile_sublist (l := cs) isDigit).length_le
      rw [h.2] at this
      simp only [List.length_cons]; omega
  · simp only [Option.some.injEq, Prod.mk.injEq] at h
    simp [h.2]

theorem takeExponent_length {cs rest : List Char} {e : Option (Bool × List Char)}
    (h : takeExponent cs = some (e, rest)) : rest.length ≤ cs.length := by
  unfold takeExponent at h
  split at h
  · next c cs =>
    split at h
    · have hd : ∀ l : List Char, (l.dropWhile isDigit).length ≤ l.length := fun l =>
        (List.dropWhile_sublist (l := l) isDigit).length_le
      split at h
      next x negative ds hx =>
      have hds : ds.length ≤ cs.length := by
        split at hx <;> simp only [Prod.mk.injEq] at hx <;> simp [← hx.2]
      split at h
      · simp at h
      · simp only [Option.some.injEq, Prod.mk.injEq] at h
        have := hd ds
        rw [h.2] at this
        simp only [List.length_cons]; omega
    · simp only [Option.some.injEq, Prod.mk.injEq] at h
      simp [← h.2]
  · simp only [Option.some.injEq, Prod.mk.injEq] at h
    simp [← h.2]

theorem takeNumeral_length {cs rest : List Char} {n : Numeral}
    (h : takeNumeral cs = some (n, rest)) : rest.length < cs.length := by
  have hs : (takeSign cs).2.length ≤ cs.length := by
    unfold takeSign; split <;> simp
  simp only [takeNumeral, Option.bind_eq_bind, Option.bind_eq_some_iff, Option.pure_def,
    Option.some.injEq, Prod.exists, Prod.mk.injEq] at h
  obtain ⟨_, _, hw, _, _, hf, _, _, he, _, rfl⟩ := h
  have h1 := takeWhole_length hw
  have h2 := takeFraction_length hf
  have h3 := takeExponent_length he
  omega

end FeatureFlags.Json
