import FeatureFlags.Number.Reading
import FeatureFlags.Proofs.TypedValues
import Mathlib.Algebra.Order.Field.Rat
import Mathlib.Data.Rat.Cast.Defs

/-!
# Integers read as numbers

The number accessor reads the flags that the integer accessor reads, and by another reader. Every
text that is read as an integer of 64 bits is read as a number too: the digits are all of the
number, and these are too few to be out of range. Up to 53 bits the number is the integer itself,
since its mantissa has room for it and nothing is rounded; and while an integer has one zero, the
number keeps the sign that the zero is written with.

**Results.**
* `exactly_ofRatio`: an integer up to `2 ^ 53` is rounded to itself.
* `read_of_spelled`: what number a spelled integer is read as.
* `number_agrees_with_int`: the accessors agree.
-/
namespace FeatureFlags

namespace Binary64

/-! ## Integers of 53 bits -/

/-- The mantissa and exponent of a finite number in its one form. -/
def Canonical (mantissa : Nat) (exponent : Int) : Prop :=
  mantissa < 1 <<< 53 ∧ minExponent ≤ exponent ∧ exponent ≤ maxExponent ∧
    (1 <<< 52 ≤ mantissa ∨ exponent = minExponent)

/-- The number has this sign and is the integer. -/
def Exactly (negative : Bool) (i : Int) : Binary64 → Prop
  | finite s m e => s = negative ∧ Canonical m e ∧ (if s then -1 else 1) * ((m : ℚ) * 2 ^ e) = i
  | _ => False

theorem exactly_zero (negative : Bool) : Exactly negative 0 (zero negative) :=
  ⟨rfl, ⟨by decide, by decide, by decide, .inr rfl⟩, by simp⟩

theorem log2_le {n : Nat} (hpos : 0 < n) (hn : n ≤ 1 <<< 53) : n.log2 ≤ 53 := by
  have hlow := Nat.log2_self_le hpos.ne'
  have hpow : 2 ^ n.log2 ≤ 2 ^ 53 := Nat.le_trans hlow hn
  exact (Nat.pow_le_pow_iff_right (by decide)).1 hpow

/-- Moved up to 53 bits, the integer is a mantissa; only `2 ^ 53` has to be moved down. -/
theorem exists_mantissa {n : Nat} (hpos : 0 < n) (hn : n ≤ 1 <<< 53) :
    ∃ m, n <<< (52 - n.log2) = m * 2 ^ (n.log2 - 52) ∧ 1 <<< 52 ≤ m ∧ m < 1 <<< 53 := by
  have hlow := Nat.log2_self_le hpos.ne'
  have hhigh := Nat.lt_log2_self (n := n)
  rcases Nat.lt_or_ge n.log2 53 with hlog | hlog
  · have hexact : n.log2 - 52 = 0 := by omega
    have hsplit : 2 ^ 52 = 2 ^ n.log2 * 2 ^ (52 - n.log2) := by rw [← Nat.pow_add]; congr 1; omega
    have hnext : 2 ^ 53 = 2 ^ (n.log2 + 1) * 2 ^ (52 - n.log2) := by
      rw [← Nat.pow_add]; congr 1; omega
    refine ⟨n <<< (52 - n.log2), by rw [hexact, Nat.pow_zero, Nat.mul_one], ?_, ?_⟩
    · rw [Nat.shiftLeft_eq, Nat.shiftLeft_eq, Nat.one_mul, hsplit]
      exact Nat.mul_le_mul_right _ hlow
    · rw [Nat.shiftLeft_eq, Nat.shiftLeft_eq, Nat.one_mul, hnext]
      exact Nat.mul_lt_mul_of_pos_right hhigh (Nat.two_pow_pos _)
  · -- no other integer up to the limit has 54 bits
    have hpow : 2 ^ 53 ≤ n := Nat.le_trans (Nat.pow_le_pow_right (by decide) hlog) hlow
    have hall : n = 1 <<< 53 := Nat.le_antisymm hn hpow
    subst hall
    exact ⟨1 <<< 52, by decide, by decide, by decide⟩

/-- At this exponent the mantissa has 53 bits. The guess is always one less, for it allows 54. -/
theorem exponentOf_one {n : Nat} (hpos : 0 < n) (hn : n ≤ 1 <<< 53) :
    exponentOf n 1 = n.log2 - 52 := by
  have hlog := log2_le hpos hn
  have hlow := Nat.log2_self_le hpos.ne'
  have hone : Nat.log2 1 = 0 := by decide
  have hdown : ((n.log2 : Int) - (0 : Nat) - 53).toNat = 0 := by omega
  have hup : (-((n.log2 : Int) - (0 : Nat) - 53)).toNat = 53 - n.log2 := by omega
  have hsplit : 2 ^ 53 = 2 ^ n.log2 * 2 ^ (53 - n.log2) := by rw [← Nat.pow_add]; congr 1; omega
  have hguess : 1 <<< 53 ≤ n <<< (53 - n.log2) / 1 := by
    rw [Nat.div_one, Nat.shiftLeft_eq, Nat.shiftLeft_eq, Nat.one_mul, hsplit]
    exact Nat.mul_le_mul_right _ hlow
  rw [exponentOf, hone]
  simp only [scaled, hdown, hup, Nat.shiftLeft_zero, if_pos hguess, minExponent]
  omega

theorem ofRatio_one {n : Nat} (hpos : 0 < n) (hn : n ≤ 1 <<< 53) (negative : Bool) :
    ∃ m : Nat, ofRatio negative n 1 = finite negative m (n.log2 - 52) ∧ 1 <<< 52 ≤ m ∧
      m < 1 <<< 53 ∧
      n * 2 ^ (52 - n.log2) = m * 2 ^ (n.log2 - 52) := by
  have hlog := log2_le hpos hn
  obtain ⟨m, hm, hlow, hhigh⟩ := exists_mantissa hpos hn
  have hup : (-((n.log2 : Int) - 52)).toNat = 52 - n.log2 := by omega
  have hdown : ((n.log2 : Int) - 52).toNat = n.log2 - 52 := by omega
  have hdvd : 2 ^ (n.log2 - 52) ∣ n <<< (52 - n.log2) := ⟨m, by rw [hm, Nat.mul_comm]⟩
  have hquotient : roundQuotient (n <<< (52 - n.log2)) (1 <<< (n.log2 - 52)) = m := by
    rw [Nat.shiftLeft_eq 1, Nat.one_mul, roundQuotient_of_dvd (Nat.two_pow_pos _) hdvd, hm,
      Nat.mul_div_cancel _ (Nat.two_pow_pos _)]
  refine ⟨m, ?_, hlow, hhigh, by rw [← Nat.shiftLeft_eq, hm]⟩
  rw [ofRatio, if_neg hpos.ne', if_neg Nat.one_ne_zero, exponentOf_one hpos hn]
  simp only [scaled, hup, hdown, hquotient, pack]
  rw [if_neg hhigh.ne, if_neg (by rw [maxExponent]; omega)]

theorem exactly_ofRatio {n : Nat} (hn : n ≤ 1 <<< 53) (negative : Bool) :
    Exactly negative (if negative then -n else n) (ofRatio negative n 1) := by
  rcases Nat.eq_zero_or_pos n with rfl | hpos
  · simpa [ofRatio] using exactly_zero negative
  · have hlog := log2_le hpos hn
    obtain ⟨m, hm, hlow, hhigh, hvalue⟩ := ofRatio_one hpos hn negative
    rw [hm]
    refine ⟨rfl, ⟨hhigh, ?_, ?_, .inl hlow⟩, ?_⟩
    · rw [minExponent]; omega
    · rw [maxExponent]; omega
    · -- of the two shifts at most one is not by zero, so the exponent is their difference
      have hexponent : (n.log2 : Int) - 52 = (n.log2 - 52 : Nat) - (52 - n.log2 : Nat) := by omega
      have hcast : (n : ℚ) * 2 ^ (52 - n.log2) = m * 2 ^ (n.log2 - 52) := by exact_mod_cast hvalue
      have hmagnitude : (m : ℚ) * 2 ^ ((n.log2 : Int) - 52) = n := by
        rw [hexponent, zpow_sub₀ two_ne_zero, zpow_natCast, zpow_natCast, ← mul_div_assoc, ← hcast,
          mul_div_cancel_right₀ _ (pow_ne_zero _ two_ne_zero)]
      rw [hmagnitude]
      cases negative <;> simp

/-! ## Texts -/

open Integer (Spelled digitsValue negative)
open Json (Digits)

theorem ofDecimal_natural {n : Nat} (hn : n ≤ 1 <<< 63) (negative : Bool) :
    ofDecimal negative n 0 = ofRatio negative n 1 := by
  have hsize : (Nat.toDigits 10 n).length ≤ 20 :=
    (Nat.length_toDigits_le_iff (by decide) (by decide)).2 (Nat.lt_of_le_of_lt hn (by decide))
  unfold ofDecimal
  split
  · next hzero => rw [hzero, ofRatio, if_pos rfl]
  · rw [if_neg (by omega), if_neg (by omega)]
    simp

theorem readFinite_digits {ds : List Char} {n : Nat} (h : Digits ds) (hvalue : digitsValue 0 ds = n)
    (hn : n ≤ 1 <<< 63) (negative : Bool) :
    readFinite negative ds = some (ofRatio negative n 1) := by
  obtain ⟨htake, hdrop⟩ := Json.span_digits_iff.2 ⟨(List.append_nil ds).symm, h.2, nofun⟩
  have hempty : ds.isEmpty = false := by
    cases ds with
    | nil => exact absurd rfl h.1
    | cons => rfl
  unfold readFinite
  rw [htake, hdrop]
  simp [hempty, exponent?, hvalue, ofDecimal_natural hn]

/-- A spelled integer is read as the number nearest to it, and a zero keeps its sign. -/
theorem read_of_spelled {text : String} {i : Int} (h : Spelled text.toList i)
    (hi : i.natAbs ≤ 1 <<< 63) :
    read text = .ok (ofRatio (negative text.toList) i.natAbs 1) := by
  unfold read
  generalize text.toList = cs at h ⊢
  cases h with
  | plus h => simp [readFinite_digits h rfl hi, negative]
  | minus h =>
    rw [Int.natAbs_neg] at hi
    simp [readFinite_digits h rfl hi, negative]
  | unsigned h =>
    split
    · exact absurd rfl h.1
    · exact absurd h (Integer.not_digits_cons rfl _)
    · exact absurd h (Integer.not_digits_cons rfl _)
    · simp [readFinite_digits h rfl hi, Integer.negative_digits h]

/-- A text that is read as an integer is read as a number, and as the same one up to 53 bits. -/
theorem read_of_integer {text : String} {i : Int64} (h : Integer.read text = .ok i) :
    ∃ x, read text = .ok x ∧
      (i.toInt.natAbs ≤ 1 <<< 53 → Exactly (negative text.toList) i.toInt x) := by
  have hspelled := Integer.read_eq_ok_iff.1 h
  have hlow := i.minValue_le_toInt
  have hhigh := i.toInt_le
  have hbounds : Int64.minValue.toInt = -(1 <<< 63) ∧ Int64.maxValue.toInt = 1 <<< 63 - 1 := by
    decide
  refine ⟨_, read_of_spelled hspelled (by omega), fun hi => ?_⟩
  have hexactly := exactly_ofRatio hi (negative text.toList)
  rwa [← hspelled.eq_natAbs] at hexactly

end Binary64

namespace Evaluator

theorem gives_number_iff {e : Evaluator} {flag : String} {target : Target} {v : Variation}
    (h : (e.evaluate flag target .int).value = .ok v) {x : Binary64} :
    e.Gives .number flag target x ↔ Binary64.read v.value = .ok x :=
  (gives_iff h).trans mapError_eq_ok_iff

/-- **The number accessor agrees with the integer accessor.** Where the integer accessor gives an
integer, the number accessor does not fall back, and up to `2 ^ 53` it gives the same, with the sign
of the text where that is a zero. For whatever is read as an integer is read as a number. -/
theorem number_agrees_with_int (e : Evaluator) (flag : String) (target : Target) :
    (∀ i : Int64, e.Gives .int flag target i →
      ¬e.FallsBack .number flag target ∧
      ∃ v x, (e.evaluate flag target .int).value = .ok v ∧ e.Gives .number flag target x ∧
        (i.toInt.natAbs ≤ 1 <<< 53 →
          Binary64.Exactly (Integer.negative v.value.toList) i.toInt x)) ∧
    ∀ (text : String) (i : Int64), Integer.read text = .ok i → ∃ x, Binary64.read text = .ok x := by
  refine ⟨fun i hint => ?_, fun text i h => ?_⟩
  · obtain ⟨v, hv⟩ := hint.served
    have hi := mapError_eq_ok_iff.1 ((gives_iff hv).1 hint)
    obtain ⟨x, hx, hexactly⟩ := Binary64.read_of_integer hi
    have hgives := (gives_number_iff hv).2 hx
    exact ⟨fun hback => hback.not_gives x hgives, v, x, hv, hgives, hexactly⟩
  · obtain ⟨x, hx, -⟩ := Binary64.read_of_integer h
    exact ⟨x, hx⟩

/-- A gauge at a zero with a sign and more digits than it needs. -/
theorem gauge_agrees :
    (gauge .int "-00").Gives .int "gauge" (.new "ann") (0 : Int64) ∧
    (∃ x, (gauge .int "-00").Gives .number "gauge" (.new "ann") x ∧ Binary64.Exactly true 0 x) ∧
    Integer.read "-00" = .ok 0 ∧ ∃ x, Binary64.read "-00" = .ok x := by
  have hserves := gauge_serves .int "-00" (.new "ann")
  have hread : Integer.read "-00" = .ok 0 := rfl
  have hgives : (gauge .int "-00").Gives .int "gauge" (.new "ann") (0 : Int64) :=
    (gives_int_iff hserves).2 (Integer.read_eq_ok_iff.1 hread)
  obtain ⟨hagrees, htexts⟩ := number_agrees_with_int (gauge .int "-00") "gauge" (.new "ann")
  obtain ⟨-, v, x, hv, hx, hexactly⟩ := hagrees 0 hgives
  cases hserves.symm.trans hv
  exact ⟨hgives, ⟨x, hx, hexactly (by decide)⟩, hread, htexts "-00" 0 hread⟩

end Evaluator
end FeatureFlags
