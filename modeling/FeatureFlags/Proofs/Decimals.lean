import FeatureFlags.Proofs.Codecs

/-!
# Integers written in digits

An integer of 64 signed bits is read from an optional sign and digits, with zeros in front as one
likes, when the value fits; and from nothing else.

**Results.**
* `spelled_repr`: the decimal text of an integer spells it.
* `read_eq_ok_iff`: the texts that are read as an integer.
-/
namespace FeatureFlags

namespace Integer

open Json (Digits)

/-- The text is an optional sign and digits, and the integer is its value. -/
inductive Spelled : List Char → Int → Prop where
  | unsigned {ds} (h : Digits ds) : Spelled ds (digitsValue 0 ds)
  | plus {ds} (h : Digits ds) : Spelled ('+' :: ds) (digitsValue 0 ds)
  | minus {ds} (h : Digits ds) : Spelled ('-' :: ds) (-digitsValue 0 ds)

/-- Whether the text begins with a minus sign. -/
def negative (cs : List Char) : Bool := cs.head? == some '-'

theorem not_digits_cons {c : Char} (hc : isDigit c = false) (cs : List Char) : ¬Digits (c :: cs) :=
  fun h =>
  Bool.false_ne_true (hc.symm.trans (h.2 c List.mem_cons_self))

theorem negative_digits {ds : List Char} (h : Digits ds) : negative ds = false := by
  cases ds with
  | nil => rfl
  | cons c ds =>
    have hc : c ≠ '-' := fun hc => not_digits_cons rfl ds (hc ▸ h)
    simpa [negative] using hc

/-- A minus sign in front makes the integer negative, and nothing else does. -/
theorem Spelled.eq_natAbs {cs : List Char} {i : Int} (h : Spelled cs i) :
    i = if negative cs then -(i.natAbs : Int) else i.natAbs := by
  cases h with
  | unsigned h => simp [negative_digits h]
  | plus => rfl
  | minus => simp [negative]

theorem spelled_repr (i : Int) : Spelled i.repr.toList i := by
  have hdigits := (Json.wholeDigits_toDigits i.natAbs).1
  have hvalue := digitsValue_toDigits i.natAbs
  rw [Json.repr_toList]
  split
  · have hspelled := Spelled.minus hdigits
    have hi : -(digitsValue 0 (Nat.toDigits 10 i.natAbs) : Int) = i := by omega
    rwa [hi] at hspelled
  · have hspelled := Spelled.unsigned hdigits
    have hi : (digitsValue 0 (Nat.toDigits 10 i.natAbs) : Int) = i := by omega
    rwa [hi] at hspelled

theorem readRun_eq_ok_iff {limit : Nat} {beyond : Fault} {cs : List Char} {n : Nat} :
    readRun limit beyond cs = .ok n ↔ Digits cs ∧ digitsValue 0 cs = n ∧ n ≤ limit := by
  cases cs with
  | nil => simp [readRun, Digits]
  | cons c cs => simp [readRun, Digits, readDigits_eq_ok]

/-- A run of digits whose value, with its sign, fits in 64 signed bits. -/
theorem signedRun_eq_ok_iff (sign : Int → Int) {limit : Nat} {beyond : Fault} {cs : List Char}
    {i : Int64} (hsign : ∀ n : Nat, n ≤ limit ↔
      Int64.minValue.toInt ≤ sign n ∧ sign n ≤ Int64.maxValue.toInt) :
    (readRun limit beyond cs >>= fun n => pure (n : Int)).map (fun n => Int64.ofInt (sign n)) =
      .ok i ↔
      Digits cs ∧ sign (digitsValue 0 cs) = i.toInt := by
  constructor
  · intro h
    obtain ⟨_, hn, rfl⟩ := Json.exists_ok_of_map h
    obtain ⟨n, hrun, hn⟩ := Json.exists_ok_of_bind hn
    cases hn
    obtain ⟨hdigits, rfl, hlimit⟩ := readRun_eq_ok_iff.1 hrun
    obtain ⟨hlow, hhigh⟩ := (hsign _).1 hlimit
    exact ⟨hdigits, (Int64.toInt_ofInt_of_le hlow (Int.lt_add_one_of_le hhigh)).symm⟩
  · rintro ⟨hdigits, hvalue⟩
    have hfits : digitsValue 0 cs ≤ limit := by
      rw [hsign, hvalue]
      exact ⟨i.minValue_le_toInt, i.toInt_le⟩
    rw [readRun_eq_ok_iff.2 ⟨hdigits, rfl, hfits⟩, ← i.ofInt_toInt, ← hvalue]
    rfl

theorem spelled_minus_iff {cs : List Char} {i : Int} :
    Spelled ('-' :: cs) i ↔ Digits cs ∧ (-digitsValue 0 cs : Int) = i := by
  constructor
  · intro h
    cases h with
    | unsigned h => exact absurd h (not_digits_cons rfl cs)
    | minus h => exact ⟨h, rfl⟩
  · rintro ⟨h, rfl⟩
    exact .minus h

theorem spelled_plus_iff {cs : List Char} {i : Int} :
    Spelled ('+' :: cs) i ↔ Digits cs ∧ (digitsValue 0 cs : Int) = i := by
  constructor
  · intro h
    cases h with
    | unsigned h => exact absurd h (not_digits_cons rfl cs)
    | plus h => exact ⟨h, rfl⟩
  · rintro ⟨h, rfl⟩
    exact .plus h

theorem spelled_unsigned_iff {cs : List Char} {i : Int} (hminus : ∀ ds, cs ≠ '-' :: ds)
    (hplus : ∀ ds, cs ≠ '+' :: ds) : Spelled cs i ↔ Digits cs ∧ (digitsValue 0 cs : Int) = i := by
  constructor
  · intro h
    cases h with
    | unsigned h => exact ⟨h, rfl⟩
    | plus h => exact absurd rfl (hplus _)
    | minus h => exact absurd rfl (hminus _)
  · rintro ⟨h, rfl⟩
    exact .unsigned h

/-- The texts that are read as an integer of 64 signed bits. -/
theorem read_eq_ok_iff {text : String} {i : Int64} :
    read text = .ok i ↔ Spelled text.toList i.toInt := by
  have hbounds : Int64.minValue.toInt = -(1 <<< 63) ∧ Int64.maxValue.toInt = 1 <<< 63 - 1 := by
    decide
  unfold read
  generalize text.toList = cs
  split
  · have hspelled : Spelled [] i.toInt ↔ Digits [] ∧ (digitsValue 0 [] : Int) = i.toInt :=
      spelled_unsigned_iff (fun _ => nofun) fun _ => nofun
    exact iff_of_false nofun fun h => (hspelled.1 h).1.1 rfl
  · rw [spelled_minus_iff]
    exact signedRun_eq_ok_iff (fun n => -n) fun n => by omega
  · rw [spelled_plus_iff]
    exact signedRun_eq_ok_iff (fun n => n) fun n => by omega
  · next hminus hplus =>
    rw [spelled_unsigned_iff hminus hplus]
    exact signedRun_eq_ok_iff (fun n => n) fun n => by omega

end Integer
end FeatureFlags
