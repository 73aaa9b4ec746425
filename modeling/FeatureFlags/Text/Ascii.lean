/-!
# ASCII letter case

Names of built-in attributes and the words for truth are compared without regard to the case of
ASCII letters; every other character must be the same.
-/
namespace FeatureFlags.Text

/-- Whether the texts differ at most in the case of ASCII letters. -/
def equalIgnoringAsciiCase (a b : String) : Bool :=
  a.toList.map Char.toLower == b.toList.map Char.toLower

/-- Only capital letters have another lower-case form. -/
theorem toNat_toLower (c : Char) :
    c.toLower.toNat = if 65 ≤ c.toNat ∧ c.toNat ≤ 90 then c.toNat + 32 else c.toNat := by
  have hA : 'A'.val.toNat = 65 := rfl
  have hZ : 'Z'.val.toNat = 90 := rfl
  have hval : c.val.toNat = c.toNat := rfl
  have hshift : ('a'.val - 'A'.val).toNat = 32 := rfl
  unfold Char.toLower
  simp only [UInt32.le_iff_toNat_le, ge_iff_le, hA, hZ, hval]
  split
  · have hsum : (c.val + ('a'.val - 'A'.val)).toNat = c.toNat + 32 := by
      rw [UInt32.toNat_add, hval, hshift]
      omega
    exact hsum
  · rfl

end FeatureFlags.Text
