import FeatureFlags.Proofs.Operators
import FeatureFlags.Text.Ascii
import Mathlib.Data.List.Forall2
import Mathlib.Data.Nat.Bitwise

/-!
# Letter case and the end of a word

Two texts that are the same but for letter case, character by character, are equal but for letter
case, with one exception: a capital sigma that ends a word has a lower-case form of its own, which a
small sigma in the same place does not have.

Nothing else of what stands around a sigma matters: a letter and its lower-case form are both cased,
and neither is passed over, so the two texts agree about where words end. This is read off the
tables, whose sets of code points are compared as the bits of numbers.

**Results.**
* `classes_of_lowerChar`: characters with the same lower-case form are of the same classes.
* `lowerFrom_eq_iff`: when two texts have the same lower-case form.
* `equal_iff_sameFinalSigmas`: when two texts that are alike by character are equal but for letter
  case.
* `alike_streets_differ`: two that are not.
-/
namespace FeatureFlags

/-! ## Letters with a case -/

namespace Unicode

/-- The code points of the ranges as the bits of a number. -/
def bits (rs : List CodeRange) : Nat :=
  rs.foldr (fun r n => ((1 <<< (r.last + 1 - r.first)) - 1) <<< r.first ||| n) 0

theorem testBit_bits (rs : List CodeRange) (n : Nat) :
    (bits rs).testBit n = rs.any (·.contains n) := by
  induction rs with
  | nil => simp [bits]
  | cons r rs ih =>
    have hcons : bits (r :: rs) = ((1 <<< (r.last + 1 - r.first)) - 1) <<< r.first ||| bits rs :=
      rfl
    have hrange : (((1 <<< (r.last + 1 - r.first)) - 1) <<< r.first).testBit n = r.contains n := by
      rw [Nat.testBit_shiftLeft, Nat.one_shiftLeft, Nat.testBit_two_pow_sub_one, Bool.eq_iff_iff]
      simp only [CodeRange.contains, Bool.and_eq_true, decide_eq_true_iff]
      omega
    rw [hcons, Nat.testBit_or, hrange, ih, List.any_cons]

theorem contains_of_bits_or {rs ss : List CodeRange} (h : bits rs ||| bits ss = bits ss) {n : Nat}
    (hn : rs.any (·.contains n) = true) : ss.any (·.contains n) = true := by
  rw [← testBit_bits] at hn ⊢
  rw [← h, Nat.testBit_or, hn, Bool.true_or]

theorem not_contains_of_bits_and {rs ss : List CodeRange} (h : bits rs &&& bits ss = 0) {n : Nat}
    (hn : rs.any (·.contains n) = true) : ss.any (·.contains n) = false := by
  have hand : (bits rs &&& bits ss).testBit n = false := by rw [h, Nat.zero_testBit]
  rwa [Nat.testBit_and, testBit_bits, testBit_bits, hn, Bool.true_and] at hand

/-- The letters that have a lower-case form, and these forms. -/
def caseLetters : List CodeRange :=
  lowerRuns.flatMap fun r => r.pairs.flatMap fun p => [⟨p.1, p.1⟩, ⟨p.2, p.2⟩]

/-- The code points that characters have. -/
def scalarRanges : List CodeRange := [⟨0, 0xd7ff⟩, ⟨0xe000, 0x10ffff⟩]

theorem caseLetters_classes :
    bits caseLetters ||| bits casedRanges = bits casedRanges ∧
      bits caseLetters &&& bits caseIgnorableRanges = 0 ∧
      bits caseLetters ||| bits scalarRanges = bits scalarRanges := by
  decide +kernel

theorem mem_pairs {r : CaseRun} {m n : Nat} (h : r.map? m = some n) : (m, n) ∈ r.pairs := by
  simp only [CaseRun.map?, Option.ite_none_right_eq_some, Option.some.injEq] at h
  obtain ⟨⟨hfirst, hlast, hstep⟩, rfl⟩ := h
  have hsteps : (m - r.first) / r.step * r.step = m - r.first :=
    Nat.div_mul_cancel (Nat.dvd_of_mod_eq_zero hstep)
  have hle : (m - r.first) / r.step ≤ (r.last - r.first) / r.step := Nat.div_le_div_right (by omega)
  refine List.mem_map.2 ⟨(m - r.first) / r.step, List.mem_range.2 (Nat.lt_succ_of_le hle), ?_⟩
  rw [hsteps, Nat.add_sub_cancel' hfirst]

theorem isCaseLetter_of_mem {r : CaseRun} {m n : Nat} (hr : r ∈ lowerRuns) (h : (m, n) ∈ r.pairs) :
    caseLetters.any (·.contains m) = true ∧ caseLetters.any (·.contains n) = true := by
  have hmem : ∀ k ∈ [m, n], caseLetters.any (·.contains k) = true := by
    intro k hk
    refine List.any_eq_true.2 ⟨⟨k, k⟩, ?_, by simp [CodeRange.contains]⟩
    refine List.mem_flatMap.2 ⟨r, hr, List.mem_flatMap.2 ⟨(m, n), h, ?_⟩⟩
    simpa using hk
  exact ⟨hmem m (by simp), hmem n (by simp)⟩

end Unicode

namespace Text

open Unicode

/-- Whether the character is a letter that has a lower-case form, or such a form. -/
def isCaseLetter (c : Char) : Bool := caseLetters.any (·.contains c.toNat)

theorem isCased_of_isCaseLetter {c : Char} (h : isCaseLetter c = true) : isCased c = true :=
  contains_of_bits_or caseLetters_classes.1 h

theorem isCaseIgnorable_of_isCaseLetter {c : Char} (h : isCaseLetter c = true) :
    isCaseIgnorable c = false :=
  not_contains_of_bits_and caseLetters_classes.2.1 h

theorem toNat_ofNat_of_caseLetter {n : Nat} (h : caseLetters.any (·.contains n) = true) :
    (Char.ofNat n).toNat = n := by
  have hscalar := contains_of_bits_or caseLetters_classes.2.2 h
  simp only [scalarRanges, CodeRange.contains, List.any_cons, List.any_nil, Bool.or_false,
    Bool.or_eq_true, Bool.and_eq_true, decide_eq_true_iff] at hscalar
  have hvalid : n.isValidChar := by
    unfold Nat.isValidChar
    omega
  rw [Char.ofNat, dif_pos hvalid]
  rfl

/-- A character stands for itself in lower case, or both are letters. -/
def Lowers (c d : Char) : Prop := d = c ∨ isCaseLetter c = true ∧ isCaseLetter d = true

theorem lowers_toLower (c : Char) : Lowers c c.toLower := by
  have hlower := toNat_toLower c
  split at hlower
  · next hcapital =>
    have hmap : (⟨0x41, 0x5a, 1, 0x61⟩ : CaseRun).map? c.toNat = some c.toLower.toNat := by
      rw [CaseRun.map?, if_pos ⟨hcapital.1, hcapital.2, Nat.mod_one _⟩, hlower, Option.some.injEq]
      dsimp only
      omega
    exact .inr (isCaseLetter_of_mem List.mem_cons_self (mem_pairs hmap))
  · exact .inl (Char.toNat_inj.1 hlower)

theorem lowers_mapRuns (c : Char) : Lowers c (Char.ofNat (mapRuns lowerRuns c.toNat)) := by
  unfold mapRuns
  cases h : lowerRuns.findSome? (·.map? c.toNat) with
  | none => exact .inl (by rw [Option.getD_none, Char.ofNat_toNat])
  | some n =>
    obtain ⟨r, hr, hmap⟩ := List.exists_of_findSome?_eq_some h
    obtain ⟨hc, hn⟩ := isCaseLetter_of_mem hr (mem_pairs hmap)
    refine .inr ⟨hc, ?_⟩
    rwa [isCaseLetter, Option.getD_some, toNat_ofNat_of_caseLetter hn]

theorem exists_lowerChar {c : Char} (h : c ≠ 'İ') : ∃ d, lowerChar c = [d] ∧ Lowers c d := by
  unfold lowerChar
  split
  · exact ⟨_, rfl, lowers_toLower c⟩
  · exact ⟨_, rfl, lowers_mapRuns c⟩

theorem Lowers.classes {c d : Char} (h : Lowers c d) :
    isCased c = isCased d ∧ isCaseIgnorable c = isCaseIgnorable d := by
  rcases h with rfl | ⟨hc, hd⟩
  · exact ⟨rfl, rfl⟩
  · rw [isCased_of_isCaseLetter hc, isCased_of_isCaseLetter hd, isCaseIgnorable_of_isCaseLetter hc,
      isCaseIgnorable_of_isCaseLetter hd]
    exact ⟨rfl, rfl⟩

/-- Characters with the same lower-case form are of the same classes. -/
theorem classes_of_lowerChar {c d : Char} (h : lowerChar c = lowerChar d) :
    isCased c = isCased d ∧ isCaseIgnorable c = isCaseIgnorable d := by
  -- the one character that becomes two is like no other
  have hdotted : lowerChar 'İ' = ['i', '\u0307'] := rfl
  by_cases hc : c = 'İ' <;> by_cases hd : d = 'İ'
  · rw [hc, hd]
    exact ⟨rfl, rfl⟩
  · obtain ⟨d', hd', -⟩ := exists_lowerChar hd
    simp [hc, hdotted, hd'] at h
  · obtain ⟨c', hc', -⟩ := exists_lowerChar hc
    simp [hd, hdotted, hc'] at h
  · obtain ⟨c', hc', hcc⟩ := exists_lowerChar hc
    obtain ⟨d', hd', hdd⟩ := exists_lowerChar hd
    rw [hc', hd', List.singleton_inj] at h
    subst h
    exact ⟨hcc.classes.1.trans hdd.classes.1.symm, hcc.classes.2.trans hdd.classes.2.symm⟩

/-! ## Sigmas at the ends of words -/

/-- The characters have the same lower-case form, each on its own. -/
def AlikeChars (c d : Char) : Prop := lowerChar c = lowerChar d

/-- The characters of the one text and those of the other have the same lower-case forms, one by
one. -/
def Alike (a b : String) : Prop := List.Forall₂ AlikeChars a.toList b.toList

theorem meetsCased_congr {cs ds : List Char} (h : List.Forall₂ AlikeChars cs ds) :
    meetsCased cs = meetsCased ds := by
  induction h with
  | nil => rfl
  | @cons c d cs ds hcd _ ih =>
    obtain ⟨hcased, hignorable⟩ := classes_of_lowerChar hcd
    unfold meetsCased at ih ⊢
    rw [List.dropWhile_cons, List.dropWhile_cons, hignorable]
    by_cases hd : isCaseIgnorable d = true
    · rw [if_pos hd, if_pos hd, ih]
    · rw [if_neg hd, if_neg hd]
      exact hcased

theorem lowerSigma_congr {before before' after after' : List Char}
    (hbefore : List.Forall₂ AlikeChars before before')
    (hafter : List.Forall₂ AlikeChars after after') :
    lowerSigma before after = lowerSigma before' after' := by
  rw [lowerSigma, lowerSigma, meetsCased_congr hbefore, meetsCased_congr hafter]

/-- The lower-case form of a character between others, the ones before it in reverse. -/
def lowerAt (before : List Char) (c : Char) (after : List Char) : List Char :=
  if c = 'Σ' then [lowerSigma before after] else lowerChar c

theorem lowerFrom_cons (before : List Char) (c : Char) (cs : List Char) :
    lowerFrom before (c :: cs) = lowerAt before c cs ++ lowerFrom (c :: before) cs := rfl

theorem lowerChar_sigma : lowerChar 'Σ' = ['σ'] := rfl

theorem length_lowerAt (before : List Char) (c : Char) (after : List Char) :
    (lowerAt before c after).length = (lowerChar c).length := by
  unfold lowerAt
  split
  · next h => rw [h, lowerChar_sigma, List.length_singleton, List.length_singleton]
  · rfl

/-- A capital sigma that ends a word. -/
def EndsWord (before : List Char) (c : Char) (after : List Char) : Prop :=
  c = 'Σ' ∧ meetsCased before = true ∧ meetsCased after = false

/-- Only a sigma that ends a word has another lower-case form there than on its own. -/
theorem lowerAt_eq_lowerChar_iff {before after : List Char} {c : Char} :
    lowerAt before c after = lowerChar c ↔ ¬EndsWord before c after := by
  unfold lowerAt EndsWord lowerSigma
  by_cases hc : c = 'Σ'
  · rw [if_pos hc, hc, lowerChar_sigma]
    split <;> simp_all
  · simp [hc]

/-- A capital sigma stands at the position and ends a word. -/
def EndsWordAt (before cs : List Char) (i : Nat) : Prop :=
  ∃ c, cs[i]? = some c ∧ EndsWord ((cs.take i).reverse ++ before) c (cs.drop (i + 1))

theorem endsWordAt_zero {before cs : List Char} {c : Char} :
    EndsWordAt before (c :: cs) 0 ↔ EndsWord before c cs := by
  simp [EndsWordAt]

theorem endsWordAt_succ {before cs : List Char} {c : Char} {i : Nat} :
    EndsWordAt before (c :: cs) (i + 1) ↔ EndsWordAt (c :: before) cs i := by
  simp [EndsWordAt]

theorem lowerAt_eq_iff {before before' after after' : List Char} {c d : Char}
    (hbefore : List.Forall₂ AlikeChars before before')
    (hafter : List.Forall₂ AlikeChars after after')
    (hcd : AlikeChars c d) : lowerAt before c after = lowerAt before' d after' ↔
      (EndsWord before c after → d = 'Σ') ∧ (EndsWord before' d after' → c = 'Σ') := by
  by_cases hc : c = 'Σ' <;> by_cases hd : d = 'Σ'
  · simp [lowerAt, hc, hd, lowerSigma_congr hbefore hafter]
  · have hplain : lowerAt before' d after' = lowerChar c := by rw [hcd, lowerAt, if_neg hd]
    rw [hplain, lowerAt_eq_lowerChar_iff]
    simp [hc, hd]
  · have hplain : lowerAt before c after = lowerChar d := by rw [← hcd, lowerAt, if_neg hc]
    rw [hplain, eq_comm, lowerAt_eq_lowerChar_iff]
    simp [hc, hd]
  · simp only [lowerAt, EndsWord, hc, hd, if_false, false_and, false_implies, and_self, iff_true]
    exact hcd

/-- Two texts that are alike by character have the same lower-case form just if a capital sigma that
ends a word in one of them stands where the other has a capital sigma, too. -/
theorem lowerFrom_eq_iff {before before' cs ds : List Char}
    (hbefore : List.Forall₂ AlikeChars before before')
    (h : List.Forall₂ AlikeChars cs ds) : lowerFrom before cs = lowerFrom before' ds ↔
      ∀ i, (EndsWordAt before cs i → ds[i]? = some 'Σ') ∧
        (EndsWordAt before' ds i → cs[i]? = some 'Σ') := by
  induction h generalizing before before' with
  | nil => simp [lowerFrom, EndsWordAt]
  | @cons c d cs ds hcd h ih =>
    have hlength : (lowerAt before c cs).length = (lowerAt before' d ds).length := by
      rw [length_lowerAt, length_lowerAt, hcd]
    have hhead := lowerAt_eq_iff hbefore h hcd
    have htail := ih (hbefore.cons hcd)
    rw [lowerFrom_cons, lowerFrom_cons, ← Nat.and_forall_add_one]
    simp only [endsWordAt_zero, endsWordAt_succ, List.getElem?_cons_zero, List.getElem?_cons_succ,
      Option.some.injEq]
    rw [← hhead, ← htail]
    exact ⟨fun heq => List.append_inj heq hlength, fun ⟨hhere, hrest⟩ => by rw [hhere, hrest]⟩

/-! ## Equality but for letter case -/

/-- A capital sigma that ends a word in one of the texts stands where the other has a capital sigma,
too. -/
def SameFinalSigmas (a b : String) : Prop :=
  ∀ i, (EndsWordAt [] a.toList i → b.toList[i]? = some 'Σ') ∧
    (EndsWordAt [] b.toList i → a.toList[i]? = some 'Σ')

theorem lowerCase_eq_iff {a b : String} (h : Alike a b) :
    lowerCase a = lowerCase b ↔ SameFinalSigmas a b := by
  rw [lowerCase, lowerCase, String.ofList_inj]
  exact lowerFrom_eq_iff .nil h

instance (a b : String) : Decidable (Alike a b) :=
  inferInstanceAs
    (Decidable (List.Forall₂ (fun c d => lowerChar c = lowerChar d) a.toList b.toList))

end Text

namespace Operator

open Text

/-- **Equal but for letter case.** Texts that are alike by character are so, both ways, just if the
capital sigmas that end words in one of them are capital sigmas in the other. -/
theorem equal_iff_sameFinalSigmas (a b : String) (h : Alike a b) :
    (equal.Holds a b ↔ SameFinalSigmas a b) ∧ (equal.Holds b a ↔ SameFinalSigmas a b) := by
  rw [holds_equal_iff, holds_equal_iff, ← lowerCase_eq_iff h]
  exact ⟨Iff.rfl, eq_comm⟩

theorem capital_sigmas_agree :
    Alike "ΟΔΟΣ" "οδοΣ" ∧ equal.Holds "ΟΔΟΣ" "οδοΣ" ∧ equal.Holds "οδοΣ" "ΟΔΟΣ" := by
  have halike : Alike "ΟΔΟΣ" "οδοΣ" := by decide +kernel
  have hequal : equal.compare "ΟΔΟΣ" ["οδοΣ"] = true := by decide +kernel
  obtain ⟨hthere, hback⟩ := equal_iff_sameFinalSigmas "ΟΔΟΣ" "οδοΣ" halike
  exact ⟨halike, hequal, hback.2 (hthere.1 hequal)⟩

/-- The last letter becomes `ς` in the one text and stays `σ` in the other. -/
theorem alike_streets_differ :
    Alike "ΟΔΟΣ" "οδοσ" ∧ ¬equal.Holds "ΟΔΟΣ" "οδοσ" ∧ ¬equal.Holds "οδοσ" "ΟΔΟΣ" := by
  have halike : Alike "ΟΔΟΣ" "οδοσ" := by decide +kernel
  have hthere : equal.compare "ΟΔΟΣ" ["οδοσ"] = false := by decide +kernel
  have hback : equal.compare "οδοσ" ["ΟΔΟΣ"] = false := by decide +kernel
  exact ⟨halike, by rw [Holds, hthere]; decide, by rw [Holds, hback]; decide⟩

end Operator
end FeatureFlags
