import FeatureFlags.Clause.Compare
import Mathlib.Data.List.Lex

/-!
# How the operators belong together

With a single value each operator is a relation of two texts. One of them orders all texts: it
compares the bytes of the UTF-8 forms, and these come in the order of the code points, because the
first byte tells how long the form of a character is, a longer form stands for a greater code point,
and the bytes that follow hold the digits of the code point to the base 64, the most significant one
first.

**Results.**
* `append_utf8_lt`, `flatMap_utf8_lt_iff`: the order of the UTF-8 forms.
* `holds_greater_iff`: that operator by code points.
* `operators_belong_together`: all laws that tie the operators to each other.
-/
namespace FeatureFlags

open String (utf8EncodeChar)

/-! ## The order of UTF-8 forms -/

/-- The code points of the characters, in order. -/
def codePoints (text : String) : List Nat := text.toList.map Char.toNat

theorem codePoints_inj {a b : String} : codePoints a = codePoints b ↔ a = b := by
  have hinj : Function.Injective (List.map Char.toNat) :=
    List.map_injective_iff.2 fun _ _ => Char.toNat_inj.1
  exact hinj.eq_iff.trans String.toList_inj

theorem comesAfter_iff {xs ys : List UInt8} : comesAfter xs ys = true ↔ ys < xs := by
  induction xs generalizing ys with
  | nil => simp [comesAfter]
  | cons x xs ih =>
    cases ys with
    | nil => simp [comesAfter]
    | cons y ys =>
      rw [comesAfter, List.cons_lt_cons_iff]
      by_cases hxy : x = y
      · simp [hxy, ih]
      · simp [hxy, Ne.symm hxy]

theorem toList_loop (bytes : ByteArray) (i : Nat) (read : List UInt8) :
    ByteArray.toList.loop bytes i read = read.reverse ++ bytes.data.toList.drop i := by
  fun_induction ByteArray.toList.loop bytes i read with
  | case1 i read hi ih =>
    have hlt : i < bytes.data.toList.length := by simpa using hi
    rw [ih, List.drop_eq_getElem_cons hlt]
    simp [ByteArray.get!, hi]
  | case2 i read hi =>
    rw [List.drop_eq_nil_of_le (by simpa using hi), List.append_nil]

theorem utf8_eq_flatMap (text : String) : utf8 text = text.toList.flatMap utf8EncodeChar := by
  have hbytes : text.toUTF8 = text.toList.utf8Encode := by
    rw [String.toUTF8_eq_toByteArray, ← String.toByteArray_ofList, String.ofList_toList]
  rw [utf8, hbytes, ByteArray.toList, toList_loop, List.utf8Encode, List.toList_data_toByteArray]
  rfl

theorem utf8_inj {a b : String} : utf8 a = utf8 b ↔ a = b := by
  rw [utf8, utf8, ByteArray.toList, ByteArray.toList, toList_loop, toList_loop,
    String.toUTF8_eq_toByteArray, String.toUTF8_eq_toByteArray, List.reverse_nil, List.nil_append,
      List.nil_append, List.drop_zero, List.drop_zero,
    Array.toList_inj, ← ByteArray.ext_iff, String.toByteArray_inj]

theorem toNat_lt_maxCodePoint (c : Char) : c.toNat < 0x110000 := by
  have hval : c.val.toNat = c.toNat := rfl
  rcases c.valid with h | ⟨-, h⟩ <;> omega

/-- The form of a smaller code point comes first, whatever is behind it. -/
theorem append_utf8_lt {c d : Char} (h : c.toNat < d.toNat) (xs ys : List UInt8) :
    utf8EncodeChar c ++ xs < utf8EncodeChar d ++ ys := by
  have hc : c.val.toNat = c.toNat := rfl
  have hd : d.val.toNat = d.toNat := rfl
  have hmax := toNat_lt_maxCodePoint d
  simp only [utf8EncodeChar, hc, hd]
  generalize c.toNat = m at h ⊢
  generalize d.toNat = n at h hmax ⊢
  clear hc hd
  -- one case for each pair of lengths
  repeat' split
  all_goals
    simp (disch := omega) only [List.cons_append, List.nil_append, List.cons_lt_cons_iff,
      UInt8.lt_iff_toNat_lt, ← UInt8.toNat_inj, UInt8.toNat_ofNat', Nat.mod_eq_of_lt]
    omega

theorem append_lt_append_iff {as bs cs : List UInt8} : as ++ bs < as ++ cs ↔ bs < cs := by
  induction as with
  | nil => rfl
  | cons a as ih => simp [ih]

theorem flatMap_utf8_lt_iff {cs ds : List Char} :
    cs.flatMap utf8EncodeChar < ds.flatMap utf8EncodeChar ↔
      cs.map Char.toNat < ds.map Char.toNat := by
  induction cs generalizing ds with
  | nil =>
    cases ds with
    | nil => simp
    | cons d ds =>
      obtain ⟨x, xs, hd⟩ := List.exists_cons_of_ne_nil (l := utf8EncodeChar d) (by
        rw [← List.length_pos_iff, String.length_utf8EncodeChar]
        exact d.utf8Size_pos)
      simp [hd]
  | cons c cs ih =>
    cases ds with
    | nil => simp
    | cons d ds =>
      rw [List.flatMap_cons, List.flatMap_cons, List.map_cons, List.map_cons, List.cons_lt_cons_iff]
      rcases Nat.lt_trichotomy c.toNat d.toNat with h | h | h
      · exact iff_of_true (append_utf8_lt h _ _) (.inl h)
      · rw [Char.toNat_inj] at h
        simp [h, append_lt_append_iff, ih]
      · refine iff_of_false (List.lt_asymm (append_utf8_lt h _ _)) ?_
        rintro (hlt | ⟨heq, -⟩) <;> omega

namespace Operator

/-! ## Each operator by itself -/

/-- The operator holds between a text and a single value. -/
def Holds (op : Operator) (text value : String) : Prop := op.compare text [value] = true

theorem holds_greater_iff {a b : String} : greater.Holds a b ↔ codePoints b < codePoints a := by
  have hcompare : greater.Holds a b ↔ comesAfter (utf8 a) (utf8 b) = true := Iff.rfl
  rw [hcompare, comesAfter_iff, utf8_eq_flatMap, utf8_eq_flatMap]
  exact flatMap_utf8_lt_iff

/-- Here the order of 16-bit units would be the other one. -/
example : greater.Holds "😀" "\uffff" := holds_greater_iff.2 (by decide)

theorem holds_equalSensitive_iff {a b : String} : equalSensitive.Holds a b ↔ a = b := beq_iff_eq

theorem holds_equal_iff {a b : String} : equal.Holds a b ↔ Text.lowerCase a = Text.lowerCase b :=
  beq_iff_eq

theorem equal_equivalence : Equivalence equal.Holds where
  refl _ := holds_equal_iff.2 rfl
  symm h := holds_equal_iff.2 (holds_equal_iff.1 h).symm
  trans h h' := holds_equal_iff.2 ((holds_equal_iff.1 h).trans (holds_equal_iff.1 h'))

theorem holds_startsWith_iff {a b : String} : startsWith.Holds a b ↔ ∃ rest, a = b ++ rest := by
  refine List.isPrefixOf_iff_prefix.trans ⟨?_, ?_⟩
  · rintro ⟨rest, h⟩
    exact ⟨String.ofList rest, String.toList_inj.1 (by simp [h])⟩
  · rintro ⟨rest, rfl⟩
    exact ⟨rest.toList, String.toList_append.symm⟩

theorem holds_endsWith_iff {a b : String} : endsWith.Holds a b ↔ ∃ before, a = before ++ b := by
  refine List.isSuffixOf_iff_suffix.trans ⟨?_, ?_⟩
  · rintro ⟨before, h⟩
    exact ⟨String.ofList before, String.toList_inj.1 (by simp [h])⟩
  · rintro ⟨before, rfl⟩
    exact ⟨before.toList, String.toList_append.symm⟩

theorem holds_contains_iff {a b : String} :
    contains.Holds a b ↔ ∃ before suffix, a = before ++ suffix ∧ startsWith.Holds suffix b := by
  simp only [holds_startsWith_iff]
  refine isInfixOf_iff.trans ⟨?_, ?_⟩
  · rintro ⟨before, after, h⟩
    refine ⟨String.ofList before, b ++ String.ofList after, String.toList_inj.1 ?_, _, rfl⟩
    simp [h]
  · rintro ⟨before, _, rfl, after, rfl⟩
    exact ⟨before.toList, after.toList, by simp⟩

theorem compare_oneOf_iff {a : String} {vs : List String} :
    oneOf.compare a vs = true ↔ ∃ v ∈ vs, equalSensitive.Holds a v := by
  have hmem : oneOf.compare a vs = true ↔ a ∈ vs := by
    cases vs with
    | nil => simp
    | cons v vs => exact List.contains_iff_mem
  simp [hmem, holds_equalSensitive_iff]

theorem compare_cons {op : Operator} (h : op ≠ oneOf) (a v : String) (vs : List String) :
    op.compare a (v :: vs) = op.compare a [v] := by
  cases op with
  | oneOf => exact absurd rfl h
  | _ => rfl

/-! ## All operators together -/

/-- One of the three holds, and no other. -/
def ExactlyOne (p q r : Prop) : Prop := (p ∧ ¬q ∧ ¬r) ∨ (¬p ∧ q ∧ ¬r) ∨ (¬p ∧ ¬q ∧ r)

theorem greater_trichotomy (a b : String) :
    ExactlyOne (greater.Holds a b) (greater.Holds b a) (equalSensitive.Holds a b) := by
  rw [holds_greater_iff, holds_greater_iff, holds_equalSensitive_iff, ← codePoints_inj]
  rcases lt_trichotomy (codePoints a) (codePoints b) with h | h | h
  · exact .inr (.inl ⟨h.not_gt, h, h.ne⟩)
  · exact .inr (.inr ⟨by rw [h]; exact lt_irrefl _, by rw [h]; exact lt_irrefl _, h⟩)
  · exact .inl ⟨h, h.not_gt, h.ne'⟩

/-- **The operators belong together.** Being greater is a strict total order of texts, and the order
of their code points. Being equal but for letter case is an equivalence, and the same text is equal.
Being one of several values is being the same as one of them, whatever their order and however often
each is there. A text contains a value when a part of it up to its end starts with the value, so it
does when it starts or ends with the value itself. No other operator than `oneOf` looks at more than
the first value, and none is true of an empty list. -/
theorem operators_belong_together (a b c v : String) (vs ws : List String) :
    ((greater.Holds a b ↔ codePoints b < codePoints a) ∧
      ¬greater.Holds a a ∧
      (greater.Holds a b → greater.Holds b c → greater.Holds a c) ∧
      ExactlyOne (greater.Holds a b) (greater.Holds b a) (equalSensitive.Holds a b)) ∧
    (Equivalence equal.Holds ∧
      (equalSensitive.Holds a b → equal.Holds a b)) ∧
    ((oneOf.compare a vs = true ↔ ∃ v ∈ vs, equalSensitive.Holds a v) ∧
      ((∀ v, v ∈ vs ↔ v ∈ ws) → oneOf.compare a vs = oneOf.compare a ws)) ∧
    ((startsWith.Holds a b ↔ ∃ rest, a = b ++ rest) ∧
      (endsWith.Holds a b ↔ ∃ before, a = before ++ b) ∧
      (contains.Holds a b ↔ ∃ before suffix, a = before ++ suffix ∧ startsWith.Holds suffix b) ∧
      (startsWith.Holds a b → contains.Holds a b) ∧
      (endsWith.Holds a b → contains.Holds a b)) ∧
    (∀ op, op ≠ oneOf → op.compare a (v :: vs) = op.compare a [v]) ∧
    ∀ op : Operator, op.compare a [] = false := by
  refine ⟨⟨holds_greater_iff, ?_, ?_, greater_trichotomy a b⟩, ⟨?_, ?_⟩, ⟨compare_oneOf_iff, ?_⟩,
    ⟨holds_startsWith_iff, holds_endsWith_iff, holds_contains_iff, ?_, ?_⟩, ?_, ?_⟩
  · rw [holds_greater_iff]
    exact lt_irrefl _
  · simp only [holds_greater_iff]
    exact fun hab hbc => hbc.trans hab
  · exact equal_equivalence
  · rw [holds_equalSensitive_iff, holds_equal_iff]
    exact congrArg Text.lowerCase
  · intro hsame
    rw [Bool.eq_iff_iff, compare_oneOf_iff, compare_oneOf_iff]
    simp only [hsame]
  · rw [holds_contains_iff]
    exact fun h => ⟨"", a, by simp, h⟩
  · rw [holds_contains_iff, holds_endsWith_iff]
    rintro ⟨before, rfl⟩
    exact ⟨before, b, rfl, holds_startsWith_iff.2 ⟨"", by simp⟩⟩
  · exact fun op hop => compare_cons hop a v vs
  · exact fun op => compare_nil op a

end Operator
end FeatureFlags
