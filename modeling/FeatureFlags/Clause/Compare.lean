import FeatureFlags.Clause
import FeatureFlags.Pattern.Compile
import FeatureFlags.Text.LowerCase

/-!
# Comparing texts

Every operator but `oneOf` looks at the first value only, and none is true of an empty list of
values. Letter case counts except for `equal`, and `greater` compares the bytes of the UTF-8 forms.

Mirrors the engine's `compare`.

**Results.**
* `isInfixOf_iff`: what it means to contain a text.
* `compare_nil`: nothing matches an empty list.
-/
namespace FeatureFlags

/-- Whether a list occurs within another one without gaps. -/
def isInfixOf [BEq α] (part : List α) : List α → Bool
  | [] => part.isEmpty
  | a :: as => part.isPrefixOf (a :: as) || isInfixOf part as

/-- Whether the first list comes after the second in lexicographic order. -/
def comesAfter : List UInt8 → List UInt8 → Bool
  | [], _ => false
  | _ :: _, [] => true
  | a :: as, b :: bs => if a = b then comesAfter as bs else b < a

/-- The bytes of the UTF-8 form. -/
def utf8 (text : String) : List UInt8 := text.toUTF8.toList

/-- Whether an operator other than `segmentMatch` holds between a text and values. -/
def Operator.compare (op : Operator) (text : String) (values : List String) : Bool :=
  match values with
  | [] => false
  | value :: _ =>
    match op with
    | .startsWith => value.toList.isPrefixOf text.toList
    | .endsWith => value.toList.isSuffixOf text.toList
    | .pattern => Pattern.matchesIn value text
    | .contains => isInfixOf value.toList text.toList
    | .equal => Text.lowerCase text == Text.lowerCase value
    | .equalSensitive => text == value
    | .oneOf => values.contains text
    | .greater => comesAfter (utf8 text) (utf8 value)
    | .segmentMatch => false
    | .unknown => false

theorem isInfixOf_iff [BEq α] [LawfulBEq α] {part whole : List α} :
    isInfixOf part whole = true ↔ ∃ before after, whole = before ++ part ++ after := by
  induction whole with
  | nil =>
    simp only [isInfixOf, List.isEmpty_iff]
    constructor
    · rintro rfl; exact ⟨[], [], rfl⟩
    · rintro ⟨before, after, h⟩
      simp_all
  | cons a as ih =>
    simp only [isInfixOf, Bool.or_eq_true, List.isPrefixOf_iff_prefix, ih]
    constructor
    · rintro (⟨after, h⟩ | ⟨before, after, h⟩)
      · exact ⟨[], after, by simp [h]⟩
      · exact ⟨a :: before, after, by simp [h]⟩
    · rintro ⟨before, after, h⟩
      cases before with
      | nil => exact .inl ⟨after, by simpa using h.symm⟩
      | cons b bs =>
        simp only [List.cons_append, List.cons.injEq] at h
        exact .inr ⟨bs, after, h.2⟩

@[simp] theorem Operator.compare_nil (op : Operator) (text : String) : op.compare text [] = false :=
  rfl

end FeatureFlags
