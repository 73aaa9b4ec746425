import FeatureFlags.Proofs.Adequacy
import FeatureFlags.Proofs.Decimals
import FeatureFlags.Proofs.Documents
import FeatureFlags.Proofs.Requests
import Mathlib.Data.List.Forall2

/-!
# Typed values kept as texts

A variation keeps its value as a text, and a typed accessor gives back what was written there. What
an accessor gives is what it answers whatever the default is, and it falls back when the default is
the answer whatever it is.

An object that repeats no key is given as it is. Where a key is repeated, its last value stands.

**Results.**
* `Text.equalIgnoringAsciiCase_true_iff`: the texts that are true.
* `gives_iff`, `fallsBack_iff`: what an accessor gives once a variation is served.
* `typed_values_survive`: all accessors.
-/
namespace FeatureFlags

/-! ## Letter case -/

namespace Text

theorem toNat_toUpper {c : Char} (h : 97 ≤ c.toNat ∧ c.toNat ≤ 122) :
    c.toUpper.toNat = c.toNat - 32 := by
  have ha : 'a'.val.toNat = 97 := rfl
  have hz : 'z'.val.toNat = 122 := rfl
  have hval : c.val.toNat = c.toNat := rfl
  have hshift : ('A'.val - 'a'.val).toNat = UInt32.size - 32 := rfl
  have hsum : (c.val + ('A'.val - 'a'.val)).toNat = c.toNat - 32 := by
    rw [UInt32.toNat_add, hval, hshift, UInt32.size]
    omega
  unfold Char.toUpper
  rw [dif_pos (by simpa only [UInt32.le_iff_toNat_le, ha, hz, hval] using h)]
  exact hsum

/-- A small letter comes of itself and of its capital. -/
theorem toLower_eq_iff {letter c : Char} (h : 97 ≤ letter.toNat ∧ letter.toNat ≤ 122) :
    c.toLower = letter ↔ c = letter ∨ c = letter.toUpper := by
  simp only [← Char.toNat_inj, toNat_toLower, toNat_toUpper h]
  split <;> omega

/-- The text is the word, with any of its letters a capital. -/
def InAnyCase (word text : String) : Prop :=
  List.Forall₂ (fun letter c => c = letter ∨ c = letter.toUpper) word.toList text.toList

theorem map_toLower_eq_iff {letters cs : List Char}
    (h : ∀ l ∈ letters, 97 ≤ l.toNat ∧ l.toNat ≤ 122) :
    cs.map Char.toLower = letters ↔
      List.Forall₂ (fun letter c => c = letter ∨ c = letter.toUpper) letters cs := by
  induction letters generalizing cs with
  | nil => simp
  | cons letter letters ih =>
    obtain ⟨hletter, hletters⟩ := List.forall_mem_cons.1 h
    cases cs with
    | nil => simp
    | cons c cs => simp [toLower_eq_iff hletter, ih hletters]

theorem equalIgnoringAsciiCase_true_iff {text : String} :
    equalIgnoringAsciiCase text "true" = true ↔ InAnyCase "true" text := by
  have hsmall : ∀ l ∈ "true".toList, 97 ≤ l.toNat ∧ l.toNat ≤ 122 := by simp
  have hword : "true".toList.map Char.toLower = "true".toList := rfl
  rw [equalIgnoringAsciiCase, beq_iff_eq, hword, InAnyCase, map_toLower_eq_iff hsmall]

end Text

/-! ## Objects -/

open Json (Holds Plain)

/-- A text is read as the object that it holds, with the last value of every repeated key. -/
theorem Accessor.readObject_eq_ok_iff {text : String} {ms : List (String × Json)} :
    readObject text = .ok ms ↔
      ∃ members, Holds text (.object members) ∧ (Json.object members).lastWins = .object ms := by
  simp only [← Json.ofText?_eq_some_iff]
  constructor
  · intro h
    unfold readObject at h
    split at h
    · cases h
    · next json hjson =>
      split at h
      · next hreadable hlast =>
        cases h
        cases json with
        | object members => exact ⟨members, ⟨hjson, hreadable⟩, hlast⟩
        | _ => cases hlast
      · cases h
      · cases h
  · rintro ⟨members, ⟨hjson, hreadable⟩, hlast⟩
    simp only [readObject, hjson, hreadable, hlast]

namespace Evaluator

/-! ## Values of a type -/

/-- Whatever the default is, a request of this type is answered with the value. -/
def Gives (e : Evaluator) (t : Typed) (flag : String) (target : Target) (x : t.Value) : Prop :=
  ∀ default, (e.reply ⟨t, flag, target, default⟩).value = x

/-- Whatever the default is, a request of this type is answered with it. -/
def FallsBack (e : Evaluator) (t : Typed) (flag : String) (target : Target) : Prop :=
  ∀ default, (e.reply ⟨t, flag, target, default⟩).value = default

theorem exists_ne (t : Typed) : ∃ a b : t.Value, a ≠ b := by
  cases t with
  | bool => exact ⟨_, _, Bool.false_ne_true⟩
  | string => exact ⟨_, _, (by decide : "" ≠ "a")⟩
  | int => exact ⟨_, _, (by decide : (0 : Int64) ≠ 1)⟩
  | number => exact ⟨.nan, .zero false, nofun⟩
  | json => exact ⟨[], [("", .null)], nofun⟩

/-- Two defaults that differ cannot both be the value. -/
theorem FallsBack.not_gives {e : Evaluator} {t : Typed} {flag : String} {target : Target}
    (h : e.FallsBack t flag target) (x : t.Value) : ¬e.Gives t flag target x := by
  intro hgives
  obtain ⟨a, b, hab⟩ := exists_ne t
  have heq : ∀ default, default = x := fun default => (h default).symm.trans (hgives default)
  exact hab ((heq a).trans (heq b).symm)

theorem fallsBack_of_error {e : Evaluator} {t : Typed} {flag : String} {target : Target}
    {cause : EvaluationError} (h : (e.evaluate flag target t.accessor.kind).value = .error cause) :
    e.FallsBack t flag target := by
  intro default
  refine (e.answered ⟨t, flag, target, default⟩).defaulted ?_
  rintro ⟨v, x, hv, -⟩
  cases h.symm.trans hv

/-- A value is given only when a variation is served. -/
theorem Gives.served {e : Evaluator} {t : Typed} {flag : String} {target : Target} {x : t.Value}
    (h : e.Gives t flag target x) :
    ∃ v, (e.evaluate flag target t.accessor.kind).value = .ok v := by
  cases hv : (e.evaluate flag target t.accessor.kind).value with
  | ok v => exact ⟨v, rfl⟩
  | error cause => exact absurd h ((fallsBack_of_error hv).not_gives x)

section

variable {e : Evaluator} {t : Typed} {flag : String} {target : Target} {v : Variation}
  (h : (e.evaluate flag target t.accessor.kind).value = .ok v)
include h

theorem gives_of_decode {x : t.Value} (hx : t.accessor.decode v.value = .ok x) :
    e.Gives t flag target x :=
  fun default => (e.answered ⟨t, flag, target, default⟩).decoded v x h hx

theorem fallsBack_of_decode (hnone : ¬∃ x, t.accessor.decode v.value = .ok x) :
    e.FallsBack t flag target := by
  intro default
  refine (e.answered ⟨t, flag, target, default⟩).defaulted ?_
  rintro ⟨w, x, hw, hx⟩
  cases h.symm.trans hw
  exact hnone ⟨x, hx⟩

/-- What is given is what the text of the variation decodes to. -/
theorem gives_iff {x : t.Value} : e.Gives t flag target x ↔ t.accessor.decode v.value = .ok x := by
  refine ⟨fun hgives => ?_, gives_of_decode h⟩
  by_cases hdecode : ∃ y, t.accessor.decode v.value = .ok y
  · obtain ⟨y, hy⟩ := hdecode
    rw [hy, ← hgives y, gives_of_decode h hy y]
  · exact absurd hgives ((fallsBack_of_decode h hdecode).not_gives x)

theorem fallsBack_iff : e.FallsBack t flag target ↔ ∀ x, ¬e.Gives t flag target x := by
  refine ⟨FallsBack.not_gives, fun hnone => fallsBack_of_decode h ?_⟩
  rintro ⟨x, hx⟩
  exact hnone x (gives_of_decode h hx)

end

theorem mapError_eq_ok_iff {x : Except ε α} {f : ε → ε'} {a : α} :
    x.mapError f = .ok a ↔ x = .ok a := by
  cases x <;> simp [Except.mapError]

section

variable {e : Evaluator} {flag : String} {target : Target} {v : Variation}

theorem gives_bool_iff (h : (e.evaluate flag target .boolean).value = .ok v) {b : Bool} :
    e.Gives .bool flag target b ↔ (b = true ↔ Text.InAnyCase "true" v.value) := by
  have hdecode : e.Gives .bool flag target b ↔ Text.equalIgnoringAsciiCase v.value "true" = b :=
    (gives_iff h).trans ⟨Except.ok.inj, congrArg Except.ok⟩
  rw [hdecode, ← Text.equalIgnoringAsciiCase_true_iff]
  cases b <;> simp

theorem gives_int_iff (h : (e.evaluate flag target .int).value = .ok v) {i : Int64} :
    e.Gives .int flag target i ↔ Integer.Spelled v.value.toList i.toInt :=
  (gives_iff h).trans (mapError_eq_ok_iff.trans Integer.read_eq_ok_iff)

theorem gives_json_iff (h : (e.evaluate flag target .json).value = .ok v)
    {ms : List (String × Json)} :
    e.Gives .json flag target ms ↔
      ∃ members, Holds v.value (.object members) ∧ (Json.object members).lastWins = .object ms :=
  (gives_iff h).trans (mapError_eq_ok_iff.trans Accessor.readObject_eq_ok_iff)

theorem fallsBack_int_iff (h : (e.evaluate flag target .int).value = .ok v) :
    e.FallsBack .int flag target ↔ ∀ i : Int64, ¬Integer.Spelled v.value.toList i.toInt :=
  (fallsBack_iff h).trans (forall_congr' fun _ => not_congr (gives_int_iff h))

theorem fallsBack_json_iff (h : (e.evaluate flag target .json).value = .ok v) :
    e.FallsBack .json flag target ↔ ∀ members, ¬Holds v.value (.object members) := by
  refine (fallsBack_iff h).trans ⟨fun hnone members hholds => ?_, fun hnone ms hgives => ?_⟩
  · exact hnone _ ((gives_json_iff h).2 ⟨members, hholds, rfl⟩)
  · obtain ⟨members, hholds, -⟩ := (gives_json_iff h).1 hgives
    exact hnone members hholds

end

/-- **Typed values survive as texts.** An integer is given where the text spells one that fits in 64
signed bits, in particular where it is the integer's decimal text; the text itself is given as a
string; it is true when it is `true` in any letter case and false otherwise; and an object is given
where the text holds it, with whatever blanks and escapes, in particular where it is the object's
written form. The default stands in for just the texts that spell no such integer, and for those
that hold no object. -/
theorem typed_values_survive (e : Evaluator) (flag : String) (target : Target) (v : Variation) :
    ((e.evaluate flag target .int).value = .ok v →
      (∀ i : Int64, v.value = i.toInt.repr → e.Gives .int flag target i) ∧
      (∀ i : Int64, e.Gives .int flag target i ↔ Integer.Spelled v.value.toList i.toInt) ∧
      (e.FallsBack .int flag target ↔ ∀ i : Int64, ¬Integer.Spelled v.value.toList i.toInt)) ∧
    ((e.evaluate flag target .string).value = .ok v → e.Gives .string flag target v.value) ∧
    ((e.evaluate flag target .boolean).value = .ok v →
      (Text.InAnyCase "true" v.value → e.Gives .bool flag target true) ∧
      (¬Text.InAnyCase "true" v.value → e.Gives .bool flag target false)) ∧
    ((e.evaluate flag target .json).value = .ok v →
      (∀ members, (Json.object members).DistinctKeys → Holds v.value (.object members) →
        e.Gives .json flag target members) ∧
      (∀ members, (Json.object members).DistinctKeys → Plain Json.maxDepth (.object members) →
        v.value = (Json.object members).toText → e.Gives .json flag target members) ∧
      (∀ ms, e.Gives .json flag target ms ↔
        ∃ members, Holds v.value (.object members) ∧ (Json.object members).lastWins = .object ms) ∧
      (e.FallsBack .json flag target ↔ ∀ members, ¬Holds v.value (.object members))) := by
  refine ⟨fun h => ⟨fun i hi => ?_, fun i => gives_int_iff h, fallsBack_int_iff h⟩,
    fun h => gives_of_decode h rfl, fun h => ⟨fun hcase => ?_, fun hcase => ?_⟩, fun h => ?_⟩
  · rw [gives_int_iff h, hi]
    exact Integer.spelled_repr i.toInt
  · exact (gives_bool_iff h).2 (iff_of_true rfl hcase)
  · exact (gives_bool_iff h).2 (iff_of_false Bool.false_ne_true hcase)
  · have hheld : ∀ members, (Json.object members).DistinctKeys → Holds v.value (.object members) →
        e.Gives .json flag target members := fun members hkeys hholds =>
      (gives_json_iff h).2 ⟨members, hholds, hkeys.lastWins_eq⟩
    refine ⟨hheld, fun members hkeys hplain htext => ?_, fun ms => gives_json_iff h,
      fallsBack_json_iff h⟩
    exact hheld members hkeys (htext ▸ hplain.holds (Nat.le_refl _))

/-! ## Gauges -/

/-- An evaluator with one flag, which serves the text. -/
def gauge (kind : Flag.Kind) (text : String) : Evaluator :=
  .ofSnapshot ⟨[Flag.new "gauge" kind [.new "reading" text] "reading"], []⟩

theorem gauge_serves (kind : Flag.Kind) (text : String) (target : Target) :
    ((gauge kind text).evaluate "gauge" target kind).value = .ok (.new "reading" text) :=
  (evaluates_iff Segment.acyclic_empty).1 ⟨_, .met rfl rfl .done (.off rfl)⟩

/-- A sounding by lead line, as deep as a number of 64 bits goes. -/
def sounding : List (String × Json) := [("depth", .int 18446744073709551615)]

theorem sounding_plain : (Json.object sounding).Plain Json.maxDepth :=
  .object (List.forall_mem_singleton.2 (.int ⟨by decide, by decide⟩))

theorem sounding_distinct : (Json.object sounding).DistinctKeys :=
  Json.distinctKeys_object.2 ⟨by simp [sounding],
    List.forall_mem_singleton.2 fun _ hpart => by cases hpart⟩

theorem gauges_are_read :
    (∀ kind text, ((gauge kind text).evaluate "gauge" (.new "ann") kind).value =
      .ok (.new "reading" text)) ∧
    (gauge .int Int64.minValue.toInt.repr).Gives .int "gauge" (.new "ann") Int64.minValue ∧
    (gauge .int "--7").FallsBack .int "gauge" (.new "ann") ∧
    (gauge .string "--7").Gives .string "gauge" (.new "ann") "--7" ∧
    (gauge .boolean "TrUe").Gives .bool "gauge" (.new "ann") true ∧
    (gauge .json (Json.object sounding).toText).Gives .json "gauge" (.new "ann") sounding := by
  have hserves : ∀ kind text, ((gauge kind text).evaluate "gauge" (.new "ann") kind).value =
      .ok (.new "reading" text) := fun kind text => gauge_serves kind text _
  have hread : ∀ kind text, _ := fun kind text =>
    typed_values_survive (gauge kind text) "gauge" (.new "ann") (.new "reading" text)
  have hsigns : ¬Json.Digits ['-', '7'] := Integer.not_digits_cons rfl _
  have hcase : Text.InAnyCase "true" "TrUe" :=
    .cons (.inr rfl) (.cons (.inl rfl) (.cons (.inr rfl) (.cons (.inl rfl) .nil)))
  refine ⟨hserves, ?_, ?_, ?_, ?_, ?_⟩
  · exact ((hread .int _).1 (hserves .int _)).1 Int64.minValue rfl
  · exact ((hread .int _).1 (hserves .int _)).2.2.2 fun i hi =>
      hsigns (Integer.spelled_minus_iff.1 hi).1
  · exact (hread .string _).2.1 (hserves .string _)
  · exact ((hread .boolean _).2.2.1 (hserves .boolean _)).1 hcase
  · exact ((hread .json _).2.2.2 (hserves .json _)).2.1 sounding sounding_distinct sounding_plain
      rfl

end Evaluator
end FeatureFlags
