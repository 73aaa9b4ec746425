import FeatureFlags.Proofs.Adequacy

/-!
# Two ways to the off variation

A flag that is off settles on its off variation, as it would on any other, and the empty identifier
counts as none. A flag whose prerequisites are not met looks the off variation up directly. The two
agree unless the flag has the empty identifier for its off variation.

**Results.**
* `evaluate_eq_turnedOff_iff`: a flag whose prerequisites are not met serves what it would serve
  turned off exactly if its off variation is not the empty identifier.
* `unmet_differs_from_off`: a flag for which the two differ.
-/
namespace FeatureFlags

/-- The flag turned off, without prerequisites. -/
def Flag.turnedOff (f : Flag) : Flag := { f with state := .off, prerequisites := none }

namespace Evaluator

variable {e : Evaluator} {target : Target} {f : Flag}

/-- The evaluator with a flag set among its definitions. -/
def withFlag (e : Evaluator) (f : Flag) : Evaluator :=
  { e with source := { e.source with toDefinitions := e.source.setFlag f } }

theorem value_evaluate_unmet (hf : e.source.flags.get? f.identifier = some f)
    (hunmet : (e.checkPrerequisites f target).value = .ok false) :
    (e.evaluate f.identifier target f.kind).value = f.findVariation f.offVariation := by
  rw [value_evaluate, hf]
  simp only [if_pos, value_serve, hunmet]

theorem value_evaluate_turnedOff :
    ((e.withFlag f.turnedOff).evaluate f.identifier target f.kind).value =
      f.settle (some f.offVariation) := by
  have hget : (e.withFlag f.turnedOff).source.flags.get? f.identifier = some f.turnedOff := by
    show (e.source.flags.insert f.identifier f.turnedOff).get? f.identifier = _
    rw [Table.get?_insert, if_pos rfl]
  rw [value_evaluate, hget]
  simp only [Flag.turnedOff, if_pos]
  rfl

/-- **Unmet and off.** Whatever its variations, a flag whose prerequisites are not met serves what
it would serve turned off, or fails in the same way, exactly if its off variation is not the empty
identifier. -/
theorem evaluate_eq_turnedOff_iff (e : Evaluator) (target : Target) (f : Flag)
    (hf : e.source.flags.get? f.identifier = some f)
    (hunmet : (e.checkPrerequisites f target).value = .ok false) :
    (e.evaluate f.identifier target f.kind).value =
        ((e.withFlag f.turnedOff).evaluate f.identifier target f.kind).value ↔
      f.offVariation ≠ "" := by
  rw [value_evaluate_unmet hf hunmet, value_evaluate_turnedOff, Flag.settle]
  by_cases hoff : f.offVariation = ""
  · -- one side has no variation to look up, the other looks the empty identifier up
    rw [hoff]
    refine iff_of_false (fun heq => ?_) (by simp)
    unfold Flag.findVariation at heq
    cases hv : f.variation? "" <;> simp [hv] at heq
  · rw [if_neg (by simpa using hoff)]
    exact iff_of_true rfl hoff

/-- A flag that waits for a gate, with its off variation to be chosen. -/
def door (off : String) : Flag :=
  { (Flag.boolean "door").withPrerequisite ⟨"gate", ["true"]⟩ with offVariation := off }

/-- The door, and a gate that is off. -/
def shut (off : String) : Evaluator := .ofSnapshot ⟨[door off, Flag.boolean "gate"], []⟩

theorem shut_unmet (off : String) (target : Target) :
    ((shut off).checkPrerequisites (door off) target).value = .ok false := by
  rw [value_checkPrerequisites]
  show ((shut off).checkFrom target ["door"] "door" [⟨"gate", ["true"]⟩]).value = _
  rw [value_checkFrom_cons]
  rfl

theorem unmet_agrees_with_off :
    (shut "false").source.flags.get? "door" = some (door "false") ∧
      ((shut "false").checkPrerequisites (door "false") (.new "user")).value = .ok false ∧
      ((shut "false").evaluate "door" (.new "user") .boolean).value =
        (((shut "false").withFlag (door "false").turnedOff).evaluate "door"
          (.new "user") .boolean).value :=
  ⟨rfl, shut_unmet _ _,
    (evaluate_eq_turnedOff_iff (shut "false") (.new "user") (door "false") rfl (shut_unmet _ _)).2
      (by decide)⟩

/-- Unmet, the door looks the empty identifier up; off, it has no variation at all. -/
theorem unmet_differs_from_off :
    (shut "").source.flags.get? "door" = some (door "") ∧
      ((shut "").checkPrerequisites (door "") (.new "user")).value = .ok false ∧
      ((shut "").evaluate "door" (.new "user") .boolean).value ≠
        (((shut "").withFlag (door "").turnedOff).evaluate "door"
          (.new "user") .boolean).value := by
  refine ⟨rfl, shut_unmet _ _, ?_⟩
  have hunmet : ((shut "").evaluate "door" (.new "user") .boolean).value =
      .error (.variationNotFound "door" "") :=
    value_evaluate_unmet (f := door "") rfl (shut_unmet _ _)
  have hoff : (((shut "").withFlag (door "").turnedOff).evaluate "door"
    (.new "user") .boolean).value =
      .error (.noVariationResolved "door") :=
    value_evaluate_turnedOff (f := door "")
  rw [hunmet, hoff]
  simp

end Evaluator
end FeatureFlags
