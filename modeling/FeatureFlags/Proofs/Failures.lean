import FeatureFlags.Proofs.Dependencies

/-!
# How an evaluation fails

An evaluation that finds its flag fails because the flag is of another kind, because its
prerequisites lead into a cycle, or because it has no variation to serve. A lookup that fails on the
way, of another flag or of a segment, is never the cause.

**Results.**
* `unservable_of_findVariation`, `unservable_of_settle`: a flag that cannot be served says so about
  itself.
* `failure_of_evaluate`: the causes for which an evaluation fails that finds its flag.
-/
namespace FeatureFlags

open Segment

/-- Why a flag has no variation to serve. -/
inductive Flag.Unservable (f : Flag) : EvaluationError → Prop where
  /-- Nothing is settled on. -/
  | nothing : f.Unservable (.noVariationResolved f.identifier)
  /-- The flag has no variation under the identifier that is settled on. -/
  | unknown (variation : String) : f.Unservable (.variationNotFound f.identifier variation)

theorem Flag.unservable_of_findVariation {f : Flag} {id : String} {cause : EvaluationError}
    (h : f.findVariation id = .error cause) : f.Unservable cause := by
  unfold findVariation at h
  split at h
  · cases h
  · cases h
    exact .unknown id

theorem Flag.unservable_of_settle {f : Flag} {resolved : Option String} {cause : EvaluationError}
    (h : f.settle resolved = .error cause) : f.Unservable cause := by
  unfold settle at h
  split at h
  · split at h
    · cases h
      exact .nothing
    · exact unservable_of_findVariation h
  · cases h
    exact .nothing

namespace Evaluator

/-- Why the evaluation of an identifier fails that a flag is found under. -/
inductive Failure (e : Evaluator) (target : Target) (id : String) (f : Flag) (kind : Flag.Kind) :
    EvaluationError → Prop where
  | mismatch (hk : f.kind ≠ kind) : Failure e target id f kind (.kindMismatch id kind f.kind)
  | cyclic {flag chain}
      (hcheck : (e.checkPrerequisites f target).value = .error (.cyclicPrerequisite flag chain)) :
      Failure e target id f kind (.cyclicPrerequisite flag chain)
  | unservable {cause} (hf : f.Unservable cause) : Failure e target id f kind cause

variable {e : Evaluator} {target : Target}

theorem failure_of_evaluate (hac : Acyclic e.source.segments) {id : String} {f : Flag}
    (hf : e.source.flags.get? id = some f) {kind : Flag.Kind} {cause : EvaluationError}
    (h : (e.evaluate id target kind).value = .error cause) : e.Failure target id f kind cause := by
  rw [value_evaluate, hf] at h
  by_cases hk : f.kind = kind
  · simp only [if_pos hk, value_serve] at h
    cases hcheck : (e.checkPrerequisites f target).value with
    | error cause' =>
      rw [hcheck] at h
      cases h
      obtain ⟨flag, chain, rfl⟩ := cyclic_of_error hac hcheck
      exact .cyclic hcheck
    | ok met =>
      rw [hcheck] at h
      cases met with
      | true => exact .unservable (Flag.unservable_of_settle h)
      | false => exact .unservable (Flag.unservable_of_findVariation h)
  · simp only [if_neg hk] at h
    cases h
    exact .mismatch hk

end Evaluator
end FeatureFlags
