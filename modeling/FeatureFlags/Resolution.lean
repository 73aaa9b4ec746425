import FeatureFlags.Bucket
import FeatureFlags.Membership

/-!
# Which variation a flag serves

A flag that is off serves its off variation. One that is on tries, in order, the overrides, the
rules, the distribution of the default serve and its variation; the first that names a variation
decides, even if the flag has no such variation. Prerequisites are not looked at here.

Mirrors the engine's `evaluate_flag`, `evaluate_variation_map`, `evaluate_rules`, `by_priority` and
`find_variation`.
-/
namespace FeatureFlags

/-- The rules in the order in which they are tried: by priority, and as listed where that is
equal. -/
def Rule.byPriority (rules : List Rule) : List Rule :=
  rules.mergeSort fun r s => r.priority ≤ s.priority

/-- The variation that a flag has under an identifier. -/
def Flag.findVariation (f : Flag) (identifier : String) : Except EvaluationError Variation :=
  match f.variation? identifier with
  | some variation => .ok variation
  | none => .error (.variationNotFound f.identifier identifier)

/-- The outcome of settling on an identifier, or on none; the empty identifier counts as none. -/
def Flag.settle (f : Flag) (resolved : Option String) : Except EvaluationError Variation :=
  match resolved with
  | some identifier =>
    if identifier.isEmpty then .error (.noVariationResolved f.identifier)
    else f.findVariation identifier
  | none => .error (.noVariationResolved f.identifier)

namespace Evaluator

/-- Whether an override is for a target: it names the target, whose identifier may not be empty
then, or a segment that the target is a member of. -/
def overrides (e : Evaluator) (target : Target) (o : Override) : Traced Bool :=
  if !target.identifier.isEmpty && listsTarget o.targets target.identifier then pure true
  else
    match o.segments with
    | some segments => e.inSegments target segments
    | none => pure false

/-- The variation of the first override for a target. -/
def overrideFor (e : Evaluator) (target : Target) : List Override → Traced (Option String)
  | [] => pure none
  | o :: rest => do
    if ← e.overrides target o then return some o.variation
    e.overrideFor target rest

/-- What the default or a matching rule hands out: nothing at all if it serves neither a
distribution nor a variation, and otherwise the outcome, which a distribution may leave open. -/
def handOut? (e : Evaluator) (flag : String) (target : Target) (serve : Serve) :
    Option (Option String) :=
  match serve.distribution, serve.variation with
  | some distribution, _ => some (distribution.serve flag target e.config.bucketFallback)
  | none, some variation => some (some variation)
  | none, none => none

/-- The variation that the first matching rule serves; rules that serve nothing are passed over. -/
def ruleFor (e : Evaluator) (flag : String) (target : Target) : List Rule → Traced (Option String)
  | [] => pure none
  | rule :: rest => do
    if ← e.matchesAll target rule.clauses then
      match e.handOut? flag target rule.serve with
      | some outcome => return outcome
      | none => e.ruleFor flag target rest
    else e.ruleFor flag target rest

/-- The variation that the rules serve, whatever order they are listed in. -/
def rulesFor (e : Evaluator) (flag : String) (target : Target) (rules : List Rule) :
    Traced (Option String) :=
  e.ruleFor flag target (Rule.byPriority rules)

/-- The variation that the default serves: that of the distribution, or the fixed one where it gives
none. -/
def defaultFor (e : Evaluator) (flag : String) (target : Target) (serve : Serve) : Option String :=
  (serve.distribution.bind fun d => d.serve flag target e.config.bucketFallback).or serve.variation

/-- The identifier of the variation for a target, before it is looked up in the flag. -/
def choose (e : Evaluator) (flag : Flag) (target : Target) : Traced (Option String) := do
  if !flag.isOn then return some flag.offVariation
  if let some identifier ← e.overrideFor target (flag.overrides.getD []) then return some identifier
  if let some identifier ← e.rulesFor flag.identifier target (flag.rules.getD []) then
    return some identifier
  return e.defaultFor flag.identifier target flag.defaultServe

/-- The variation that a flag serves a target, prerequisites apart. -/
def resolve (e : Evaluator) (flag : Flag) (target : Target) :
    Traced (Except EvaluationError Variation) := do
  return flag.settle (← e.choose flag target)

end Evaluator
end FeatureFlags
