import FeatureFlags.Prerequisites

/-!
# Evaluation

A flag is looked up and has to be of the kind that is asked for. With its prerequisites met it
serves what targeting gives, and otherwise its off variation. Success is logged and reported.

Mirrors the engine's `evaluate`.
-/
namespace FeatureFlags.Evaluator

def logTarget : String := "pennant::evaluator"

/-- The record of serving the off variation because of prerequisites. -/
def unmet (flag : Flag) (target : Target) : Log.Record :=
  .plain .debug logTarget
    ("Prerequisites of " ++ flag.identifier ++ " not met for " ++ target.identifier ++
      ", serving off variation")

/-- The record of a success. -/
def resolved (o : Observation) : Log.Record :=
  ⟨.debug, logTarget, "variation resolved",
    [("flag", o.flag), ("target", o.target), ("variation", o.variation)]⟩

/-- The variation for a target once the flag is known. -/
def serve (e : Evaluator) (flag : Flag) (target : Target) :
    Traced (Except EvaluationError Variation) := do
  match ← e.checkPrerequisites flag target with
  | .error cause => return .error cause
  | .ok true => e.resolve flag target
  | .ok false =>
    e.announce (unmet flag target)
    return flag.findVariation flag.offVariation

/-- The flag with this identifier, if it is of the kind. -/
def find (e : Evaluator) (identifier : String) (kind : Flag.Kind) : Except EvaluationError Flag :=
  match e.source.lookupFlag identifier with
  | .error cause => .error cause
  | .ok flag =>
    if flag.kind = kind then .ok flag else .error (.kindMismatch identifier kind flag.kind)

/-- The variation that a flag of a kind serves a target. -/
def evaluate (e : Evaluator) (identifier : String) (target : Target) (kind : Flag.Kind) :
    Traced (Except EvaluationError Variation) :=
  match e.find identifier kind with
  | .error cause => pure (.error cause)
  | .ok flag => do
    match ← e.serve flag target with
    | .error cause => return .error cause
    | .ok variation =>
      let observation := ⟨flag, target, variation⟩
      e.emit (resolved observation)
      e.observe observation
      return .ok variation

end FeatureFlags.Evaluator
