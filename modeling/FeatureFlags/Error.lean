import FeatureFlags.Flag
import FeatureFlags.Json.Fault
import FeatureFlags.Number.Integer
import FeatureFlags.Number.Reading

/-!
# Errors of an evaluation

What can keep a flag from being served, and how each cause is worded.

Mirrors the engine's `EvaluationError`.
-/
namespace FeatureFlags

/-- Why a variation's value is not of the type that was asked for. -/
inductive DecodeFault where
  | integer (fault : Integer.Fault)
  | number (fault : Binary64.Fault)
  | json (fault : Json.Fault)
  deriving DecidableEq, Repr

def DecodeFault.message : DecodeFault → String
  | .integer fault => fault.message
  | .number fault => fault.message
  | .json fault => fault.message

/-- Why an evaluation or a lookup fails. -/
inductive EvaluationError where
  /-- The evaluator was put together without a source of definitions. -/
  | missingQuery
  | flagNotFound (flag : String)
  | segmentNotFound (segment : String)
  | kindMismatch (flag : String) (expected actual : Flag.Kind)
  | variationNotFound (flag variation : String)
  | noVariationResolved (flag : String)
  /-- The flags on the way from the first one back to `flag`. -/
  | cyclicPrerequisite (flag : String) (chain : List String)
  | decode (flag : String) (fault : DecodeFault)
  /-- The source of definitions failed. -/
  | query (message : String)
  | load (fault : Json.Fault)
  deriving DecidableEq, Repr

namespace EvaluationError

/-- The name of the cause. -/
def kindName : EvaluationError → String
  | missingQuery => "MissingQuery"
  | flagNotFound _ => "FlagNotFound"
  | segmentNotFound _ => "SegmentNotFound"
  | kindMismatch .. => "KindMismatch"
  | variationNotFound .. => "VariationNotFound"
  | noVariationResolved _ => "NoVariationResolved"
  | cyclicPrerequisite .. => "CyclicPrerequisite"
  | decode .. => "Decode"
  | query _ => "Query"
  | load _ => "Load"

def chainText (chain : List String) : String := String.intercalate " -> " chain

/-- The wording of an error. -/
def message : EvaluationError → String
  | missingQuery => "Query provider is missing"
  | flagNotFound flag => "Flag not found: " ++ flag
  | segmentNotFound segment => "Segment not found: " ++ segment
  | kindMismatch flag expected actual =>
    "Flag kind mismatch for '" ++ flag ++ "', expected: " ++ expected.name ++ ", got: " ++
      actual.name
  | variationNotFound flag variation =>
    "Variation '" ++ variation ++ "' not found in flag '" ++ flag ++ "'"
  | noVariationResolved flag => "No variation could be resolved for flag: " ++ flag
  | cyclicPrerequisite flag chain =>
    "Cyclic prerequisite on flag '" ++ flag ++ "': " ++ chainText chain
  | decode flag fault => "Failed to decode variation of flag '" ++ flag ++ "': " ++ fault.message
  | query text => "Query error: " ++ text
  | load fault => "Failed to load definitions: " ++ fault.message

end EvaluationError
end FeatureFlags
