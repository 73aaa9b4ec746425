/-!
# Clauses

A clause is a single condition: an operator that compares an attribute's text with a list of values,
or membership of one of the segments that the values name.

Mirrors the engine's `Operator` and `Clause`.
-/
namespace FeatureFlags

/-- How a clause compares. -/
inductive Operator where
  | startsWith
  | endsWith
  | pattern
  | contains
  | equal
  | equalSensitive
  | oneOf
  | greater
  | segmentMatch
  /-- Any operator that is not known; it never matches. -/
  | unknown
  deriving DecidableEq, Repr, Inhabited

/-- A condition on a target. -/
structure Clause where
  /-- Not looked at by `segmentMatch`. -/
  attr : String
  operator : Operator
  values : List String
  deriving DecidableEq, Repr, Inhabited

/-- The clause for members of any of the segments. -/
def Clause.ofSegments (segments : List String) : Clause := ⟨"", .segmentMatch, segments⟩

end FeatureFlags
