import FeatureFlags.Clause

/-!
# Segments

A segment is a reusable group of targets: some are excluded or included by identifier, and the
others belong to it when they match all of its rule clauses.

Mirrors the engine's `Segment` and `TargetRef`, with the builders.
-/
namespace FeatureFlags

/-- A target named in the lists of segments and overrides. -/
structure TargetRef where
  identifier : String
  name : Option String
  deriving DecidableEq, Repr, Inhabited

/-- The reference to a target by its identifier alone. -/
def TargetRef.new (identifier : String) : TargetRef := ⟨identifier, none⟩

/-- Whether an optional list names a target. -/
def listsTarget (refs : Option (List TargetRef)) (identifier : String) : Bool :=
  match refs with
  | some refs => refs.any fun r => r.identifier == identifier
  | none => false

/-- A reusable group of targets. -/
structure Segment where
  identifier : String
  name : String
  excluded : Option (List TargetRef)
  included : Option (List TargetRef)
  /-- Clauses that all have to match; none or an empty list makes no target a member. -/
  rules : Option (List Clause)
  deriving DecidableEq, Repr, Inhabited

namespace Segment

def excludes (s : Segment) (identifier : String) : Bool := listsTarget s.excluded identifier

def includes (s : Segment) (identifier : String) : Bool := listsTarget s.included identifier

/-- The rule clauses, when there is at least one. -/
def ruleClauses (s : Segment) : List Clause := s.rules.getD []

/-! ## Building segments -/

/-- The segment with this identifier, which is also its name. -/
def new (identifier : String) : Segment := ⟨identifier, identifier, none, none, none⟩

def withIncluded (s : Segment) (identifier : String) : Segment :=
  { s with included := some (s.included.getD [] ++ [.new identifier]) }

def withExcluded (s : Segment) (identifier : String) : Segment :=
  { s with excluded := some (s.excluded.getD [] ++ [.new identifier]) }

def withRule (s : Segment) (clause : Clause) : Segment :=
  { s with rules := some (s.rules.getD [] ++ [clause]) }

end Segment
end FeatureFlags
