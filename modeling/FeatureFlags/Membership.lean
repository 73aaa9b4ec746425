import FeatureFlags.Clause.Compare
import FeatureFlags.Evaluator

/-!
# Membership of segments

A list of segments is walked in order up to the first one that decides. A segment that excludes the
target, or that cannot be looked up, makes it no member; one that includes it, or whose rule clauses
all match, makes it a member. A clause of a segment may ask for membership of other segments in
turn.

Segments that lead back to themselves have no meaning; the walk is cut off once it is deeper than
there are segments, which it never is otherwise.

Mirrors the engine's `is_target_in_segments`, `evaluate_clause` and `evaluate_clauses`.
-/
namespace FeatureFlags

/-- How a target stands to a segment. -/
inductive Standing where
  /-- The segment cannot be looked up. -/
  | unavailable (cause : EvaluationError)
  /-- The exclusion list names the target. -/
  | excluded (segment : Segment)
  /-- The inclusion list names the target. -/
  | included (segment : Segment)
  /-- There are rule clauses, and the target matches them all. -/
  | matched (segment : Segment)
  /-- The segment says nothing about the target. -/
  | outside
  deriving DecidableEq, Repr

namespace Standing

/-- Whether the target is a member, where the segment decides. -/
def decision? : Standing → Option Bool
  | unavailable _ => some false
  | excluded _ => some false
  | included _ => some true
  | matched _ => some true
  | outside => none

def logTarget : String := "pennant::segment"

/-- The record of a segment that decides about a target. -/
def decided (target : Target) (segment : Segment) (message : String) : Log.Record :=
  ⟨.debug, logTarget, message, [("target", target.name), ("segment", segment.name)]⟩

/-- The record of a segment that cannot be looked up. -/
def missing (identifier : String) (cause : EvaluationError) : Log.Record :=
  .plain .debug logTarget ("Segment " ++ identifier ++ " unavailable: " ++ cause.message)

end Standing

namespace Evaluator

/-- Whether a target matches a clause; `isMember` decides about lists of segments. A clause without
values, or about an attribute that the target lacks, does not match. -/
def clauseMatches (isMember : List String → Traced Bool) (target : Target) (clause : Clause) :
    Traced Bool :=
  if clause.values.isEmpty then pure false
  else
    match clause.operator with
    | .unknown => pure false
    | .segmentMatch => isMember clause.values
    | op =>
      match target.attributeText? clause.attr with
      | some text => pure (op.compare text clause.values)
      | none => pure false

/-- Whether a target matches all the clauses, which are tried in order up to the first that
fails. -/
def clausesMatch (isMember : List String → Traced Bool) (target : Target) :
    List Clause → Traced Bool
  | [] => pure true
  | clause :: rest => do
    if ← clauseMatches isMember target clause then clausesMatch isMember target rest
    else return false

/-- How a target stands to a segment; `isMember` decides about segments that its rules name. -/
def standing (e : Evaluator) (isMember : List String → Traced Bool) (target : Target)
    (identifier : String) : Traced Standing :=
  match e.source.lookupSegment identifier with
  | .error cause => pure (.unavailable cause)
  | .ok segment => do
    if segment.excludes target.identifier then return .excluded segment
    if segment.includes target.identifier then return .included segment
    if segment.ruleClauses.isEmpty then return .outside
    if ← clausesMatch isMember target segment.ruleClauses then return .matched segment
    return .outside

/-- Writes what the log says about a standing: a plain message about a segment that is missing, and
a record with fields about one that decides. -/
def tell (e : Evaluator) (target : Target) (identifier : String) : Standing → Traced Unit
  | .unavailable cause => e.announce (Standing.missing identifier cause)
  | .excluded segment =>
    e.emit (Standing.decided target segment "target excluded from segment via exclude list")
  | .included segment =>
    e.emit (Standing.decided target segment "target included in segment via include list")
  | .matched segment =>
    e.emit (Standing.decided target segment "target included in segment via rules")
  | .outside => pure ()

/-- Walks segments in order up to the first that decides. -/
def walkSegments (e : Evaluator) (isMember : List String → Traced Bool) (target : Target) :
    List String → Traced Bool
  | [] => pure false
  | identifier :: rest => do
    let standing ← e.standing isMember target identifier
    e.tell target identifier standing
    match standing.decision? with
    | some member => return member
    | none => walkSegments e isMember target rest

/-- Whether a target is a member of one of the segments, looking into segments within segments up to
a depth. -/
def inSegmentsTo (e : Evaluator) (target : Target) : Nat → List String → Traced Bool
  | 0, _ => pure false
  | depth + 1, identifiers => e.walkSegments (e.inSegmentsTo target depth) target identifiers

/-- Whether a target is a member of one of the segments. -/
def inSegments (e : Evaluator) (target : Target) (identifiers : List String) : Traced Bool :=
  e.inSegmentsTo target (e.source.segmentCount + 1) identifiers

/-- Whether a target matches all the clauses of a rule. -/
def matchesAll (e : Evaluator) (target : Target) (clauses : List Clause) : Traced Bool :=
  clausesMatch (e.inSegments target) target clauses

end Evaluator
end FeatureFlags
