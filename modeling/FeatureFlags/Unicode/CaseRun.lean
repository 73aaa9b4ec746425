/-!
# Runs of case mappings

Letters are paired in runs: every code point of a run, or every second one, maps to the code point
at the same distance from the run's target.
-/
namespace FeatureFlags.Unicode

/-- The code points `first`, `first + step`, … up to `last` map to `target`, `target + step`, …. -/
structure CaseRun where
  first : Nat
  last : Nat
  step : Nat
  target : Nat
  deriving DecidableEq, Repr

/-- What a code point maps to in this run, if it is part of it. -/
def CaseRun.map? (r : CaseRun) (c : Nat) : Option Nat :=
  if r.first ≤ c ∧ c ≤ r.last ∧ (c - r.first) % r.step = 0 then some (r.target + (c - r.first))
  else none

/-- The code points of the run with what they map to. -/
def CaseRun.pairs (r : CaseRun) : List (Nat × Nat) :=
  (List.range ((r.last - r.first) / r.step + 1)).map fun i =>
    (r.first + i * r.step, r.target + i * r.step)

/-- What a code point maps to in the first run that has it, and itself if none has. -/
def mapRuns (runs : List CaseRun) (c : Nat) : Nat := (runs.findSome? (·.map? c)).getD c

end FeatureFlags.Unicode
