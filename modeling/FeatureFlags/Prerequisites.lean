import FeatureFlags.Resolution
import FeatureFlags.Text.Quoted

/-!
# Prerequisites

The prerequisites of a flag are met when each of the flags they name serves one of the allowed
variations and has its own prerequisites met. The flags on the way from the first one are the path;
a prerequisite that is on it already is a cycle. A prerequisite flag that cannot be looked up or
resolved ends the check of its list as met.

Mirrors the engine's `check_prerequisites` and `check_prerequisites_on_path`.

**Results.**
* `Source.flagsOff_append_lt`: every step down adds a stored flag to the path that was not on it
  before, so the check ends.
* `checkFrom_cons`: what the check does with the first prerequisite on a list.
-/
namespace FeatureFlags

/-- The number of flags that are not on a path. -/
def Source.flagsOff (s : Source) (path : List String) : Nat := s.flags.keys.countP (· ∉ path)

theorem countP_notMem_append {keys path : List String} {key : String} (hkey : key ∈ keys)
    (hpath : key ∉ path) : keys.countP (· ∉ path ++ [key]) < keys.countP (· ∉ path) := by
  induction keys with
  | nil => simp at hkey
  | cons k rest ih =>
    have hle : rest.countP (· ∉ path ++ [key]) ≤ rest.countP (· ∉ path) :=
      List.countP_mono_left fun x _ hx => by simp_all
    have hhead : (if k ∉ path ++ [key] then 1 else 0) ≤ (if k ∉ path then 1 else 0) := by
      by_cases hk : k ∈ path <;> simp [hk]
      split <;> omega
    simp only [List.countP_cons, decide_eq_true_eq]
    rcases List.mem_cons.1 hkey with rfl | h
    · rw [if_neg (by simp), if_pos hpath]
      omega
    · have := ih h
      omega

theorem Source.flagsOff_append_lt {s : Source} {path : List String} {id : String} {flag : Flag}
    (h : s.lookupFlag id = .ok flag) (hpath : id ∉ path) :
    s.flagsOff (path ++ [id]) < s.flagsOff path := by
  refine countP_notMem_append (Table.mem_keys_iff.2 ?_) hpath
  unfold lookupFlag at h
  split at h <;> simp_all

namespace Prerequisite

def logTarget : String := "pennant::prerequisite"

/-- The record of starting on the list of a flag. -/
def checking (flag : String) (prerequisites : List Prerequisite) : Log.Record :=
  .plain .debug logTarget
    ("Checking " ++ toString prerequisites.length ++ " prerequisites of flag " ++ flag)

/-- The record of a prerequisite flag that cannot be looked up. -/
def notRetrieved (p : Prerequisite) (flag : String) (cause : EvaluationError) : Log.Record :=
  .plain .error logTarget
    ("Could not retrieve prerequisite flag " ++ p.flag ++ " of " ++ flag ++ ": " ++ cause.message)

/-- The record of a prerequisite flag that cannot be resolved. -/
def notEvaluated (p : Prerequisite) (flag : String) (cause : EvaluationError) : Log.Record :=
  .plain .error logTarget
    ("Could not evaluate prerequisite flag " ++ p.flag ++ " of " ++ flag ++ ": " ++ cause.message)

/-- The record of what a prerequisite flag serves. -/
def served (p : Prerequisite) (variation : String) (target : Target) : Log.Record :=
  .plain .debug logTarget
    ("Prerequisite flag " ++ p.flag ++ " has variation " ++ variation ++ " for target " ++
      target.identifier ++ ", allowed: " ++ Text.quotedList p.variations)

end Prerequisite

namespace Evaluator

/-- Whether the prerequisites of `flag` are met that are still to be checked; `path` leads from the
first flag to this one. -/
def checkFrom (e : Evaluator) (target : Target) (path : List String) (flag : String) :
    List Prerequisite → Traced (Except EvaluationError Bool)
  | [] => pure (.ok true)
  | p :: rest =>
    if _ : p.flag ∈ path then pure (.error (.cyclicPrerequisite p.flag (path ++ [p.flag])))
    else
      match _ : e.source.lookupFlag p.flag with
      | .error cause => do
        e.announce (p.notRetrieved flag cause)
        return .ok true
      | .ok found => do
        match ← e.resolve found target with
        | .error cause =>
          e.announce (p.notEvaluated flag cause)
          return .ok true
        | .ok variation =>
          e.announce (p.served variation.identifier target)
          if variation.identifier ∉ p.variations then return .ok false
          match found.prerequisites with
          | none => e.checkFrom target path flag rest
          | some prerequisites =>
            e.announce (Prerequisite.checking found.identifier prerequisites)
            match ← e.checkFrom target (path ++ [p.flag]) found.identifier prerequisites with
            | .ok true => e.checkFrom target path flag rest
            | outcome => return outcome
termination_by prerequisites => (e.source.flagsOff path, prerequisites.length)
decreasing_by
  all_goals first
    | exact Prod.Lex.right _ (Nat.lt_succ_self _)
    | exact Prod.Lex.left _ _ (Source.flagsOff_append_lt ‹_› ‹_›)

theorem checkFrom_cons (e : Evaluator) (target : Target) (path : List String) (flag : String)
    (p : Prerequisite) (ps : List Prerequisite) :
    e.checkFrom target path flag (p :: ps) =
      if p.flag ∈ path then pure (.error (.cyclicPrerequisite p.flag (path ++ [p.flag])))
      else
        match e.source.lookupFlag p.flag with
        | .error cause => do
          e.announce (p.notRetrieved flag cause)
          return .ok true
        | .ok found => do
          match ← e.resolve found target with
          | .error cause =>
            e.announce (p.notEvaluated flag cause)
            return .ok true
          | .ok variation =>
            e.announce (p.served variation.identifier target)
            if variation.identifier ∉ p.variations then return .ok false
            match found.prerequisites with
            | none => e.checkFrom target path flag ps
            | some prerequisites =>
              e.announce (Prerequisite.checking found.identifier prerequisites)
              match ← e.checkFrom target (path ++ [p.flag]) found.identifier prerequisites with
              | .ok true => e.checkFrom target path flag ps
              | outcome => return outcome := by
  rw [checkFrom]
  split
  · rfl
  · split
    · next hl => rw [hl]
    · next hl => rw [hl]

/-- Whether the prerequisites of a flag are met, for all of them and all that they depend on. -/
def checkPrerequisites (e : Evaluator) (flag : Flag) (target : Target) :
    Traced (Except EvaluationError Bool) :=
  match flag.prerequisites with
  | none => pure (.ok true)
  | some prerequisites => do
    e.announce (Prerequisite.checking flag.identifier prerequisites)
    e.checkFrom target [flag.identifier] flag.identifier prerequisites

end Evaluator
end FeatureFlags
