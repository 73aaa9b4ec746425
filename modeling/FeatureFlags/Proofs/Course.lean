import FeatureFlags.Evaluation
import FeatureFlags.Proofs.Nesting

/-!
# The course of an evaluation

The rules below say what an evaluation comes to, and which calls it makes, without a measure, a
depth or an order of recursion: a derivation is a finished evaluation. The last argument of every
rule lists the calls that are made on the way.

**Relations.**
* `Answers`: whether a target is a member of segments, or matches clauses.
* `OverrideGives`, `RuleGives`, `Resolves`: what a flag serves, prerequisites apart.
* `Checks`, `Evaluates`: what a check of prerequisites and an evaluation come to.
-/
namespace FeatureFlags

open Segment

/-- Whether an override names a target; the empty identifier is never named. -/
def Override.names (o : Override) (target : Target) : Bool :=
  !target.identifier.isEmpty && listsTarget o.targets target.identifier

/-- The prerequisites of a flag, none being as good as an empty list. -/
def Flag.requirements (f : Flag) : List Prerequisite := f.prerequisites.getD []

namespace Course

/-- A call that can lead to further calls of its kind. -/
inductive Call where
  /-- The prerequisites of the last flag on the path are checked for the sake of the ones before. -/
  | check (path : List String)
  /-- The rules of the last segment in the chain are asked inside those of the ones before. -/
  | rules (chain : List String)

/-- A question about a target, asked inside the rules of the segments in the chain, has an
answer. -/
inductive Answers (segments : Table Segment) (target : Target) :
    List String → Question → Bool → List Call → Prop where
  | noSegment {chain} : Answers segments target chain (.member []) false []
  | missing {chain id ids} (hs : segments.get? id = none) :
      Answers segments target chain (.member (id :: ids)) false []
  | listed {chain id ids segment b} (hs : segments.get? id = some segment)
      (hl : segment.listing? target.identifier = some b) :
      Answers segments target chain (.member (id :: ids)) b []
  | unruled {chain id ids segment b calls} (hs : segments.get? id = some segment)
      (hl : segment.listing? target.identifier = none) (hr : segment.ruleClauses = [])
      (rest : Answers segments target chain (.member ids) b calls) :
      Answers segments target chain (.member (id :: ids)) b calls
  | matched {chain id ids segment calls} (hs : segments.get? id = some segment)
      (hl : segment.listing? target.identifier = none) (hr : segment.ruleClauses ≠ [])
      (rules : Answers segments target (chain ++ [id]) (.clauses segment.ruleClauses) true calls) :
      Answers segments target chain (.member (id :: ids)) true (.rules (chain ++ [id]) :: calls)
  | unmatched {chain id ids segment b calls calls'} (hs : segments.get? id = some segment)
      (hl : segment.listing? target.identifier = none) (hr : segment.ruleClauses ≠ [])
      (rules : Answers segments target (chain ++ [id]) (.clauses segment.ruleClauses) false calls)
      (rest : Answers segments target chain (.member ids) b calls') :
      Answers segments target chain (.member (id :: ids)) b
        (.rules (chain ++ [id]) :: (calls ++ calls'))
  | noClause {chain} : Answers segments target chain (.clauses []) true []
  | fails {chain c cs} (hop : c.operator ≠ .segmentMatch) (hc : c.holds target = false) :
      Answers segments target chain (.clauses (c :: cs)) false []
  | holds {chain c cs b calls} (hop : c.operator ≠ .segmentMatch) (hc : c.holds target = true)
      (rest : Answers segments target chain (.clauses cs) b calls) :
      Answers segments target chain (.clauses (c :: cs)) b calls
  | outside {chain c cs calls} (hop : c.operator = .segmentMatch)
      (asked : Answers segments target chain (.member c.values) false calls) :
      Answers segments target chain (.clauses (c :: cs)) false calls
  | inside {chain c cs b calls calls'} (hop : c.operator = .segmentMatch)
      (asked : Answers segments target chain (.member c.values) true calls)
      (rest : Answers segments target chain (.clauses cs) b calls') :
      Answers segments target chain (.clauses (c :: cs)) b (calls ++ calls')

/-- The overrides assign a variation to a target, or none. -/
inductive OverrideGives (segments : Table Segment) (target : Target) :
    List Override → Option String → List Call → Prop where
  | nothing : OverrideGives segments target [] none []
  | named {o os} (hn : o.names target = true) :
      OverrideGives segments target (o :: os) (some o.variation) []
  | inside {o os calls} (hn : o.names target = false)
      (asked : Answers segments target [] (.member (o.segments.getD [])) true calls) :
      OverrideGives segments target (o :: os) (some o.variation) calls
  | outside {o os v calls calls'} (hn : o.names target = false)
      (asked : Answers segments target [] (.member (o.segments.getD [])) false calls)
      (rest : OverrideGives segments target os v calls') :
      OverrideGives segments target (o :: os) v (calls ++ calls')

/-- The rules of a flag, in the order in which they are tried, serve a variation to a target, or
none. -/
inductive RuleGives (segments : Table Segment) (fallback : String) (target : Target)
    (flag : String) :
    List Rule → Option String → List Call → Prop where
  | nothing : RuleGives segments fallback target flag [] none []
  | unmatched {r rs v calls calls'}
    (asked : Answers segments target [] (.clauses r.clauses) false calls)
      (rest : RuleGives segments fallback target flag rs v calls') :
      RuleGives segments fallback target flag (r :: rs) v (calls ++ calls')
  | distribution {r rs d calls} (asked : Answers segments target [] (.clauses r.clauses) true calls)
      (hd : r.serve.distribution = some d) :
      RuleGives segments fallback target flag (r :: rs) (d.serve flag target fallback) calls
  | fixed {r rs v calls} (asked : Answers segments target [] (.clauses r.clauses) true calls)
      (hd : r.serve.distribution = none) (hv : r.serve.variation = some v) :
      RuleGives segments fallback target flag (r :: rs) (some v) calls
  | idle {r rs v calls calls'} (asked : Answers segments target [] (.clauses r.clauses) true calls)
      (hd : r.serve.distribution = none) (hv : r.serve.variation = none)
      (rest : RuleGives segments fallback target flag rs v calls') :
      RuleGives segments fallback target flag (r :: rs) v (calls ++ calls')

/-- A flag serves a target, prerequisites apart. -/
inductive Resolves (segments : Table Segment) (fallback : String) (target : Target) (f : Flag) :
    Except EvaluationError Variation → List Call → Prop where
  | off (hon : f.isOn = false) :
      Resolves segments fallback target f (f.settle (some f.offVariation)) []
  | overridden {v calls} (hon : f.isOn = true)
      (os : OverrideGives segments target (f.overrides.getD []) (some v) calls) :
      Resolves segments fallback target f (f.settle (some v)) calls
  | ruled {v calls calls'} (hon : f.isOn = true)
      (os : OverrideGives segments target (f.overrides.getD []) none calls)
      (rs : RuleGives segments fallback target f.identifier (Rule.byPriority (f.rules.getD []))
        (some v)
        calls') :
      Resolves segments fallback target f (f.settle (some v)) (calls ++ calls')
  | default {calls calls'} (hon : f.isOn = true)
      (os : OverrideGives segments target (f.overrides.getD []) none calls)
      (rs : RuleGives segments fallback target f.identifier (Rule.byPriority (f.rules.getD [])) none
        calls') :
      Resolves segments fallback target f
        (f.settle
          ((f.defaultServe.distribution.bind fun d => d.serve f.identifier target fallback).or
          f.defaultServe.variation))
        (calls ++ calls')

/-- The check of a list of prerequisites of the last flag on a path has an outcome. -/
inductive Checks (defs : Definitions) (fallback : String) (target : Target) :
    List String → List Prerequisite → Except EvaluationError Bool → List Call → Prop where
  | done {path} : Checks defs fallback target path [] (.ok true) []
  | cycle {path p ps} (hp : p.flag ∈ path) :
      Checks defs fallback target path (p :: ps)
        (.error (.cyclicPrerequisite p.flag (path ++ [p.flag]))) []
  | missing {path p ps} (hp : p.flag ∉ path) (hf : defs.flags.get? p.flag = none) :
      Checks defs fallback target path (p :: ps) (.ok true) []
  | unresolved {path p ps f cause calls} (hp : p.flag ∉ path) (hf : defs.flags.get? p.flag = some f)
      (hr : Resolves defs.segments fallback target f (.error cause) calls) :
      Checks defs fallback target path (p :: ps) (.ok true) calls
  | refused {path p ps f v calls} (hp : p.flag ∉ path) (hf : defs.flags.get? p.flag = some f)
      (hr : Resolves defs.segments fallback target f (.ok v) calls)
      (hv : v.identifier ∉ p.variations) :
      Checks defs fallback target path (p :: ps) (.ok false) calls
  | stopped {path p ps f v outcome calls calls'} (hp : p.flag ∉ path)
      (hf : defs.flags.get? p.flag = some f)
      (hr : Resolves defs.segments fallback target f (.ok v) calls)
      (hv : v.identifier ∈ p.variations)
      (nested : Checks defs fallback target (path ++ [p.flag]) f.requirements outcome calls')
      (ho : outcome ≠ .ok true) :
      Checks defs fallback target path (p :: ps) outcome
        (calls ++ .check (path ++ [p.flag]) :: calls')
  | passed {path p ps f v outcome calls calls' calls''} (hp : p.flag ∉ path)
      (hf : defs.flags.get? p.flag = some f)
      (hr : Resolves defs.segments fallback target f (.ok v) calls)
      (hv : v.identifier ∈ p.variations)
      (nested : Checks defs fallback target (path ++ [p.flag]) f.requirements (.ok true) calls')
      (rest : Checks defs fallback target path ps outcome calls'') :
      Checks defs fallback target path (p :: ps) outcome
        (calls ++ .check (path ++ [p.flag]) :: (calls' ++ calls''))

/-- An evaluation of the flag with an identifier, asked for as a kind, has an outcome. -/
inductive Evaluates (source : Source) (fallback : String) (target : Target) (id : String)
    (kind : Flag.Kind) : Except EvaluationError Variation → List Call → Prop where
  | missing (hf : source.flags.get? id = none) :
      Evaluates source fallback target id kind (.error (source.flagFailure id)) []
  | mismatch {f} (hf : source.flags.get? id = some f) (hk : f.kind ≠ kind) :
      Evaluates source fallback target id kind (.error (.kindMismatch id kind f.kind)) []
  | cyclic {f cause calls} (hf : source.flags.get? id = some f) (hk : f.kind = kind)
      (check : Checks source.toDefinitions fallback target [f.identifier] f.requirements
        (.error cause) calls) :
      Evaluates source fallback target id kind (.error cause) (.check [f.identifier] :: calls)
  | unmet {f calls} (hf : source.flags.get? id = some f) (hk : f.kind = kind)
      (check : Checks source.toDefinitions fallback target [f.identifier] f.requirements
        (.ok false) calls) :
      Evaluates source fallback target id kind (f.findVariation f.offVariation)
        (.check [f.identifier] :: calls)
  | met {f outcome calls calls'} (hf : source.flags.get? id = some f) (hk : f.kind = kind)
      (check : Checks source.toDefinitions fallback target [f.identifier] f.requirements
        (.ok true) calls)
      (hr : Resolves source.segments fallback target f outcome calls') :
      Evaluates source fallback target id kind outcome (.check [f.identifier] :: (calls ++ calls'))

/-- The only rule of a flag without overrides serves its fixed variation to those who match it. -/
theorem Resolves.by_only_rule {segments : Table Segment} {fallback : String} {target : Target}
    {f : Flag} {r : Rule} {v : String} {calls : List Call} (hon : f.isOn = true)
    (hoverrides : f.overrides.getD [] = [])
    (hrules : f.rules.getD [] = [r])
    (asked : Answers segments target [] (.clauses r.clauses) true calls)
    (hd : r.serve.distribution = none) (hv : r.serve.variation = some v) :
    Resolves segments fallback target f (f.settle (some v)) calls := by
  have hos : OverrideGives segments target (f.overrides.getD []) none [] := by
    rw [hoverrides]
    exact .nothing
  have horder : Rule.byPriority (f.rules.getD []) = [r] := by
    rw [hrules]
    exact List.mergeSort_singleton r
  have hrs : RuleGives segments fallback target f.identifier (Rule.byPriority (f.rules.getD []))
    (some v)
      calls := by
    rw [horder]
    exact .fixed asked hd hv
  exact .ruled hon hos hrs

end Course
end FeatureFlags
