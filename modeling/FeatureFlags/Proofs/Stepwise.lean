import FeatureFlags.Evaluation

/-!
# Step by step

What an evaluator computes is put together from single steps, which hand a value on or write a
record. The log decides about records and about nothing else, so under another log the steps are the
same. A relation that holds of each step under the two logs, and of sequences of steps, holds of
everything that is computed.

**Results.**
* `Stepwise.inSegments`, `Stepwise.resolve`, `Stepwise.serve`: such a relation holds of membership,
  of flags and of all that comes before an evaluation is reported.
* `Reporting.evaluate`: it holds of evaluations if it holds of reports as well.
* `observations_evaluate`: an evaluation is reported once if it succeeds, and not at all if it
  fails.
-/
namespace FeatureFlags.Evaluator

/-- The evaluator with another log. -/
def withLog (e : Evaluator) (log : Log.State) : Evaluator := { e with log }

theorem source_withLog (e : Evaluator) (log : Log.State) : (e.withLog log).source = e.source := rfl

theorem handOut?_withLog (e : Evaluator) (log : Log.State) (flag : String) (target : Target)
    (serve : Serve) : (e.withLog log).handOut? flag target serve = e.handOut? flag target serve :=
  rfl

/-- The record tells of an error that a default stands in for. No step of an evaluation writes such
a one. -/
def tellsOfDefault (r : Log.Record) : Bool := r.level == .error && r.target == logTarget

/-- A relation between computations under two logs that holds at single steps and of sequences. -/
structure Stepwise (e : Evaluator) (log : Log.State) (R : ∀ α : Type, Traced α → Traced α → Prop) :
    Prop where
  value : ∀ {α : Type} (a : α), R α (pure a) (pure a)
  sequence : ∀ {α β : Type} {x y : Traced α} {f g : α → Traced β}, R α x y →
    (∀ a, R β (f a) (g a)) →
    R β (x >>= f) (y >>= g)
  record : ∀ r, tellsOfDefault r = false → R Unit (e.emit r) ((e.withLog log).emit r)

namespace Stepwise

variable {e : Evaluator} {log : Log.State} {R : ∀ α : Type, Traced α → Traced α → Prop}
variable (h : e.Stepwise log R) (target : Target)

include h

theorem announce (r : Log.Record) (hr : tellsOfDefault r = false) :
    R Unit (e.announce r) ((e.withLog log).announce r) := by
  rw [announce_eq_emit, announce_eq_emit]
  exact h.record r hr

/-! ## Membership -/

section

variable {m m' : List String → Traced Bool} (hm : ∀ ids, R Bool (m ids) (m' ids))

include hm

theorem clauseMatches (c : Clause) :
    R Bool (Evaluator.clauseMatches m target c) (Evaluator.clauseMatches m' target c) := by
  unfold Evaluator.clauseMatches
  split
  · exact h.value false
  · split
    · exact h.value false
    · exact hm c.values
    · split <;> exact h.value _

theorem clausesMatch (cs : List Clause) :
    R Bool (Evaluator.clausesMatch m target cs) (Evaluator.clausesMatch m' target cs) := by
  induction cs with
  | nil => exact h.value true
  | cons c cs ih =>
    refine h.sequence (h.clauseMatches target hm c) fun matched => ?_
    cases matched with
    | true => exact ih
    | false => exact h.value false

theorem standing (id : String) :
    R Standing (e.standing m target id) ((e.withLog log).standing m' target id) := by
  show R Standing (e.standing m target id) (e.standing m' target id)
  unfold Evaluator.standing
  split
  · exact h.value _
  · split
    · exact h.value _
    · split
      · exact h.value _
      · split
        · exact h.value _
        · refine h.sequence (h.clausesMatch target hm _) fun matched => ?_
          cases matched <;> exact h.value _

omit hm in
theorem tell (id : String) (s : Standing) :
    R Unit (e.tell target id s) ((e.withLog log).tell target id s) := by
  cases s with
  | unavailable cause => exact h.announce _ rfl
  | outside => exact h.value ()
  | _ => exact h.record _ rfl

theorem walkSegments (ids : List String) :
    R Bool (e.walkSegments m target ids) ((e.withLog log).walkSegments m' target ids) := by
  induction ids with
  | nil => exact h.value false
  | cons id rest ih =>
    refine h.sequence (h.standing target hm id) fun s =>
      h.sequence (h.tell target id s) fun _ => ?_
    cases s.decision? with
    | some member => exact h.value member
    | none => exact ih

end

theorem inSegmentsTo (depth : Nat) (ids : List String) :
    R Bool (e.inSegmentsTo target depth ids) ((e.withLog log).inSegmentsTo target depth ids) := by
  induction depth generalizing ids with
  | zero => exact h.value false
  | succ depth ih => exact h.walkSegments target ih ids

theorem inSegments (ids : List String) :
    R Bool (e.inSegments target ids) ((e.withLog log).inSegments target ids) :=
  h.inSegmentsTo target _ ids

theorem matchesAll (cs : List Clause) :
    R Bool (e.matchesAll target cs) ((e.withLog log).matchesAll target cs) :=
  h.clausesMatch target (h.inSegments target) cs

/-! ## Flags -/

theorem overrides (o : Override) :
    R Bool (e.overrides target o) ((e.withLog log).overrides target o) := by
  unfold Evaluator.overrides
  split
  · exact h.value true
  · split
    · exact h.inSegments target _
    · exact h.value false

theorem overrideFor (os : List Override) :
    R (Option String) (e.overrideFor target os) ((e.withLog log).overrideFor target os) := by
  induction os with
  | nil => exact h.value none
  | cons o os ih =>
    refine h.sequence (h.overrides target o) fun matched => ?_
    cases matched with
    | true => exact h.value _
    | false => exact ih

theorem ruleFor (flag : String) (rs : List Rule) :
    R (Option String) (e.ruleFor flag target rs) ((e.withLog log).ruleFor flag target rs) := by
  induction rs with
  | nil => exact h.value none
  | cons r rs ih =>
    refine h.sequence (h.matchesAll target r.clauses) fun matched => ?_
    cases matched with
    | true =>
      rw [if_pos rfl, if_pos rfl, handOut?_withLog]
      cases e.handOut? flag target r.serve with
      | some outcome => exact h.value outcome
      | none => exact ih
    | false => exact ih

theorem choose (f : Flag) :
    R (Option String) (e.choose f target) ((e.withLog log).choose f target) := by
  unfold Evaluator.choose
  cases f.isOn with
  | false => exact h.value _
  | true =>
    refine h.sequence (h.overrideFor target _) fun chosen => ?_
    cases chosen with
    | some v => exact h.value _
    | none =>
      refine h.sequence (h.ruleFor target f.identifier _) fun chosen => ?_
      cases chosen <;> exact h.value _

theorem resolve (f : Flag) :
    R (Except EvaluationError Variation) (e.resolve f target) ((e.withLog log).resolve f target) :=
  h.sequence (h.choose target f) fun _ => h.value _

/-! ## Prerequisites -/

/-- The outer induction is on the flags that are not on the path, the inner one on the list. -/
theorem checkFrom (path : List String) (flag : String) (ps : List Prerequisite) :
    R (Except EvaluationError Bool) (e.checkFrom target path flag ps)
      ((e.withLog log).checkFrom target path flag ps) := by
  induction hn : e.source.flagsOff path using Nat.strongRecOn generalizing path flag ps with
  | ind n ih =>
    induction ps with
    | nil =>
      rw [Evaluator.checkFrom, Evaluator.checkFrom]
      exact h.value _
    | cons p ps ihps =>
      rw [checkFrom_cons, checkFrom_cons]
      by_cases hp : p.flag ∈ path
      · rw [if_pos hp, if_pos hp]
        exact h.value _
      rw [if_neg hp, if_neg hp]
      rw [source_withLog]
      cases hl : e.source.lookupFlag p.flag with
      | error cause => exact h.sequence (h.announce _ rfl) fun _ => h.value _
      | ok found =>
        refine h.sequence (h.resolve target found) fun served => ?_
        cases served with
        | error cause => exact h.sequence (h.announce _ rfl) fun _ => h.value _
        | ok variation =>
          refine h.sequence (h.announce _ rfl) fun _ => ?_
          split
          · exact h.value _
          · split
            · exact ihps
            · refine h.sequence (h.announce _ rfl) fun _ => ?_
              have hlt := Source.flagsOff_append_lt hl hp
              refine h.sequence (ih _ (hn ▸ hlt) _ _ _ rfl) fun outcome => ?_
              split
              · exact ihps
              · exact h.value _

theorem checkPrerequisites (f : Flag) :
    R (Except EvaluationError Bool) (e.checkPrerequisites f target)
      ((e.withLog log).checkPrerequisites f target) := by
  unfold Evaluator.checkPrerequisites
  cases f.prerequisites with
  | none => exact h.value _
  | some ps => exact h.sequence (h.announce _ rfl) fun _ => h.checkFrom target _ _ _

theorem serve (f : Flag) :
    R (Except EvaluationError Variation) (e.serve f target) ((e.withLog log).serve f target) := by
  refine h.sequence (h.checkPrerequisites target f) fun outcome => ?_
  rcases outcome with cause | met
  · exact h.value _
  · cases met with
    | true => exact h.resolve target f
    | false => exact h.sequence (h.announce _ rfl) fun _ => h.value _

end Stepwise

/-! ## Reports -/

/-- A relation between computations under two logs that holds of reports as well. -/
structure Reporting (e : Evaluator) (log : Log.State) (R : ∀ α : Type, Traced α → Traced α → Prop) :
    Prop
    extends e.Stepwise log R where
  report : ∀ o, R Unit (e.observe o) ((e.withLog log).observe o)

theorem Reporting.evaluate {e : Evaluator} {log : Log.State}
    {R : ∀ α : Type, Traced α → Traced α → Prop}
    (h : e.Reporting log R) (id : String) (target : Target) (kind : Flag.Kind) :
    R (Except EvaluationError Variation) (e.evaluate id target kind)
      ((e.withLog log).evaluate id target kind) := by
  have hfind : (e.withLog log).find id kind = e.find id kind := rfl
  unfold Evaluator.evaluate
  rw [hfind]
  cases e.find id kind with
  | error cause => exact h.value _
  | ok f =>
    refine h.sequence (h.serve target f) fun served => ?_
    cases served with
    | error cause => exact h.value _
    | ok variation =>
      exact h.sequence (h.record _ rfl) fun _ => h.sequence (h.report _) fun _ => h.value _

/-- No step before the end of an evaluation reports one. -/
theorem stepwise_unreported (e : Evaluator) :
    e.Stepwise e.log fun _ x _ => x.trace.observations = [] where
  value _ := rfl
  sequence hx hf := by simp [hx, hf]
  record r _ := e.observations_emit r

/-- An evaluation hands the error on for which its flag is not found. -/
theorem value_evaluate_of_lookupFlag_error {e : Evaluator} {target : Target} {id : String}
    {cause : EvaluationError} (h : e.source.lookupFlag id = .error cause) (kind : Flag.Kind) :
    (e.evaluate id target kind).value = .error cause := by
  unfold evaluate find
  rw [h]
  rfl

/-- An evaluation that succeeds has found its flag. -/
theorem exists_lookupFlag_of_evaluate {e : Evaluator} {target : Target} {id : String}
    {kind : Flag.Kind} {v : Variation} (h : (e.evaluate id target kind).value = .ok v) :
    ∃ f, e.source.lookupFlag id = .ok f := by
  cases hf : e.source.lookupFlag id with
  | ok f => exact ⟨f, rfl⟩
  | error cause => cases h.symm.trans (value_evaluate_of_lookupFlag_error hf kind)

/-- An observer sees each evaluation that succeeds, once, with the flag that was looked up, and none
that it leads to. -/
theorem observations_evaluate (e : Evaluator) (id : String) (target : Target) (kind : Flag.Kind) :
    (e.evaluate id target kind).trace.observations =
      match e.source.lookupFlag id, (e.evaluate id target kind).value with
      | .ok f, .ok v => if e.observed then [⟨f, target, v⟩] else []
      | _, _ => [] := by
  unfold evaluate find
  cases e.source.lookupFlag id with
  | error cause => rfl
  | ok f =>
    by_cases hk : f.kind = kind
    · have hserve : (e.serve f target).trace.observations = [] :=
        e.stepwise_unreported.serve target f
      simp only [if_pos hk]
      rw [Traced.value_bind, Traced.trace_bind, Trace.observations_append, hserve, List.nil_append]
      cases (e.serve f target).value with
      | error cause => rfl
      | ok v =>
        simp only [Traced.value_bind, Traced.trace_bind, Trace.observations_append,
          observations_emit, observations_observe, Traced.value_pure, Traced.trace_pure,
          Trace.observations_empty, List.nil_append, List.append_nil]
    · simp only [if_neg hk]
      rfl

end FeatureFlags.Evaluator
