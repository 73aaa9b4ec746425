import FeatureFlags.Proofs.Failures
import FeatureFlags.Proofs.Locality
import FeatureFlags.Proofs.Stepwise

/-!
# Lookups that fail

A source may not know a flag or a segment, or may fail to be asked for it, and says so by one error
or another. What it does find may carry another identifier than the one it was asked for. Only of
the flag that is evaluated does the error go to whoever asked. A prerequisite that cannot be looked
up is passed over and a segment that cannot be ends its list, whichever the error is.

**Results.**
* `value_evaluate_of_alike`, `observations_evaluate_of_alike`: sources that find the same give the
  same evaluations of what they find, and the same reports.
* `Failure.not_fromLookup`: no error of a lookup is the cause for which an evaluation fails that
  finds its flag.
* `failed_lookup_is_absence`: so a lookup that fails is one that finds nothing.
-/
namespace FeatureFlags

open Segment Course

/-- The errors by which a source says that it does not find something. -/
inductive EvaluationError.FromLookup : EvaluationError → Prop where
  | noFlag (id : String) : FromLookup (.flagNotFound id)
  | noSegment (id : String) : FromLookup (.segmentNotFound id)
  | failed (message : String) : FromLookup (.query message)

namespace Source

/-- The sources find the same flags and segments, and may fail differently for all others. -/
structure Alike (s t : Source) : Prop where
  flags : ∀ id f, s.lookupFlag id = .ok f ↔ t.lookupFlag id = .ok f
  segments : ∀ id x, s.lookupSegment id = .ok x ↔ t.lookupSegment id = .ok x

namespace Alike

variable {s t : Source}

theorem of_toDefinitions_eq (h : s.toDefinitions = t.toDefinitions) : s.Alike t where
  flags id f := by rw [lookupFlag_eq_ok, lookupFlag_eq_ok, h]
  segments id x := by rw [lookupSegment_eq_ok, lookupSegment_eq_ok, h]

theorem getFlag_eq (h : s.Alike t) (id : String) : s.flags.get? id = t.flags.get? id :=
  Option.ext fun f => by rw [← lookupFlag_eq_ok, ← lookupFlag_eq_ok, h.flags id f]

theorem getSegment_eq (h : s.Alike t) (id : String) :
    s.segments.get? id = t.segments.get? id :=
  Option.ext fun x => by rw [← lookupSegment_eq_ok, ← lookupSegment_eq_ok, h.segments id x]

theorem lookupFlag_eq_error (h : s.Alike t) {id : String} {cause : EvaluationError}
    (hf : s.lookupFlag id = .error cause) : ∃ cause', t.lookupFlag id = .error cause' := by
  cases hf' : t.lookupFlag id with
  | ok f => cases hf.symm.trans ((h.flags id f).2 hf')
  | error cause' => exact ⟨cause', rfl⟩

theorem acyclic (h : s.Alike t) (hac : Acyclic s.segments) : Acyclic t.segments :=
  hac.of_refers fun x _ ⟨segment, hs, hy⟩ => ⟨segment, (h.getSegment_eq x).trans hs, hy⟩

theorem agree (h : s.Alike t) (target : Target) :
    Scope.all.Agree s.toDefinitions t.toDefinitions target target :=
  ⟨fun id _ => h.getFlag_eq id, fun id _ => h.getSegment_eq id, rfl, fun _ _ => rfl⟩

end Alike
end Source

namespace Evaluator

variable {e e' : Evaluator} {target : Target}

theorem Failure.not_fromLookup {id : String} {f : Flag} {kind : Flag.Kind} {cause : EvaluationError}
    (h : e.Failure target id f kind cause) : ¬ cause.FromLookup := by
  intro hlookup
  cases h with
  | mismatch => cases hlookup
  | cyclic => cases hlookup
  | unservable hf => cases hf <;> cases hlookup

theorem value_evaluate_of_alike (h : e.source.Alike e'.source) (hconfig : e.config = e'.config)
    (hac : Acyclic e.source.segments) {id : String} {f : Flag} (hf : e.source.lookupFlag id = .ok f)
    (kind : Flag.Kind) : (e'.evaluate id target kind).value = (e.evaluate id target kind).value :=
  value_evaluate_of_agree hac (h.acyclic hac) (congrArg _ hconfig) (Scope.closed_all _ _)
    (h.agree target)
    trivial (Source.lookupFlag_eq_ok.1 hf) kind

theorem observations_evaluate_of_alike (h : e.source.Alike e'.source)
    (hconfig : e.config = e'.config) (hobserved : e.observed = e'.observed)
    (hac : Acyclic e.source.segments) (id : String)
    (kind : Flag.Kind) :
    (e'.evaluate id target kind).trace.observations =
      (e.evaluate id target kind).trace.observations := by
  rw [observations_evaluate, observations_evaluate, ← hobserved]
  cases hf : e.source.lookupFlag id with
  | ok f => rw [(h.flags id f).1 hf, value_evaluate_of_alike h hconfig hac hf]
  | error cause =>
    obtain ⟨cause', hf'⟩ := h.lookupFlag_eq_error hf
    rw [hf']

/-! ## Identifiers that fail -/

/-- The evaluator with another source in the place of its own. -/
def withSource (e : Evaluator) (s : Source) : Evaluator := { e with source := s }

section

variable (e : Evaluator) (target : Target) (defs : Definitions) (ids : List String)
  (message id : String)

/-- A source of which some identifiers fail finds what there is without them. -/
theorem alike_failing :
    (e.withSource (defs.without ids).source).source.Alike
      (e.withSource (defs.source.failing ids message)).source :=
  .of_toDefinitions_eq rfl

/-- An identifier that does not fail is looked up as if the failing ones were not there. -/
theorem lookupFlag_failing_of_notMem (hid : id ∉ ids) :
    (defs.source.failing ids message).lookupFlag id = (defs.without ids).source.lookupFlag id := by
  unfold Source.lookupFlag Source.failing Definitions.source
  dsimp only
  rw [if_neg hid]

theorem value_evaluate_failing (hac : Acyclic (defs.without ids).segments) (kind : Flag.Kind) :
    ((e.withSource (defs.source.failing ids message)).evaluate id target kind).value =
      if id ∈ ids then .error (.query message)
      else ((e.withSource (defs.without ids).source).evaluate id target kind).value := by
  by_cases hid : id ∈ ids
  · have hfails := Source.lookupFlag_failing defs.source ids message id
    rw [if_pos hid] at hfails ⊢
    exact value_evaluate_of_lookupFlag_error hfails kind
  · have hsame := lookupFlag_failing_of_notMem defs ids message id hid
    rw [if_neg hid]
    cases hf : (defs.without ids).source.lookupFlag id with
    | ok f => exact value_evaluate_of_alike (alike_failing e defs ids message) rfl hac hf kind
    | error cause =>
      calc ((e.withSource (defs.source.failing ids message)).evaluate id target kind).value
        _ = .error cause := value_evaluate_of_lookupFlag_error (hsame.trans hf) kind
        _ = ((e.withSource (defs.without ids).source).evaluate id target kind).value :=
          (value_evaluate_of_lookupFlag_error hf kind).symm

end

/-- **A lookup that fails finds nothing.** Sources that find the same flags and segments give the
same evaluations and the same reports, whichever errors they give for the others and whichever
identifiers what they find carries. Only where the evaluated flag itself is not found is the result
the source's own error; no error of another lookup comes out. So an evaluation goes over definitions
some identifiers of which fail as it goes over the definitions without them. -/
theorem failed_lookup_is_absence (e e' : Evaluator) (target : Target) (h : e.source.Alike e'.source)
    (hconfig : e.config = e'.config) (hobserved : e.observed = e'.observed)
    (hac : Acyclic e.source.segments) (id : String) (kind : Flag.Kind) :
    (∀ f, e.source.lookupFlag id = .ok f →
      (e'.evaluate id target kind).value = (e.evaluate id target kind).value ∧
      ∀ cause, (e.evaluate id target kind).value = .error cause → ¬ cause.FromLookup) ∧
    (∀ cause, e.source.lookupFlag id = .error cause →
      (e.evaluate id target kind).value = .error cause ∧
      ∃ cause', e'.source.lookupFlag id = .error cause' ∧
        (e'.evaluate id target kind).value = .error cause') ∧
    (e'.evaluate id target kind).trace.observations =
      (e.evaluate id target kind).trace.observations ∧
    ∀ (defs : Definitions) (ids : List String) (message : String),
      Acyclic (defs.without ids).segments →
      ((e.withSource (defs.source.failing ids message)).evaluate id target kind).value =
        (if id ∈ ids then .error (.query message)
          else ((e.withSource (defs.without ids).source).evaluate id target kind).value) ∧
      ((e.withSource (defs.source.failing ids message)).evaluate id target
          kind).trace.observations =
        ((e.withSource (defs.without ids).source).evaluate id target kind).trace.observations := by
  refine ⟨fun f hf => ⟨value_evaluate_of_alike h hconfig hac hf kind, fun cause hcause => ?_⟩,
    fun cause hf => ⟨value_evaluate_of_lookupFlag_error hf kind, ?_⟩,
    observations_evaluate_of_alike h hconfig hobserved hac id kind, fun defs ids message hacs => ?_⟩
  · exact (failure_of_evaluate hac (Source.lookupFlag_eq_ok.1 hf) hcause).not_fromLookup
  · obtain ⟨cause', hf'⟩ := h.lookupFlag_eq_error hf
    exact ⟨cause', hf', value_evaluate_of_lookupFlag_error hf' kind⟩
  · have halike := alike_failing e defs ids message
    exact ⟨value_evaluate_failing e target defs ids message id hacs kind,
      observations_evaluate_of_alike halike rfl rfl hacs id kind⟩

/-! ## A pier in a storm -/

/-- A flag that waits for a gate and is off for the crew. -/
def pierFlag : Flag :=
  ((((Flag.boolean "pier").withState .on).withDefaultServe (.ofVariation "true")).withOverride
    ((Override.new "false").withSegment "crew")).withPrerequisite ⟨"gate", ["true"]⟩

/-- The flag under a path that it does not carry itself, its gate and the crew. -/
def pierDefinitions : Definitions where
  flags := .ofList [("harbour/pier", pierFlag), ("gate", Flag.boolean "gate")]
  segments := .ofList [("crew", (Segment.new "crew").withIncluded "ann")]

/-- An observed evaluator of the pier. -/
def pier : Evaluator := ⟨pierDefinitions.source, .default, .all, true⟩

/-- The pier with neither the gate nor the crew. -/
def barePier : Evaluator := pier.withSource (pierDefinitions.without ["gate", "crew"]).source

/-- The pier when neither the gate nor the crew can be looked up. -/
def stormyPier : Evaluator :=
  pier.withSource (pierDefinitions.source.failing ["gate", "crew"] "timeout")

theorem barePier_acyclic : Acyclic barePier.source.segments := acyclic_of_order [] (by decide)

/-- Nothing keeps the pier closed: the gate is not there to ask, and nobody is of the crew. -/
theorem barePier_opens (target : Target) :
    (barePier.evaluate "harbour/pier" target .boolean).value = .ok (.new "true" "true") := by
  have hrules : Rule.byPriority (pierFlag.rules.getD []) = [] := List.mergeSort_nil
  have hrs : RuleGives barePier.source.segments barePier.config.bucketFallback target "pier"
      (Rule.byPriority (pierFlag.rules.getD [])) none [] := by
    rw [hrules]
    exact .nothing
  have hos : OverrideGives barePier.source.segments target (pierFlag.overrides.getD []) none _ :=
    .outside (Bool.and_false _) (.missing rfl) .nothing
  have hcheck : Checks barePier.source.toDefinitions barePier.config.bucketFallback target ["pier"]
      pierFlag.requirements (.ok true) _ := .missing (by decide) rfl
  exact (evaluates_iff barePier_acyclic).1 ⟨_, .met rfl rfl hcheck (.default rfl hos hrs)⟩

/-- In the storm the pier is open to the crew as well, and nobody hears of the timeout who does not
ask for the gate itself. -/
theorem stormyPier_opens :
    barePier.source.Alike stormyPier.source ∧ barePier.config = stormyPier.config ∧
      barePier.observed = stormyPier.observed ∧ Acyclic barePier.source.segments ∧
      barePier.source.lookupFlag "harbour/pier" = .ok pierFlag ∧ pierFlag.identifier = "pier" ∧
      (barePier.evaluate "harbour/pier" (.new "ann") .boolean).value = .ok (.new "true" "true") ∧
      (stormyPier.evaluate "harbour/pier" (.new "ann") .boolean).value = .ok (.new "true" "true") ∧
      (stormyPier.evaluate "harbour/pier" (.new "ann") .boolean).trace.observations =
        (barePier.evaluate "harbour/pier" (.new "ann") .boolean).trace.observations ∧
      (barePier.evaluate "gate" (.new "ann") .boolean).value = .error (.flagNotFound "gate") ∧
      (stormyPier.evaluate "gate" (.new "ann") .boolean).value = .error (.query "timeout") := by
  have halike := alike_failing pier pierDefinitions ["gate", "crew"] "timeout"
  have hpier := failed_lookup_is_absence barePier stormyPier (.new "ann") halike rfl rfl
    barePier_acyclic "harbour/pier" .boolean
  have hgate := failed_lookup_is_absence barePier stormyPier (.new "ann") halike rfl rfl
    barePier_acyclic "gate" .boolean
  obtain ⟨hmissing, cause, hcause, htimeout⟩ := hgate.2.1 _ rfl
  obtain rfl : .query "timeout" = cause := Except.error.inj hcause
  exact ⟨halike, rfl, rfl, barePier_acyclic, rfl, rfl, barePier_opens _,
    (hpier.1 pierFlag rfl).1.trans (barePier_opens _), hpier.2.2.1, hmissing, htimeout⟩

end Evaluator
end FeatureFlags
