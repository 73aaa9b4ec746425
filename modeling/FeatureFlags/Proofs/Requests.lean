import FeatureFlags.Accessor
import FeatureFlags.Proofs.Stepwise
import Mathlib.Data.List.Basic

/-!
# Requests for typed values

A request names a typed accessor, a flag, a target and a default. It is answered by one evaluation,
whose value is decoded; the default stands in when there is no value or it does not decode. Requests
are answered one after the other, and what is reported and logged of one is apart from what is of
the others.

**Results.**
* `untold_reporting`: no evaluation writes a record that tells of a default.
* `answered`: what becomes of one request.
* `requests_are_answered`: what becomes of a sequence of requests.
-/
namespace FeatureFlags

/-- The types that values are read as. -/
inductive Typed where
  | bool
  | string
  | int
  | number
  | json
  deriving DecidableEq, Repr

namespace Typed

def Value : Typed → Type
  | bool => Bool
  | string => String
  | int => Int64
  | number => Binary64
  | json => List (String × Json)

def accessor : (t : Typed) → Accessor t.Value
  | bool => .bool
  | string => .string
  | int => .int
  | number => .number
  | json => .json

end Typed

/-- A call of a typed accessor. -/
structure Request where
  type : Typed
  flag : String
  target : Target
  default : type.Value

namespace Evaluator

variable (e : Evaluator) (r : Request)

/-! ## What is asked and answered -/

/-- The evaluation that a request leads to. -/
def evaluationOf : Traced (Except EvaluationError Variation) :=
  e.evaluate r.flag r.target r.type.accessor.kind

def reply : Traced r.type.Value := e.read r.type.accessor r.flag r.target r.default

/-- Answers requests one after the other. -/
def replyAll (e : Evaluator) : List Request → Traced (List (Σ t : Typed, t.Value))
  | [] => return []
  | r :: rs => do
    let value ← e.reply r
    let values ← e.replyAll rs
    return ⟨r.type, value⟩ :: values

/-- What comes of a request: the decoded value, or the error of the evaluation or of decoding. -/
def outcomeOf : Except EvaluationError r.type.Value :=
  match (e.evaluationOf r).value with
  | .error cause => .error cause
  | .ok v => (r.type.accessor.decode v.value).mapError (.decode r.flag)

/-- The record of an error that the default stands in for. -/
def absorption (cause : EvaluationError) : Log.Record :=
  .plain .error logTarget
    ("Error while evaluating " ++ r.type.accessor.name ++ " flag '" ++ r.flag ++ "', err: " ++
      cause.message)

/-- The record of the request's error, if it has one, such errors are logged and level error
passes. -/
def absorptionOf? : Option Log.Record :=
  match e.outcomeOf r with
  | .ok _ => none
  | .error cause =>
    if e.config.logAbsorbedErrors ∧ e.log.enabled .error then some (absorption r cause) else none

/-- What an observer is told of the evaluation, if it succeeds and there is an observer: the flag
that was looked up, the target and the variation that was served. -/
def reportOf? : Option Observation :=
  match e.source.lookupFlag r.flag, (e.evaluationOf r).value with
  | .ok f, .ok v => if e.observed then some ⟨f, r.target, v⟩ else none
  | _, _ => none

/-! ## One request -/

section

variable {e r}

theorem outcomeOf_eq_ok_iff {a : r.type.Value} : e.outcomeOf r = .ok a ↔
    ∃ v, (e.evaluationOf r).value = .ok v ∧ r.type.accessor.decode v.value = .ok a := by
  unfold outcomeOf
  cases (e.evaluationOf r).value with
  | error cause => simp
  | ok v =>
    dsimp only
    cases h : r.type.accessor.decode v.value <;> simp [Except.mapError, h]

end

/-- What is left to do once the outcome is known. -/
def settle (outcome : Except EvaluationError r.type.Value) : Traced r.type.Value :=
  match outcome with
  | .ok value => pure value
  | .error cause => do
    e.announce? (absorbed? e.config r.type.accessor r.flag cause)
    return r.default

theorem reply_eq : e.reply r = e.decoded r.type.accessor r.flag r.target >>= e.settle r := by
  unfold reply read
  refine congrArg _ (funext fun outcome => ?_)
  cases outcome <;> rfl

theorem value_decoded : (e.decoded r.type.accessor r.flag r.target).value = e.outcomeOf r := by
  unfold decoded outcomeOf evaluationOf
  rw [Traced.value_bind]
  cases (e.evaluate r.flag r.target r.type.accessor.kind).value <;> rfl

theorem trace_decoded : (e.decoded r.type.accessor r.flag r.target).trace =
    (e.evaluationOf r).trace :=
  Trace.append_empty _

theorem value_reply : (e.reply r).value = (e.settle r (e.outcomeOf r)).value := by
  rw [reply_eq, Traced.value_bind, value_decoded]

theorem trace_reply :
    (e.reply r).trace = (e.evaluationOf r).trace ++ (e.settle r (e.outcomeOf r)).trace := by
  rw [reply_eq, Traced.trace_bind, value_decoded, trace_decoded]

theorem records_absorbed (cause : EvaluationError) :
    (e.announce? (absorbed? e.config r.type.accessor r.flag cause)).trace.records =
      (if e.config.logAbsorbedErrors ∧ e.log.enabled .error then some (absorption r cause)
        else none).toList := by
  rw [records_announce?, absorbed?]
  cases e.config.logAbsorbedErrors with
  | false => simp
  | true => cases h : e.log.enabled .error <;> simp [absorption, Log.Record.plain, h]

theorem records_settle :
    (e.settle r (e.outcomeOf r)).trace.records = (e.absorptionOf? r).toList := by
  unfold absorptionOf?
  cases e.outcomeOf r with
  | ok value => rfl
  | error cause => exact (List.append_nil _).trans (e.records_absorbed r cause)

theorem observations_settle : (e.settle r (e.outcomeOf r)).trace.observations = [] := by
  cases e.outcomeOf r with
  | ok value => rfl
  | error cause => exact (List.append_nil _).trans (e.observations_announce? _)

theorem observations_evaluationOf :
    (e.evaluationOf r).trace.observations = (e.reportOf? r).toList := by
  rw [evaluationOf, observations_evaluate, reportOf?, evaluationOf]
  cases e.source.lookupFlag r.flag with
  | error cause => rfl
  | ok f =>
    cases (e.evaluate r.flag r.target r.type.accessor.kind).value with
    | error cause => rfl
    | ok v => cases e.observed <;> rfl

theorem reportOf?_of_ok {v : Variation} (h : (e.evaluationOf r).value = .ok v) :
    ∃ f, e.source.lookupFlag r.flag = .ok f ∧
      e.reportOf? r = if e.observed then some ⟨f, r.target, v⟩ else none := by
  obtain ⟨f, hf⟩ := exists_lookupFlag_of_evaluate h
  exact ⟨f, hf, by rw [reportOf?, hf, h]⟩

/-- What becomes of a request: its value is the decoded one, and the default when there is none; an
evaluation that succeeds has found its flag and is reported with it, and what is reported is that of
the evaluation, whether or not the value decodes; and the records are those of the evaluation with,
at their end, that of the error if the request has one. -/
structure Answered (run : Traced r.type.Value) : Prop where
  decoded : ∀ v a, (e.evaluationOf r).value = .ok v → r.type.accessor.decode v.value = .ok a →
    run.value = a
  defaulted : (¬ ∃ v a, (e.evaluationOf r).value = .ok v ∧ r.type.accessor.decode v.value = .ok a) →
    run.value = r.default
  failed : (∃ cause, e.outcomeOf r = .error cause) ↔
    ¬ ∃ v a, (e.evaluationOf r).value = .ok v ∧ r.type.accessor.decode v.value = .ok a
  told : ∀ v, (e.evaluationOf r).value = .ok v → ∃ f, e.source.lookupFlag r.flag = .ok f ∧
    e.reportOf? r = if e.observed then some ⟨f, r.target, v⟩ else none
  reported : run.trace.observations = (e.reportOf? r).toList
  logged : run.trace.records = (e.evaluationOf r).trace.records ++ (e.absorptionOf? r).toList

theorem answered : e.Answered r (e.reply r) := by
  have hfailed : (∃ cause, e.outcomeOf r = .error cause) ↔
      ¬ ∃ v a, (e.evaluationOf r).value = .ok v ∧ r.type.accessor.decode v.value = .ok a := by
    rw [exists_comm]
    simp only [← outcomeOf_eq_ok_iff]
    cases e.outcomeOf r <;> simp
  refine ⟨fun v a hv ha => ?_, fun hnone => ?_, hfailed, fun v => e.reportOf?_of_ok r, ?_, ?_⟩
  · rw [value_reply, outcomeOf_eq_ok_iff.2 ⟨v, hv, ha⟩]
    rfl
  · obtain ⟨cause, hcause⟩ := hfailed.2 hnone
    rw [value_reply, hcause]
    rfl
  · rw [trace_reply, Trace.observations_append, observations_settle, List.append_nil,
      observations_evaluationOf]
  · rw [trace_reply, Trace.records_append, records_settle]

/-! ## Records that tell of a default -/

/-- What an evaluation writes, prerequisites and segments included, does not tell of a default. -/
theorem untold_reporting :
    e.Reporting e.log fun _ x _ => ∀ record ∈ x.trace.records, tellsOfDefault record = false where
  value _ := by simp
  sequence hx hf := by
    intro record hrecord
    rcases List.mem_append.1 hrecord with h | h
    · exact hx record h
    · exact hf _ record h
  record told htold := by
    rw [records_emit]
    intro record hrecord
    rwa [List.mem_singleton.1 (List.mem_filter.1 hrecord).1]
  report _ := by simp

theorem filter_evaluationOf : (e.evaluationOf r).trace.records.filter tellsOfDefault = [] := by
  have huntold := e.untold_reporting.evaluate r.flag r.target r.type.accessor.kind
  exact List.filter_eq_nil_iff.2 fun record hrecord => by simp [huntold record hrecord]

theorem filter_absorptionOf? :
    (e.absorptionOf? r).toList.filter tellsOfDefault = (e.absorptionOf? r).toList := by
  unfold absorptionOf?
  split
  · rfl
  · split <;> rfl

/-! ## All requests -/

theorem value_replyAll (rs : List Request) :
    (e.replyAll rs).value = rs.map fun r => ⟨r.type, (e.reply r).value⟩ := by
  induction rs with
  | nil => rfl
  | cons r rs ih => rw [List.map_cons, ← ih]; rfl

theorem trace_replyAll_cons (rs : List Request) :
    (e.replyAll (r :: rs)).trace = (e.reply r).trace ++ (e.replyAll rs).trace := by
  have htrace : (e.replyAll (r :: rs)).trace = (e.reply r).trace ++
    ((e.replyAll rs).trace ++ Trace.empty) := rfl
  rw [htrace, Trace.append_empty]

theorem observations_replyAll (rs : List Request) :
    (e.replyAll rs).trace.observations = rs.filterMap e.reportOf? := by
  rw [List.filterMap_eq_flatMap_toList]
  induction rs with
  | nil => rfl
  | cons r rs ih =>
    rw [trace_replyAll_cons, Trace.observations_append, (e.answered r).reported, ih,
      List.flatMap_cons]

theorem records_replyAll (rs : List Request) : (e.replyAll rs).trace.records =
    rs.flatMap fun r => (e.evaluationOf r).trace.records ++ (e.absorptionOf? r).toList := by
  induction rs with
  | nil => rfl
  | cons r rs ih =>
    rw [trace_replyAll_cons, Trace.records_append, (e.answered r).logged, ih, List.flatMap_cons]

/-- **Requests are answered one by one.** Each typed accessor gives the decoded value if the
evaluation succeeds and its value decodes, and else the default. Over any sequence of calls an
observer is told of each evaluation that succeeds, once and in order, and of no prerequisite; and
the log has, call after call, the records of the evaluation and then that of the absorbed error. The
records that tell of a default are just these: one for each call that returned its default because
of an error, when such errors are logged and level error passes. -/
theorem requests_are_answered (rs : List Request) :
    (∀ r, e.Answered r (e.reply r)) ∧
    (e.replyAll rs).value = rs.map (fun r => ⟨r.type, (e.reply r).value⟩) ∧
    (e.replyAll rs).trace.observations = rs.filterMap e.reportOf? ∧
    (e.replyAll rs).trace.records =
      rs.flatMap (fun r => (e.evaluationOf r).trace.records ++ (e.absorptionOf? r).toList) ∧
    (e.replyAll rs).trace.records.filter tellsOfDefault = rs.filterMap e.absorptionOf? := by
  refine ⟨e.answered, e.value_replyAll rs, e.observations_replyAll rs, e.records_replyAll rs, ?_⟩
  rw [records_replyAll, List.filter_flatMap, List.filterMap_eq_flatMap_toList]
  -- of each call the filter keeps what is at the end and nothing of the evaluation
  refine congrArg (rs.flatMap ·) (funext fun r => ?_)
  rw [List.filter_append, filter_evaluationOf, filter_absorptionOf?, List.nil_append]

/-- A lantern that is lit for everyone. -/
def lantern : Flag :=
  ((Flag.boolean "lantern").withState .on).withDefaultServe (.ofVariation "true")

/-- Ann asks for the lantern and for a beacon that nobody has set up. -/
def asked : List Request :=
  [⟨.bool, "lantern", .new "ann", false⟩, ⟨.bool, "beacon", .new "ann", true⟩]

/-- The observer is handed the lantern itself; of the beacon the log alone knows. -/
example :
    let run := ({ Evaluator.ofSnapshot ⟨[lantern], []⟩ with observed := true }).replyAll asked
    run.trace.observations.map (fun o => (o.definition, o.recipient.identifier, o.served)) =
      [(lantern, "ann", .new "true" "true")] ∧
    run.trace.records =
      [⟨.debug, "pennant::evaluator", "variation resolved",
        [("flag", "lantern"), ("target", "ann"), ("variation", "true")]⟩,
      .plain .error "pennant::evaluator"
        "Error while evaluating boolean flag 'beacon', err: Flag not found: beacon"] := by
  decide +kernel

end Evaluator
end FeatureFlags
