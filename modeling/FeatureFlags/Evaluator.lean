import FeatureFlags.Config
import FeatureFlags.Log.State
import FeatureFlags.Store
import FeatureFlags.Trace

/-!
# Evaluators

An evaluator looks definitions up in a source and has settings. It writes the records that the log
lets pass and, when it is observed, reports every evaluation that succeeds.

Mirrors the engine's `Evaluator` and the `build` of its builder; `emit` is `log_fields`, and
`announce` one of the macros around it.

**Results.**
* `records_emit`: a record is written exactly when the log lets its level pass.
* `announce_eq_emit`: to ask the log once more changes nothing.
-/
namespace FeatureFlags

/-- What it takes to evaluate flags. -/
structure Evaluator where
  source : Source
  config : Config
  /-- Which records the log lets pass. -/
  log : Log.State
  /-- Whether successful evaluations are reported. -/
  observed : Bool

namespace Evaluator

/-- An evaluator put together from its parts, of which only the source is indispensable. -/
def ofParts (source : Option Source) (config : Config) (log : Log.State) (observed : Bool) :
    Except EvaluationError Evaluator :=
  match source with
  | some source => .ok ⟨source, config, log, observed⟩
  | none => .error .missingQuery

/-- An evaluator of the definitions in a snapshot, with the default settings; nobody observes it,
and the log lets everything pass. -/
def ofSnapshot (s : Snapshot) : Evaluator := ⟨(Store.ofSnapshot s).source, .default, .all, false⟩

/-- The evaluator's settings, for a reader's eye. -/
def describe (e : Evaluator) : String :=
  "Evaluator \x7b callback: " ++ toString e.observed ++ ", config: " ++ e.config.describe ++ " \x7d"

/-- Writes a record with fields if the log lets it pass. -/
def emit (e : Evaluator) (record : Log.Record) : Traced Unit :=
  if e.log.enabled record.level then .write record else pure ()

/-- Writes a plain message: the log is asked before there is a message at all, and again by
`emit`. -/
def announce (e : Evaluator) (record : Log.Record) : Traced Unit :=
  if e.log.enabled record.level then e.emit record else pure ()

/-- Writes the plain message, if there is one. -/
def announce? (e : Evaluator) (record : Option Log.Record) : Traced Unit :=
  match record with
  | some record => e.announce record
  | none => pure ()

/-- Reports an evaluation if somebody observes. -/
def observe (e : Evaluator) (observation : Observation) : Traced Unit :=
  if e.observed then .report observation else pure ()

@[simp] theorem records_emit (e : Evaluator) (record : Log.Record) :
    (e.emit record).trace.records = [record].filter fun r => e.log.enabled r.level := by
  by_cases h : e.log.enabled record.level <;> simp [emit, h, Traced.write]

@[simp] theorem observations_emit (e : Evaluator) (record : Log.Record) :
    (e.emit record).trace.observations = [] := by
  by_cases h : e.log.enabled record.level <;> simp [emit, h, Traced.write]

/-- What the log let pass the first time it lets pass the second time. -/
@[simp] theorem announce_eq_emit (e : Evaluator) (record : Log.Record) :
    e.announce record = e.emit record := by
  by_cases h : e.log.enabled record.level <;> simp [announce, emit, h]

@[simp] theorem records_announce? (e : Evaluator) (record : Option Log.Record) :
    (e.announce? record).trace.records = record.toList.filter fun r => e.log.enabled r.level := by
  cases record with
  | none => rfl
  | some record => rw [announce?, announce_eq_emit, records_emit, Option.toList_some]

@[simp] theorem observations_announce? (e : Evaluator) (record : Option Log.Record) :
    (e.announce? record).trace.observations = [] := by
  cases record with
  | none => rfl
  | some record => rw [announce?, announce_eq_emit, observations_emit]

@[simp] theorem records_observe (e : Evaluator) (observation : Observation) :
    (e.observe observation).trace.records = [] := by
  by_cases h : e.observed <;> simp [observe, h, Traced.report]

@[simp] theorem observations_observe (e : Evaluator) (observation : Observation) :
    (e.observe observation).trace.observations = if e.observed then [observation] else [] := by
  by_cases h : e.observed <;> simp [observe, h, Traced.report]

end Evaluator
end FeatureFlags
