import FeatureFlags.Accessor
import FeatureFlags.Proofs.Stepwise

/-!
# Logging only observes

The log decides which records are written, and about nothing else. Two runs of one computation under
different logs give the same value and report the same evaluations, and what the log that lets
everything pass has of them, sifted by the levels that another log lets pass, is what that one has.

**Results.**
* `Reporting.read`: a relation that holds of the steps of a typed accessor holds of what it reads.
* `sifts_reporting`: what a log writes is sifted out of all records, one step at a time.
* `logging_only_observes`: so it is of every call.
-/
namespace FeatureFlags

/-- The log that lets everything pass lets pass what any other does. -/
theorem Log.State.enabled_all_of_enabled {s : State} {level : Level} (h : s.enabled level = true) :
    all.enabled level = true := by
  cases level with
  | off => cases h
  | _ => rfl

namespace Evaluator

/-! ## Typed values -/

section

variable {e : Evaluator} {log : Log.State} {R : ∀ α : Type, Traced α → Traced α → Prop}

/-- Absorbing an error is a step that evaluations do not have. -/
theorem Reporting.read (h : e.Reporting log R)
    (habsorb : ∀ r, R Unit (e.emit r) ((e.withLog log).emit r))
    (a : Accessor α) (id : String) (target : Target) (default : α) :
    R α (e.read a id target default) ((e.withLog log).read a id target default) := by
  have hdecoded : R (Except EvaluationError α) (e.decoded a id target)
    ((e.withLog log).decoded a id target) :=
    h.sequence (h.evaluate id target a.kind) fun _ => h.value _
  refine h.sequence hdecoded fun outcome => ?_
  cases outcome with
  | ok value => exact h.value value
  | error cause =>
    refine h.sequence ?_ fun _ => h.value default
    show R Unit (e.announce? (absorbed? e.config a id cause))
      ((e.withLog log).announce? (absorbed? e.config a id cause))
    cases absorbed? e.config a id cause with
    | none => exact h.value ()
    | some record =>
      rw [announce?, announce?, announce_eq_emit, announce_eq_emit]
      exact habsorb record

end

/-! ## Sifting records -/

/-- Two computations do the same, and of the records of the one the other has those that a log lets
pass. -/
structure Sifts (log : Log.State) (α : Type) (full part : Traced α) : Prop where
  value : part.value = full.value
  observations : part.trace.observations = full.trace.observations
  records : part.trace.records = full.trace.records.filter fun r => log.enabled r.level

theorem sifts_emit (e : Evaluator) (log : Log.State) (r : Log.Record) :
    Sifts log Unit ((e.withLog .all).emit r) ((e.withLog log).emit r) := by
  refine ⟨rfl, by rw [observations_emit, observations_emit], ?_⟩
  rw [records_emit, records_emit, List.filter_filter]
  refine List.filter_congr fun r _ => ?_
  show log.enabled r.level = (log.enabled r.level && Log.State.all.enabled r.level)
  cases hr : log.enabled r.level with
  | false => rfl
  | true => exact (Log.State.enabled_all_of_enabled hr).symm

theorem sifts_bind {log : Log.State} {x y : Traced α} {f g : α → Traced β} (hx : Sifts log α x y)
    (hf : ∀ a, Sifts log β (f a) (g a)) : Sifts log β (x >>= f) (y >>= g) := by
  have hnext := hf x.value
  constructor
  · rw [Traced.value_bind, Traced.value_bind, hx.value, hnext.value]
  · rw [Traced.trace_bind, Traced.trace_bind, Trace.observations_append, Trace.observations_append,
      hx.value, hx.observations, hnext.observations]
  · rw [Traced.trace_bind, Traced.trace_bind, Trace.records_append, Trace.records_append, hx.value,
      hx.records, hnext.records, List.filter_append]

theorem sifts_reporting (e : Evaluator) (log : Log.State) :
    (e.withLog .all).Reporting log (Sifts log) where
  value _ := ⟨rfl, rfl, rfl⟩
  sequence := sifts_bind
  record r _ := sifts_emit e log r
  report _ := ⟨rfl, rfl, by rw [records_observe, records_observe]; rfl⟩

/-- A computation under a log: the log does not decide what it does, and the records are those of
the log that lets everything pass whose level it lets pass, in order. -/
structure OnlyObserved (run : Log.State → Traced α) : Prop where
  value : ∀ log log', (run log).value = (run log').value
  observations : ∀ log log', (run log).trace.observations = (run log').trace.observations
  records : ∀ log, (run log).trace.records = (run .all).trace.records.filter fun r =>
    log.enabled r.level

theorem onlyObserved_of_sifts {run : Log.State → Traced α}
    (h : ∀ log, Sifts log α (run .all) (run log)) :
    OnlyObserved run where
  value log log' := (h log).value.trans (h log').value.symm
  observations log log' := (h log).observations.trans (h log').observations.symm
  records log := (h log).records

/-- **Logging only observes.** Neither the level nor debug mode decides about the answer of an
evaluation or of a typed accessor, or about what an observer sees of it. The records are in order
and unchanged those that the same call writes at level trace in debug mode, as far as the level and
debug mode let them pass. -/
theorem logging_only_observes (e : Evaluator) (flag : String) (target : Target) :
    (∀ kind, OnlyObserved fun log => (e.withLog log).evaluate flag target kind) ∧
    (∀ default, OnlyObserved fun log => (e.withLog log).read .bool flag target default) ∧
    (∀ default, OnlyObserved fun log => (e.withLog log).read .string flag target default) ∧
    (∀ default, OnlyObserved fun log => (e.withLog log).read .int flag target default) ∧
    (∀ default, OnlyObserved fun log => (e.withLog log).read .number flag target default) ∧
    ∀ default, OnlyObserved fun log => (e.withLog log).read .json flag target default := by
  have hread {α : Type} (a : Accessor α) (default : α) :
      OnlyObserved fun log => (e.withLog log).read a flag target default :=
    onlyObserved_of_sifts fun log =>
      (e.sifts_reporting log).read (e.sifts_emit log) a flag target default
  exact ⟨fun kind => onlyObserved_of_sifts fun log =>
    (e.sifts_reporting log).evaluate flag target kind, hread .bool, hread .string, hread .int,
      hread .number, hread .json⟩

/-- A bell, evaluated for Ann under a log. -/
def bell (log : Log.State) : Traced (Except EvaluationError Variation) :=
  ((ofSnapshot ⟨[Flag.boolean "bell"], []⟩).withLog log).evaluate "bell" (.new "ann") .boolean

/-- It is silent under every log. Nothing is written of that at level info, and the record of the
success in debug mode, even where the level is off. -/
example :
    (bell ⟨.info, false⟩).value.toOption = some (.new "false" "false") ∧
    (bell ⟨.info, false⟩).trace.records = [] ∧
    (bell ⟨.off, true⟩).value.toOption = some (.new "false" "false") ∧
    (bell ⟨.off, true⟩).trace.records =
      [⟨.debug, "pennant::evaluator", "variation resolved",
        [("flag", "bell"), ("target", "ann"), ("variation", "false")]⟩] := by
  decide +kernel

end Evaluator
end FeatureFlags
