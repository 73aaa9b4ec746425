import FeatureFlags.Flag
import FeatureFlags.Log.Record
import FeatureFlags.Target

/-!
# Traces

A traced computation has a value and a trace: the log records it wrote and the evaluations it
reported, each in order. The trace never decides about the value.

An observation mirrors the engine's `PostEvalData`, which `post_evaluate` is called with.

**Results.**
* `value_bind`, `trace_bind`: how values and traces go on from one step to the next.
-/
namespace FeatureFlags

/-- What is reported of a successful evaluation: all that is known about it. -/
structure Observation where
  /-- The flag as it was looked up. -/
  definition : Flag
  /-- Whom the flag was evaluated for. -/
  recipient : Target
  /-- The variation that was served. -/
  served : Variation

namespace Observation

/-! What the record of an evaluation names. -/

def flag (o : Observation) : String := o.definition.identifier

def target (o : Observation) : String := o.recipient.identifier

def variation (o : Observation) : String := o.served.identifier

end Observation

/-- What a computation left behind. -/
@[ext] structure Trace where
  records : List Log.Record
  observations : List Observation
  deriving Inhabited

namespace Trace

def empty : Trace := ⟨[], []⟩

def append (s t : Trace) : Trace := ⟨s.records ++ t.records, s.observations ++ t.observations⟩

instance : Append Trace := ⟨append⟩

@[simp] theorem records_empty : empty.records = [] := rfl

@[simp] theorem observations_empty : empty.observations = [] := rfl

@[simp] theorem records_append (s t : Trace) : (s ++ t).records = s.records ++ t.records := rfl

@[simp] theorem observations_append (s t : Trace) :
    (s ++ t).observations = s.observations ++ t.observations := rfl

@[simp] theorem append_empty (t : Trace) : t ++ empty = t := by ext1 <;> simp

theorem append_assoc (s t u : Trace) : s ++ t ++ u = s ++ (t ++ u) := by ext1 <;> simp

end Trace

/-- A value, and the trace of the computation that gave it. -/
structure Traced (α : Type) where
  value : α
  trace : Trace
  deriving Inhabited

namespace Traced

instance : Monad Traced where
  pure a := ⟨a, .empty⟩
  bind x f := ⟨(f x.value).value, x.trace ++ (f x.value).trace⟩

@[simp] theorem value_pure (a : α) : (pure a : Traced α).value = a := rfl

@[simp] theorem trace_pure (a : α) : (pure a : Traced α).trace = .empty := rfl

@[simp] theorem value_bind (x : Traced α) (f : α → Traced β) :
    (x >>= f).value = (f x.value).value := rfl

@[simp] theorem trace_bind (x : Traced α) (f : α → Traced β) :
    (x >>= f).trace = x.trace ++ (f x.value).trace := rfl

instance : LawfulMonad Traced :=
  LawfulMonad.mk' Traced
    (fun x => congrArg (mk x.value) x.trace.append_empty)
    (fun _ _ => rfl)
    (fun x f g => congrArg (mk _)
      (Trace.append_assoc x.trace (f x.value).trace (g (f x.value).value).trace))

/-- Writes a record. -/
def write (record : Log.Record) : Traced Unit := ⟨(), ⟨[record], []⟩⟩

/-- Reports an evaluation. -/
def report (observation : Observation) : Traced Unit := ⟨(), ⟨[], [observation]⟩⟩

end Traced
end FeatureFlags
