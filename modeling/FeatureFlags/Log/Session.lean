import FeatureFlags.Log.Record
import FeatureFlags.Log.State
import FeatureFlags.Text.Lines

/-!
# Sessions of the log

A program calls the log while it runs, and changes the level and debug mode between the calls. A
call whose level passes at that time is written as the configuration says, after those before it.

Mirrors the log's `log_fields`, called one time after the other.

**Results.**
* `passing_writes`: what passes when nothing is changed.
* `lines_output`: no line belongs to two calls.
* `lines_output_of_single`: the lines of calls that write one each.
-/
namespace FeatureFlags.Log

/-- A request to write a record, with the time at which it is made. -/
structure Call where
  time : String
  record : Record
  deriving DecidableEq, Repr

/-- What a program does with the log. -/
inductive Step where
  | setLevel (level : Level)
  | setDebug (on : Bool)
  | write (call : Call)
  deriving DecidableEq, Repr

namespace State

/-- The state after a step. -/
def next (s : State) : Step → State
  | .setLevel level => s.setLevel level
  | .setDebug on => s.setDebug on
  | .write _ => s

/-- The call that passes in a step, if one does. -/
def passed? (s : State) : Step → Option Call
  | .write call => if s.enabled call.record.level then some call else none
  | _ => none

/-- The calls that pass in a session, in their order. -/
def passing (s : State) : List Step → List Call
  | [] => []
  | step :: rest => (s.passed? step).toList ++ (s.next step).passing rest

/-- As long as nothing is changed, the calls that pass are those whose level is enabled. -/
theorem passing_writes (s : State) (calls : List Call) :
    s.passing (calls.map .write) = calls.filter fun call => s.enabled call.record.level := by
  induction calls with
  | nil => rfl
  | cons call calls ih =>
    rw [List.map_cons, passing, next, ih, passed?, List.filter_cons]
    split <;> rfl

end State

namespace Config

/-- The time as it is written, when times are. -/
def stamp? (c : Config) (time : String) : Option String := if c.timestamps then some time else none

/-- The text that a call writes. -/
def text (c : Config) (call : Call) : String := call.record.text c.format (c.stamp? call.time)

/-- What calls that pass write, one after the other. -/
def output (c : Config) (calls : List Call) : String := String.join (calls.map c.text)

/-- Every line belongs to one call. -/
theorem lines_output (c : Config) (calls : List Call) :
    Text.lines (c.output calls) = calls.flatMap fun call => Text.lines (c.text call) := by
  induction calls with
  | nil => rfl
  | cons call calls ih =>
    have houtput : c.output (call :: calls) = c.text call ++ c.output calls := by
      rw [output, List.map_cons, String.join_cons, output]
    rw [houtput, List.flatMap_cons, ← ih]
    unfold text Record.text
    cases call.record.line? c.format (c.stamp? call.time) with
    | some line => exact Text.lines_append_break line (c.output calls)
    | none => rw [String.empty_append]; rfl

/-- Where every call writes a line, these are the lines. -/
theorem lines_output_of_single {c : Config} {calls : List Call} {line : Call → String}
    (h : ∀ call ∈ calls, c.text call = line call ++ "\n" ∧ Text.breaks (line call) = 0) :
    Text.lines (c.output calls) = calls.map line := by
  rw [lines_output, List.map_eq_flatMap, List.flatMap_def, List.flatMap_def]
  refine congrArg List.flatten (List.map_congr_left fun call hcall => ?_)
  obtain ⟨htext, hbreaks⟩ := h call hcall
  rw [htext, Text.lines_single hbreaks]

end Config
end FeatureFlags.Log
