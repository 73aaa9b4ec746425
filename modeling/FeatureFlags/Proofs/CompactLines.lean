import FeatureFlags.Log.Session

/-!
# Lines of the compact log

The compact log writes every call in full and ends it with a line break. Target, message and fields
go into it as they come, their line breaks too, so a call has a line of its own exactly when none of
these has one. A record with a line break in it may look like two.

**Results.**
* `breaks_compactLine`: the line breaks of a compact line are those of its record.
* `length_lines_compact`: how many lines a call writes.
* `session_lines`: so the lines of a session are as many as its calls that pass just if their
  records are unbroken.
* `forged_line`: one call that writes the same lines as two.
-/
namespace FeatureFlags.Log

open Text (lines breaks_append breaks_eq_zero breaks_join_eq_zero length_lines)

/-! ## Line breaks of a record -/

namespace Record

/-- What a record takes over from its caller. -/
def parts (r : Record) : List String := r.target :: r.message :: r.fields.flatMap fun f =>
    [f.1, f.2]

/-- How many line breaks a record takes over. -/
def breaks (r : Record) : Nat := Text.breaks (String.join r.parts)

/-- No part of the record has a line break in it. -/
def Unbroken (r : Record) : Prop := ∀ part ∈ r.parts, '\n' ∉ part.toList

instance (r : Record) : Decidable r.Unbroken :=
  inferInstanceAs (Decidable (∀ part ∈ r.parts, '\n' ∉ part.toList))

theorem breaks_fields (fields : List (String × String)) :
    Text.breaks (String.intercalate " " (fields.map fun f => f.1 ++ "=" ++ f.2)) =
      Text.breaks (String.join (fields.flatMap fun f => [f.1, f.2])) := by
  have hblank : Text.breaks " " = 0 := rfl
  have hequals : Text.breaks "=" = 0 := rfl
  induction fields with
  | nil => rfl
  | cons f rest ih =>
    have hfield : Text.breaks (f.1 ++ "=" ++ f.2) = Text.breaks (String.join [f.1, f.2]) := by
      simp [breaks_append, hequals]
    rw [List.flatMap_cons, String.join_append, breaks_append, ← ih, ← hfield]
    cases rest with
    | nil => rfl
    | cons g rest =>
      rw [List.map_cons, List.map_cons, String.intercalate_cons_cons, breaks_append, breaks_append,
        hblank]
      rfl

theorem breaks_fullMessage (r : Record) :
    Text.breaks r.fullMessage =
      Text.breaks r.message + Text.breaks (String.join (r.fields.flatMap fun f => [f.1, f.2])) := by
  have hblank : Text.breaks " " = 0 := rfl
  unfold fullMessage
  split
  · next hempty => rw [List.isEmpty_iff.1 hempty]; rfl
  · rw [fieldsText, breaks_append, breaks_append, breaks_fields, hblank, Nat.add_zero]

theorem breaks_paddedLevel (level : Level) : Text.breaks (paddedLevel level) = 0 := by
  cases level <;> decide

theorem breaks_targetText (r : Record) : Text.breaks r.targetText = Text.breaks r.target := by
  unfold targetText
  split
  · next hempty => rw [String.isEmpty_iff.1 hempty]
  · rw [breaks_append]; rfl

theorem breaks_stampText {stamp : Option String} (h : ∀ time ∈ stamp, '\n' ∉ time.toList) :
    Text.breaks (stampText stamp) = 0 := by
  cases stamp with
  | none => rfl
  | some time => rw [stampText, breaks_append, breaks_eq_zero.2 (h time rfl)]; rfl

/-- A compact line has no line breaks but those of its record. -/
theorem breaks_compactLine {stamp : Option String} (hstamp : ∀ time ∈ stamp, '\n' ∉ time.toList)
    (r : Record) :
    Text.breaks (r.compactLine stamp) = r.breaks := by
  have hblank : Text.breaks " " = 0 := rfl
  rw [compactLine, breaks_append, breaks_append, breaks_append, breaks_append,
    breaks_stampText hstamp, breaks_paddedLevel, hblank, breaks_targetText, breaks_fullMessage,
      breaks, parts, String.join_cons,
    String.join_cons, breaks_append, breaks_append]
  omega

end Record

/-! ## Lines of a session -/

/-- The time is written without a line break, when it is written. -/
def Config.PlainTime (c : Config) (call : Call) : Prop :=
  ∀ stamp ∈ c.stamp? call.time, '\n' ∉ stamp.toList

section

variable {c : Config} (hc : c.format = .compact)
include hc

theorem text_compact (call : Call) :
    c.text call = call.record.compactLine (c.stamp? call.time) ++ "\n" := by
  rw [Config.text, Record.text, hc, Record.line?]

/-- A call writes one line, and one more for each line break of its record. -/
theorem length_lines_compact {call : Call} (htime : c.PlainTime call) :
    (lines (c.text call)).length = call.record.breaks + 1 := by
  rw [length_lines, text_compact hc, breaks_append, Record.breaks_compactLine htime]
  rfl

theorem length_lines_output {calls : List Call} (htimes : ∀ call ∈ calls, c.PlainTime call) :
    (lines (c.output calls)).length =
      calls.length + Text.breaks (String.join (calls.flatMap fun call => call.record.parts)) := by
  induction calls with
  | nil => rfl
  | cons call calls ih =>
    rw [List.forall_mem_cons] at htimes
    rw [Config.lines_output] at ih ⊢
    rw [List.flatMap_cons, List.length_append, ih htimes.2, length_lines_compact hc htimes.1,
      List.flatMap_cons, String.join_append, breaks_append, List.length_cons, Record.breaks]
    omega

/-- Records without line breaks stand one on each line. -/
theorem lines_output_of_unbroken {calls : List Call} (htimes : ∀ call ∈ calls, c.PlainTime call)
    (h : ∀ call ∈ calls, call.record.Unbroken) :
    lines (c.output calls) = calls.map fun call =>
      call.record.compactLine (c.stamp? call.time) := by
  refine Config.lines_output_of_single fun call hcall => ⟨text_compact hc call, ?_⟩
  rw [Record.breaks_compactLine (htimes call hcall), Record.breaks, breaks_join_eq_zero]
  exact h call hcall

end

/-- **Compact lines.** Every line of a session belongs to one call that passes, in the order of the
calls. They are as many as these calls just if no part of a record that passes has a line break in
it, and then each is the line of its call. -/
theorem session_lines (c : Config) (s : State) (steps : List Step) (hc : c.format = .compact)
    (htimes : ∀ call ∈ s.passing steps, c.PlainTime call) :
    lines (c.output (s.passing steps)) = (s.passing steps).flatMap
      (fun call => lines (c.text call)) ∧
      ((lines (c.output (s.passing steps))).length = (s.passing steps).length ↔
        ∀ call ∈ s.passing steps, call.record.Unbroken) ∧
      ((∀ call ∈ s.passing steps, call.record.Unbroken) →
        lines (c.output (s.passing steps)) =
          (s.passing steps).map fun call => call.record.compactLine (c.stamp? call.time)) := by
  refine ⟨c.lines_output _, ?_, lines_output_of_unbroken hc htimes⟩
  rw [length_lines_output hc htimes, Nat.add_eq_left, breaks_join_eq_zero, List.forall_mem_flatMap]
  rfl

/-- A log for a reader's eye, with the time of day. -/
def watch : Config := ⟨false, .info, .compact, true⟩

/-- A record, one that is not severe enough any more, and one that is. -/
def nightShift : List Step :=
  [.write ⟨"23:10:00.000", .info, "pennant", "gate shut", [("flag", "gate"), ("target", "ann")]⟩,
    .setLevel .warn,
    .write ⟨"23:40:00.000", .plain .info "pennant" "all quiet"⟩,
    .write ⟨"23:50:00.000", .plain .error "" "bell broken"⟩]

theorem nightShift_lines :
    lines (watch.output (State.passing (.ofConfig watch) nightShift)) =
      ["23:10:00.000 INFO  pennant: gate shut flag=gate target=ann",
        "23:50:00.000 ERROR bell broken"] := by
  have htimes : ∀ call ∈ State.passing (.ofConfig watch) nightShift, watch.PlainTime call := by
    unfold Config.PlainTime
    decide +kernel
  have hunbroken : ∀ call ∈ State.passing (.ofConfig watch) nightShift, call.record.Unbroken := by
    decide +kernel
  rw [(session_lines watch (.ofConfig watch) nightShift rfl htimes).2.2 hunbroken]
  decide +kernel

/-- A line break in the message of one record, and what follows it reads like another record. -/
theorem forged_line :
    let c : Config := { watch with timestamps := false }
    let one : List Step := [.write ⟨"", .plain .info "pennant" "gate shut\nWARN  bell broken"⟩]
    let two : List Step :=
      [.write ⟨"", .plain .info "pennant" "gate shut"⟩, .write ⟨"", .plain .warn "" "bell broken"⟩]
    (State.passing (.ofConfig c) one).length = 1 ∧
      (lines (c.output (State.passing (.ofConfig c) one))).length = 2 ∧
      c.output (State.passing (.ofConfig c) one) = c.output (State.passing (.ofConfig c) two) := by
  decide +kernel

end FeatureFlags.Log
