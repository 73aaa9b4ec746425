import FeatureFlags.Log.Session
import FeatureFlags.Proofs.Documents
import Mathlib.Data.List.Nodup

/-!
# Lines of the JSON log

The JSON log writes every call as one object on one line. All strings in it are escaped, so the line
can be read back, and what it tells is the record: its level, target and message, and each key of
the fields with the value that was last given for it. No record can pass for another one.

**Results.**
* `Plain.noControls`: no written document has a line break in it.
* `tells_members`: what the members of the object tell.
* `same_of_jsonLine_eq`: records with one line are the same but for repeated and reordered fields.
* `json_line_tells`: all of it together.
-/
namespace FeatureFlags

/-! ## Written documents have no control characters -/

namespace Json

/-- No character comes before the blank. -/
def NoControls (cs : List Char) : Prop := ∀ c ∈ cs, 0x20 ≤ c.toNat

instance (cs : List Char) : Decidable (NoControls cs) := List.decidableBAll _ cs

theorem NoControls.append {cs ds : List Char} (h : NoControls cs) (h' : NoControls ds) :
    NoControls (cs ++ ds) :=
  List.forall_mem_append.2 ⟨h, h'⟩

theorem noControls_flatMap {as : List α} {f : α → List Char} (h : ∀ a ∈ as, NoControls (f a)) :
    NoControls (as.flatMap f) := by
  intro c hc
  obtain ⟨a, ha, hca⟩ := List.mem_flatMap.1 hc
  exact h a ha c hca

theorem noControls_escapeChar (c : Char) : NoControls (escapeChar c) := by
  unfold escapeChar
  split
  case h_8 =>
    split
    · next hlow =>
      have hhex : ∀ i : Fin 0x20,
        NoControls ['\\', 'u', '0', '0', hexChar (i / 16), hexChar (i % 16)] := by
        decide
      exact hhex ⟨c.toNat, hlow⟩
    · next hhigh => exact List.forall_mem_singleton.2 (Nat.le_of_not_lt hhigh)
  all_goals decide

theorem noControls_writeString (s : String) : NoControls (writeString s) := by
  have hquote : NoControls ['"'] := by decide
  exact (hquote.append (noControls_flatMap fun c _ => noControls_escapeChar c)).append hquote

theorem noControls_repr (i : Int) : NoControls i.repr.toList := by
  rw [repr_toList]
  refine NoControls.append ?_ fun c hc => ?_
  · split <;> decide
  · have hdigit := Integer.isDigit_of_mem_toDigits hc
    rw [Integer.isDigit, Bool.and_eq_true, decide_eq_true_iff] at hdigit
    exact Nat.le_trans (by decide : 0x20 ≤ '0'.toNat) hdigit.1

/-- The forms of one or more things with commas between them. -/
theorem noControls_commas {a : α} {rest : List α} {f : α → List Char}
    (h : ∀ b ∈ a :: rest, NoControls (f b)) :
    NoControls (f a ++ rest.flatMap (',' :: f ·)) := by
  obtain ⟨hfirst, hrest⟩ := List.forall_mem_cons.1 h
  exact hfirst.append (noControls_flatMap fun b hb =>
    List.forall_mem_cons.2 ⟨by decide, hrest b hb⟩)

theorem noControls_array {items : List Json} (h : ∀ item ∈ items, NoControls item.write) :
    NoControls (array items).write := by
  have hopen : NoControls ['['] := by decide
  have hclose : NoControls [']'] := by decide
  refine (hopen.append ?_).append hclose
  cases items with
  | nil => exact List.forall_mem_nil _
  | cons item rest =>
    rw [writeItems_cons]
    exact noControls_commas h

theorem noControls_object {members : List (String × Json)}
    (h : ∀ m ∈ members, NoControls m.2.write) :
    NoControls (object members).write := by
  have hopen : NoControls ['\x7b'] := by decide
  have hclose : NoControls ['\x7d'] := by decide
  have hmember : ∀ m ∈ members, NoControls (writeString m.1 ++ ':' :: m.2.write) := fun m hm =>
    (noControls_writeString m.1).append (List.forall_mem_cons.2 ⟨by decide, h m hm⟩)
  refine (hopen.append ?_).append hclose
  cases members with
  | nil => exact List.forall_mem_nil _
  | cons m rest =>
    rw [writeMembers_cons]
    exact noControls_commas hmember

theorem Plain.noControls {n : Nat} {json : Json} (h : Plain n json) : NoControls json.write := by
  induction h with
  | null => decide
  | bool b => cases b <;> decide
  | int _ => exact noControls_repr _
  | string s => exact noControls_writeString s
  | array _ ih => exact noControls_array ih
  | object _ ih => exact noControls_object ih

end Json

/-! ## Values given last -/

namespace Table

variable {α : Type u}

theorem get?_ofList (es : List (String × α)) (k : String) :
    (ofList es).get? k = es.reverse.lookup k := by
  have hfold : ofList es = es.reverse.foldr (fun e t => t.insert e.1 e.2) empty :=
    List.foldr_reverse.symm
  rw [hfold]
  induction es.reverse with
  | nil => rfl
  | cons e rest ih =>
    rw [List.foldr_cons, get?_insert, ih, List.lookup_cons]
    cases h : k == e.1 with
    | true => rw [if_pos (beq_iff_eq.1 h)]
    | false => rw [if_neg (beq_eq_false_iff_ne.1 h)]

theorem mem_entries_iff {t : Table α} {k : String} {a : α} :
    (k, a) ∈ t.entries ↔ t.get? k = some a := by
  refine ⟨fun h => ?_, mem_entries_of_get?⟩
  have hkey : k ∈ t.keys := List.mem_map_of_mem h
  obtain ⟨b, hb⟩ := Option.isSome_iff_exists.1 (mem_keys_iff.1 hkey)
  have hsame := List.inj_on_of_nodup_map t.nodup h (mem_entries_of_get? hb) rfl
  rw [hb, (Prod.mk.inj hsame).2]

end Table

namespace Log

theorem Level.ofName?_name (level : Level) : ofName? level.name = some level := by
  cases level <;> decide +kernel

namespace Record

/-- The value that was given last for the key of a field. -/
def value? (r : Record) (k : String) : Option String := r.fields.reverse.lookup k

theorem fields_eq_nil_iff {r : Record} : r.fields = [] ↔ ∀ k, r.value? k = none := by
  constructor
  · intro h k
    rw [value?, h]
    rfl
  · intro h
    refine List.eq_nil_iff_forall_not_mem.2 fun f hf => ?_
    have hnone := List.lookup_eq_none_iff.1 (h f.1) f (List.mem_reverse.2 hf)
    simp at hnone

theorem mem_sortedFields {r : Record} {k v : String} :
    (k, v) ∈ r.sortedFields ↔ r.value? k = some v := by
  rw [sortedFields, List.mem_mergeSort, Table.mem_entries_iff, Table.get?_ofList, value?]

theorem nodup_sortedFields (r : Record) : (r.sortedFields.map Prod.fst).Nodup :=
  ((List.mergeSort_perm _ _).map Prod.fst).nodup_iff.2 (Table.ofList r.fields).nodup

theorem key_trans (a b c : String × String) (hab : decide (a.1 ≤ b.1) = true)
    (hbc : decide (b.1 ≤ c.1) = true) :
    decide (a.1 ≤ c.1) = true :=
  decide_eq_true (String.le_trans (of_decide_eq_true hab) (of_decide_eq_true hbc))

theorem key_total (a b : String × String) : (decide (a.1 ≤ b.1) || decide (b.1 ≤ a.1)) = true := by
  simpa using String.le_total a.1 b.1

theorem sortedFields_pairwise (r : Record) : r.sortedFields.Pairwise fun a b => a.1 ≤ b.1 := by
  have hsorted := List.pairwise_mergeSort key_trans key_total (Table.ofList r.fields).entries
  simpa only [sortedFields, decide_eq_true_eq] using hsorted

/-- The fields come out the same, whatever order they were given in. -/
theorem sortedFields_congr {r r' : Record} (h : ∀ k, r.value? k = r'.value? k) :
    r.sortedFields = r'.sortedFields := by
  have hperm : r.sortedFields.Perm r'.sortedFields := by
    refine (List.perm_ext_iff_of_nodup r.nodup_sortedFields.of_map r'.nodup_sortedFields.of_map).2
      ?_
    rintro ⟨k, v⟩
    rw [mem_sortedFields, mem_sortedFields, h]
  refine hperm.eq_of_pairwise (fun a b ha hb hab hba => ?_) r.sortedFields_pairwise
    r'.sortedFields_pairwise
  exact List.inj_on_of_nodup_map r'.nodup_sortedFields (hperm.mem_iff.1 ha) hb
    (String.le_antisymm hab hba)

/-! ## What a line tells -/

/-- The members tell a record: they have no other keys, none of them twice, and what stands under
each is the record's. -/
structure Tells (stamp : Option String) (r : Record) (members : List (String × Json)) : Prop where
  known : ∀ m ∈ members, m.1 ∈ ["timestamp", "level", "target", "message", "fields"]
  distinct : (members.map Prod.fst).Nodup
  timestamp : ∀ json, ("timestamp", json) ∈ members ↔ ∃ time ∈ stamp, json = .string time
  level : ∀ json, ("level", json) ∈ members ↔ json = .string r.level.name
  target : ∀ json, ("target", json) ∈ members ↔ json = .string r.target
  message : ∀ json, ("message", json) ∈ members ↔ json = .string r.message
  unfielded : (∀ json, ("fields", json) ∉ members) ↔ r.fields = []
  fields : ∀ json, ("fields", json) ∈ members →
    ∃ entries : List (String × Json), json = .object entries ∧
    (entries.map Prod.fst).Nodup ∧ ∀ k value, (k, value) ∈ entries ↔
      ∃ v, r.value? k = some v ∧ value = .string v

theorem mem_members {stamp : Option String} {r : Record} {m : String × Json} : m ∈ r.members stamp ↔
    (∃ time ∈ stamp, m = ("timestamp", .string time)) ∨ m = ("level", .string r.level.name) ∨
      m = ("target", .string r.target) ∨ m = ("message", .string r.message) ∨
      r.fields ≠ [] ∧ m = ("fields", .object (r.sortedFields.map fun f => (f.1, .string f.2))) := by
  have htime : m ∈ stamp.toList.map (fun time => ("timestamp", Json.string time)) ↔
      ∃ time ∈ stamp, m = ("timestamp", .string time) := by
    simp only [List.mem_map, Option.mem_toList, Option.mem_def, eq_comm]
  rw [members, List.mem_append, List.mem_append, htime, or_assoc]
  by_cases h : r.fields = [] <;> simp [h, or_assoc]

theorem tells_members (stamp : Option String) (r : Record) : r.Tells stamp (r.members stamp) where
  known m hm := by
    obtain ⟨time, -, rfl⟩ | rfl | rfl | rfl | ⟨-, rfl⟩ := mem_members.1 hm <;> simp
  distinct := by
    unfold members
    cases stamp <;> by_cases h : r.fields = [] <;> simp [h]
  timestamp json := by simp [mem_members]
  level json := by simp [mem_members]
  target json := by simp [mem_members]
  message json := by simp [mem_members]
  unfielded := by simp [mem_members]
  fields json hm := by
    obtain ⟨-, rfl⟩ : r.fields ≠ [] ∧
      json = .object (r.sortedFields.map fun f => (f.1, .string f.2)) := by
      simpa [mem_members] using hm
    refine ⟨_, rfl, ?_, fun k value => ?_⟩
    · rw [List.map_map]
      exact r.nodup_sortedFields
    · constructor
      · intro h
        obtain ⟨field, hfield, heq⟩ := List.mem_map.1 h
        cases heq
        exact ⟨field.2, mem_sortedFields.1 hfield, rfl⟩
      · rintro ⟨v, hv, rfl⟩
        exact List.mem_map.2 ⟨(k, v), mem_sortedFields.2 hv, rfl⟩

/-- The records are the same but for the order of fields and values that were given again. -/
structure Same (r r' : Record) : Prop where
  level : r.level = r'.level
  target : r.target = r'.target
  message : r.message = r'.message
  fields : ∀ k, r.value? k = r'.value? k

/-- What tells two records tells the same. -/
theorem Tells.same {stamp stamp' : Option String} {r r' : Record} {members : List (String × Json)}
    (h : r.Tells stamp members) (h' : r'.Tells stamp' members) : r.Same r' where
  level := by
    have hname := (h'.level _).1 ((h.level _).2 rfl)
    rw [Json.string.injEq] at hname
    rw [← Option.some.injEq, ← Level.ofName?_name r.level, hname, Level.ofName?_name]
  target := Json.string.inj ((h'.target _).1 ((h.target _).2 rfl))
  message := Json.string.inj ((h'.message _).1 ((h.message _).2 rfl))
  fields k := by
    by_cases hfields : ∃ json, ("fields", json) ∈ members
    · obtain ⟨json, hjson⟩ := hfields
      obtain ⟨entries, rfl, -, hentries⟩ := h.fields json hjson
      obtain ⟨entries', heq, -, hentries'⟩ := h'.fields _ hjson
      cases heq
      refine Option.ext fun v => ?_
      have hvalue := (hentries k (.string v)).symm.trans (hentries' k (.string v))
      simpa using hvalue
    · have hempty : ∀ json, ("fields", json) ∉ members := fun json hjson => hfields ⟨json, hjson⟩
      rw [fields_eq_nil_iff.1 (h.unfielded.1 hempty) k,
        fields_eq_nil_iff.1 (h'.unfielded.1 hempty) k]

theorem Same.members_eq {stamp : Option String} {r r' : Record} (h : r.Same r') :
    r.members stamp = r'.members stamp := by
  have hempty : r.fields.isEmpty = r'.fields.isEmpty := by
    rw [Bool.eq_iff_iff, List.isEmpty_iff, List.isEmpty_iff, fields_eq_nil_iff, fields_eq_nil_iff]
    simp only [h.fields]
  rw [members, members, h.level, h.target, h.message, hempty, sortedFields_congr h.fields]

/-! ## The line of a record -/

theorem plain_toJson (stamp : Option String) (r : Record) : (r.toJson stamp).Plain 2 := by
  refine .object fun m hm => ?_
  obtain ⟨time, -, rfl⟩ | rfl | rfl | rfl | ⟨-, rfl⟩ := mem_members.1 hm
  case inr.inr.inr.inr =>
    refine .object fun f hf => ?_
    obtain ⟨field, -, rfl⟩ := List.mem_map.1 hf
    exact .string field.2
  all_goals exact .string _

theorem ofText?_jsonLine (stamp : Option String) (r : Record) :
    Json.ofText? (r.jsonLine stamp) = some (.object (r.members stamp)) :=
  Json.ofText?_toText (r.plain_toJson stamp) (by decide)

theorem noControls_jsonLine (stamp : Option String) (r : Record) :
    Json.NoControls (r.jsonLine stamp).toList := by
  rw [jsonLine, Json.toText, String.toList_ofList]
  exact (r.plain_toJson stamp).noControls

theorem breaks_jsonLine (stamp : Option String) (r : Record) : Text.breaks (r.jsonLine stamp) = 0 :=
  Text.breaks_eq_zero.2 fun h => absurd (r.noControls_jsonLine stamp _ h) (by decide)

/-- Only what is the same can have the same line, at whatever times. -/
theorem same_of_jsonLine_eq {stamp stamp' : Option String} {r r' : Record}
    (h : r.jsonLine stamp = r'.jsonLine stamp') : r.Same r' := by
  have hread := ofText?_jsonLine stamp r
  rw [h, ofText?_jsonLine, Option.some.injEq, Json.object.injEq] at hread
  exact (r.tells_members stamp).same (hread ▸ r'.tells_members stamp')

theorem Same.jsonLine_eq {stamp : Option String} {r r' : Record} (h : r.Same r') :
    r.jsonLine stamp = r'.jsonLine stamp := by
  rw [jsonLine, jsonLine, toJson, toJson, h.members_eq]

end Record

/-! ## The JSON log -/

section

variable {c : Config} (hc : c.format = .json)
include hc

theorem text_json (call : Call) :
    c.text call = call.record.jsonLine (c.stamp? call.time) ++ "\n" := by
  rw [Config.text, Record.text, hc, Record.line?]

theorem lines_output_json (calls : List Call) :
    Text.lines (c.output calls) = calls.map fun call => call.record.jsonLine (c.stamp? call.time) :=
  Config.lines_output_of_single fun call _ => ⟨text_json hc call, call.record.breaks_jsonLine _⟩

end

/-- **A line of JSON tells its record.** A call whose level passes writes one line without control
characters, which is read as an object that tells the record. Another record can have the same line,
at whatever times, just if it is the same but for the order of fields and values that were given
again. -/
theorem json_line_tells (c : Config) (s : State) (call : Call) (hc : c.format = .json)
    (hs : s.enabled call.record.level = true) :
    (∃ line members,
      c.output (s.passing [.write call]) = line ++ "\n" ∧
        Text.lines (c.output (s.passing [.write call])) = [line] ∧
        (∀ character ∈ line.toList, 0x20 ≤ character.toNat) ∧
        Json.ofText? line = some (.object members) ∧
        call.record.Tells (c.stamp? call.time) members) ∧
      ∀ other : Record,
        (∃ time time', c.text ⟨time, call.record⟩ = c.text ⟨time', other⟩) ↔
          call.record.Same other := by
  have hpassing : s.passing [.write call] = [call] :=
    (s.passing_writes [call]).trans (List.filter_cons_of_pos hs)
  have houtput : c.output [call] = c.text call := by simp [Config.output]
  refine ⟨⟨_, _, ?_, ?_, call.record.noControls_jsonLine (c.stamp? call.time),
    call.record.ofText?_jsonLine (c.stamp? call.time),
    call.record.tells_members (c.stamp? call.time)⟩,
    fun other => ⟨?_, fun h => ⟨call.time, call.time, ?_⟩⟩⟩
  · rw [hpassing, houtput, text_json hc]
  · rw [hpassing, lines_output_json hc, List.map_singleton]
  · rintro ⟨time, time', h⟩
    rw [text_json hc, text_json hc, String.append_left_inj] at h
    exact Record.same_of_jsonLine_eq h
  · rw [text_json hc, text_json hc, h.jsonLine_eq]

/-- A message with quotes, a line break, a backslash and a bell, and a field that is given twice. -/
def knot : Call where
  time := "2024-05-01T08:00:00+00:00"
  record := ⟨.warn, "pennant", "say \"shut\"\nC:\\gate \x07",
    [("flag", "gate"), ("target", "ann"), ("flag", "door")]⟩

theorem knot_is_told :
    ∃ line members entries,
      Config.default.output (State.passing (.ofConfig .default) [.write knot]) = line ++ "\n" ∧
        Json.ofText? line = some (.object members) ∧
        ("message", .string "say \"shut\"\nC:\\gate \x07") ∈ members ∧
        ("fields", .object entries) ∈ members ∧ ("flag", .string "door") ∈ entries := by
  obtain ⟨⟨line, members, hline, -, -, hread, htells⟩, -⟩ :=
    json_line_tells .default (.ofConfig .default) knot rfl (by decide)
  have hgiven : ¬∀ json, ("fields", json) ∉ members := fun h => nomatch htells.unfielded.1 h
  obtain ⟨json, hjson⟩ := not_forall_not.1 hgiven
  obtain ⟨entries, rfl, -, hentries⟩ := htells.fields json hjson
  exact ⟨line, members, entries, hline, hread, (htells.message _).2 rfl, hjson,
    (hentries _ _).2 ⟨"door", rfl, rfl⟩⟩

end Log
end FeatureFlags
