import FeatureFlags.Proofs.Grammar

/-!
# The history of a store

A store is changed by setting and removing flags and segments. Whatever the changes were, it is a
pair of maps that know nothing of each other, and under an identifier each of them holds what was
last set there, if it was not removed since. A store that is loaded from a document has the history
of setting what the document lists.

**Results.**
* `Edit.get?_run`: what edits leave under an identifier of a table.
* `Store.flags_after`, `Store.segments_after`: each map has a history of its own.
* `Store.ofText_eq_ok_iff`: a loaded store has the history of its document.
* `store_is_its_history`: all of it together.
-/
namespace FeatureFlags

open Json Json.Schema

/-! ## Edits of a table -/

/-- A change of a table whose values have identifiers of their own. -/
inductive Edit (α : Type) where
  | set (value : α)
  | remove (identifier : String)
  deriving DecidableEq

namespace Edit

variable {α : Type} (key : α → String)

/-- The identifier that the edit is about. -/
def subject : Edit α → String
  | set a => key a
  | remove id => id

/-- What stands under that identifier afterwards. -/
def value? : Edit α → Option α
  | set a => some a
  | remove _ => none

def apply (t : Table α) : Edit α → Table α
  | set a => t.insert (key a) a
  | remove id => t.erase id

/-- The table after edits, one after the other. -/
def run (t : Table α) (edits : List (Edit α)) : Table α := edits.foldl (apply key) t

/-- The value is the one that was set last under the identifier, which is its own, and nothing is
removed there since. -/
def Latest (edits : List (Edit α)) (id : String) (a : α) : Prop :=
  ∃ before after, edits = before ++ set a :: after ∧ key a = id ∧ ∀ e ∈ after, subject key e ≠ id

variable {key} {t : Table α} {edits : List (Edit α)} {e : Edit α} {id : String} {a : α}

theorem get?_apply :
    (apply key t e).get? id = if subject key e = id then e.value? else t.get? id := by
  cases e with
  | set a => simp only [apply, subject, value?, Table.get?_insert, eq_comm]
  | remove id' => simp only [apply, subject, value?, Table.get?_erase, eq_comm]

theorem value?_eq_some_iff : e.value? = some a ↔ e = set a := by
  cases e <;> simp [value?]

theorem not_latest_nil : ¬ Latest key [] id a := by
  rintro ⟨before, after, h, -⟩
  simp at h

theorem latest_cons : Latest key (e :: edits) id a ↔
    Latest key edits id a ∨ e = set a ∧ key a = id ∧ ∀ e ∈ edits, subject key e ≠ id := by
  constructor
  · rintro ⟨_ | ⟨e', before⟩, after, h, hkey, hafter⟩
    · obtain ⟨rfl, rfl⟩ := List.cons.inj h
      exact .inr ⟨rfl, hkey, hafter⟩
    · obtain ⟨-, rfl⟩ := List.cons.inj h
      exact .inl ⟨before, after, rfl, hkey, hafter⟩
  · rintro (⟨before, after, rfl, hkey, hafter⟩ | ⟨rfl, hkey, hafter⟩)
    · exact ⟨e :: before, after, rfl, hkey, hafter⟩
    · exact ⟨[], edits, rfl, hkey, hafter⟩

/-- After edits there is what was set last, and else what was there before if no edit was about
it. -/
theorem get?_run : (run key t edits).get? id = some a ↔
    Latest key edits id a ∨ t.get? id = some a ∧ ∀ e ∈ edits, subject key e ≠ id := by
  induction edits generalizing t with
  | nil => simp [run, not_latest_nil]
  | cons e edits ih =>
    have hrun : run key t (e :: edits) = run key (apply key t e) edits := rfl
    rw [hrun, ih, latest_cons, get?_apply, or_assoc, List.forall_mem_cons]
    refine or_congr_right ?_
    -- an edit about the identifier settles it if no later one does; any other edit leaves it alone
    by_cases he : subject key e = id
    · rw [if_pos he, value?_eq_some_iff]
      constructor
      · rintro ⟨rfl, hrest⟩
        exact .inl ⟨rfl, he, hrest⟩
      · rintro (⟨rfl, -, hrest⟩ | ⟨-, hne, -⟩)
        · exact ⟨rfl, hrest⟩
        · exact absurd he hne
    · rw [if_neg he]
      constructor
      · rintro ⟨ha, hrest⟩
        exact .inr ⟨ha, he, hrest⟩
      · rintro (⟨rfl, hkey, -⟩ | ⟨ha, -, hrest⟩)
        · exact absurd hkey he
        · exact ⟨ha, hrest⟩

theorem get?_run_empty : (run key .empty edits).get? id = some a ↔ Latest key edits id a := by
  simp [get?_run]

/-- After values are set in order, the last one with an identifier is there. -/
theorem latest_map_set {as : List α} : Latest key (as.map set) id a ↔
    ∃ before after, as = before ++ a :: after ∧ key a = id ∧ ∀ b ∈ after, key b ≠ id := by
  induction as with
  | nil => exact iff_of_false not_latest_nil (by simp)
  | cons b as ih =>
    rw [List.map_cons, latest_cons, ih]
    constructor
    · rintro (⟨before, after, rfl, hkey, hafter⟩ | ⟨hb, hkey, hafter⟩)
      · exact ⟨b :: before, after, rfl, hkey, hafter⟩
      · cases hb
        exact ⟨[], as, rfl, hkey, fun c hc => hafter (set c) (List.mem_map_of_mem hc)⟩
    · rintro ⟨_ | ⟨b', before⟩, after, h, hkey, hafter⟩
      · obtain ⟨rfl, rfl⟩ := List.cons.inj h
        refine .inr ⟨rfl, hkey, fun e he => ?_⟩
        obtain ⟨c, hc, rfl⟩ := List.mem_map.1 he
        exact hafter c hc
      · obtain ⟨-, rfl⟩ := List.cons.inj h
        exact .inl ⟨before, after, rfl, hkey, hafter⟩

/-- A map tells what edits have left of it: what is found under an identifier, what is handed out
when that is removed, the error when nothing is found, and how many identifiers have something. -/
structure Told (key : α → String) (edits : List (Edit α))
    (lookup : String → Except EvaluationError α)
    (handOut : String → Option α) (missing : String → EvaluationError) (count : Nat) : Prop where
  found : ∀ id a, lookup id = .ok a ↔ Latest key edits id a
  missed : ∀ id cause, lookup id = .error cause ↔
    (∀ a, ¬ Latest key edits id a) ∧ cause = missing id
  handed : ∀ id, handOut id = (lookup id).toOption
  counted : ∃ ids : List String, ids.Nodup ∧ (∀ id, id ∈ ids ↔ ∃ a, Latest key edits id a) ∧
    count = ids.length

theorem told_of_run (ht : t = run key .empty edits) {lookup : String → Except EvaluationError α}
    {missing : String → EvaluationError} (hfound : ∀ id a, lookup id = .ok a ↔ t.get? id = some a)
    (hmissed : ∀ id, t.get? id = none → lookup id = .error (missing id)) :
    Told key edits lookup t.get? missing t.size := by
  have hlatest (id : String) (a : α) : t.get? id = some a ↔ Latest key edits id a := by
    rw [ht, get?_run_empty]
  constructor
  · exact fun id a => (hfound id a).trans (hlatest id a)
  · intro id cause
    simp only [← hlatest]
    cases h : t.get? id with
    | none => simp [hmissed id h, eq_comm]
    | some a => simp [(hfound id a).2 h]
  · intro id
    cases h : t.get? id with
    | none => rw [hmissed id h]; rfl
    | some a => rw [(hfound id a).2 h]; rfl
  · refine ⟨t.keys, t.nodup, fun id => ?_, t.size_keys.symm⟩
    simp only [Table.mem_keys_iff, Option.isSome_iff_exists, hlatest]

end Edit

/-! ## Changes of a store -/

/-- A change of a store is an edit of its flags or of its segments. -/
inductive Store.Change where
  | flag (edit : Edit Flag)
  | segment (edit : Edit Segment)
  deriving DecidableEq

namespace Store

namespace Change

def apply (s : Store) : Change → Store
  | flag (.set f) => s.setFlag f
  | flag (.remove id) => (s.takeFlag id).2
  | segment (.set x) => s.setSegment x
  | segment (.remove id) => (s.takeSegment id).2

def flagEdit? : Change → Option (Edit Flag)
  | flag edit => some edit
  | segment _ => none

def segmentEdit? : Change → Option (Edit Segment)
  | flag _ => none
  | segment edit => some edit

end Change

/-- The store after changes, one after the other. -/
def after (s : Store) (history : List Change) : Store := history.foldl Change.apply s

/-- The edits of flags in a history. -/
def flagEdits (history : List Change) : List (Edit Flag) := history.filterMap Change.flagEdit?

/-- The edits of segments in a history. -/
def segmentEdits (history : List Change) : List (Edit Segment) :=
  history.filterMap Change.segmentEdit?

variable {s : Store} {history : List Change}

theorem flags_apply (s : Store) (c : Change) :
    (c.apply s).flags = Edit.run Flag.identifier s.flags c.flagEdit?.toList := by
  rcases c with (f | id) | (x | id) <;> rfl

theorem segments_apply (s : Store) (c : Change) :
    (c.apply s).segments = Edit.run Segment.identifier s.segments c.segmentEdit?.toList := by
  rcases c with (f | id) | (x | id) <;> rfl

/-- A table that each change edits in its own way is edited by the whole history that way. -/
theorem table_after {α : Type} {key : α → String} (table : Store → Table α)
    {edit? : Change → Option (Edit α)}
    (happly : ∀ s c, table (Change.apply s c) = Edit.run key (table s) (edit? c).toList) (s : Store)
    (history : List Change) :
    table (s.after history) = Edit.run key (table s) (history.filterMap edit?) := by
  induction history generalizing s with
  | nil => rfl
  | cons c history ih =>
    have hafter : s.after (c :: history) = (c.apply s).after history := rfl
    rw [hafter, ih, happly, List.filterMap_cons]
    cases edit? c <;> rfl

/-- What happens to segments does not matter to flags. -/
theorem flags_after : (s.after history).flags =
    Edit.run Flag.identifier s.flags (flagEdits history) :=
  table_after (fun s => s.flags) flags_apply s history

/-- What happens to flags does not matter to segments. -/
theorem segments_after :
    (s.after history).segments = Edit.run Segment.identifier s.segments (segmentEdits history) :=
  table_after (fun s => s.segments) segments_apply s history

theorem after_append (s : Store) (made history : List Change) :
    (s.after made).after history = s.after (made ++ history) :=
  List.foldl_append.symm

theorem told_flags (history : List Change) :
    Edit.Told Flag.identifier (flagEdits history) (empty.after history).getFlag
      (fun id => ((empty.after history).takeFlag id).1) .flagNotFound
      (empty.after history).flagCount := by
  refine Edit.told_of_run flags_after (fun _ _ => Source.lookupFlag_eq_ok) fun id h => ?_
  simp only [getFlag, Source.lookupFlag, Definitions.source, h]

theorem told_segments (history : List Change) :
    Edit.Told Segment.identifier (segmentEdits history) (empty.after history).getSegment
      (fun id => ((empty.after history).takeSegment id).1) .segmentNotFound
      (empty.after history).segmentCount := by
  refine Edit.told_of_run segments_after (fun _ _ => Source.lookupSegment_eq_ok) fun id h => ?_
  simp only [getSegment, Source.lookupSegment, Definitions.source, h]

end Store

/-! ## Stores from documents -/

namespace Snapshot

/-- Setting the flags and then the segments of a snapshot, in order. -/
def changes (s : Snapshot) : List Store.Change :=
  s.flags.map (fun f => .flag (.set f)) ++ s.segments.map fun x => .segment (.set x)

theorem ofSnapshot_eq (s : Snapshot) : Store.ofSnapshot s = Store.empty.after s.changes := by
  simp only [Store.ofSnapshot, Store.after, changes, List.foldl_append, List.foldl_map]
  rfl

theorem flagEdits_changes (s : Snapshot) : Store.flagEdits s.changes = s.flags.map .set := by
  have hsegments : s.segments.filterMap (fun _ => none) = ([] : List (Edit Flag)) := by simp
  simp only [Store.flagEdits, changes, List.filterMap_append, List.filterMap_map, Function.comp_def,
    Store.Change.flagEdit?, hsegments, List.append_nil, List.filterMap_eq_map']

theorem segmentEdits_changes (s : Snapshot) :
    Store.segmentEdits s.changes = s.segments.map .set := by
  have hflags : s.flags.filterMap (fun _ => none) = ([] : List (Edit Segment)) := by simp
  simp only [Store.segmentEdits, changes, List.filterMap_append, List.filterMap_map,
    Function.comp_def, Store.Change.segmentEdit?, hflags, List.nil_append, List.filterMap_eq_map']

/-- The parts of a document by name: the members of an object, or the items of an array. -/
def named : Json → List (String × Json)
  | .object members => members
  | .array items => ["flags", "segments"].zip items
  | _ => []

/-- The items that a document lists under a name, in order. -/
def listed (name : String) (json : Json) : List Json :=
  match (named json).lookup name with
  | some (.array items) => items
  | _ => []

theorem lookup_eq_head?_given {name : String} {test : String → Bool}
    (htest : ∀ key, test key = (key == name))
    (members : List (String × Json)) : members.lookup name = (given test members).head? := by
  induction members with
  | nil => rfl
  | cons m members ih =>
    obtain ⟨key, json⟩ := m
    by_cases hkey : key = name
    · subst hkey
      rw [List.lookup_cons_self, given_cons_of_named (by simp [htest]), List.head?_cons]
    · rw [given_cons_of_not_named (by simp [htest, hkey]), ← ih, List.lookup_cons,
        beq_false_of_ne (Ne.symm hkey)]

/-- A list that may be left out is read item by item. -/
theorem forall₂_listed {name : String} {c : Codec α} {as : List α} {members : List (String × Json)}
    (h : (Json.Field.defaulting name c.list []).Takes
      (given (Json.Field.defaulting name c.list []).named members) as) :
    List.Forall₂ (fun item a => c.decode item = .ok a) (listed name (.object members)) as := by
  have htest (key : String) : (Json.Field.defaulting name c.list []).named key = (key == name) := by
    simp [Json.Field.named, Json.Field.defaulting]
  rw [listed, named, lookup_eq_head?_given htest]
  cases hgiven : given (Json.Field.defaulting name c.list []).named members with
  | nil =>
    rw [hgiven] at h
    cases h
    exact .nil
  | cons json jsons =>
    rw [hgiven] at h
    cases jsons with
    | cons => cases h
    | nil =>
      cases json with
      | array items => exact decodeItems_eq_ok_iff.1 h
      | _ => cases h

/-- The snapshot has what is read from each item of the document, in order. -/
structure ReadFrom (s : Snapshot) (json : Json) : Prop where
  flags : List.Forall₂ (fun item f => Flag.record.decode item = .ok f) (listed "flags" json) s.flags
  segments : List.Forall₂ (fun item x => Segment.record.decode item = .ok x)
    (listed "segments" json) s.segments

theorem readFrom_of_decode {json : Json} {s : Snapshot} (h : record.decode json = .ok s) :
    s.ReadFrom json := by
  have hdistinct : record.fields.Distinct := Fields.distinct_of_nodup (by decide)
  cases (Snapshot.describes.accepts json).1 ⟨s, h⟩ with
  | object =>
    obtain ⟨⟨flags, segments, ⟨⟩⟩, ⟨hflags, hsegments, -⟩, rfl⟩ :=
      (Record.decode_object_eq_ok_iff hdistinct).1 h
    exact ⟨forall₂_listed hflags, forall₂_listed hsegments⟩
  | array hlength =>
    -- the array is read as the object that `named` makes of it
    have h := (Snapshot.describes.respelled (.byName hlength)).1 h
    obtain ⟨⟨flags, segments, ⟨⟩⟩, ⟨hflags, hsegments, -⟩, rfl⟩ :=
      (Record.decode_object_eq_ok_iff hdistinct).1 h
    exact ⟨forall₂_listed hflags, forall₂_listed hsegments⟩

theorem rightUnique_decode (decode : Json → Except Fault α) :
    Relator.RightUnique fun json a => decode json = .ok a :=
  fun _ _ _ ha hb => Except.ok.inj (ha.symm.trans hb)

theorem ReadFrom.unique {json : Json} {s s' : Snapshot} (h : s.ReadFrom json)
    (h' : s'.ReadFrom json) : s = s' := by
  obtain ⟨flags, segments⟩ := s
  obtain ⟨flags', segments'⟩ := s'
  have hflags : flags = flags' := (rightUnique_decode _).forall₂ h.flags h'.flags
  have hsegments : segments = segments' := (rightUnique_decode _).forall₂ h.segments h'.segments
  rw [hflags, hsegments]

theorem decode_eq_ok_iff {json : Json} {s : Snapshot} :
    record.decode json = .ok s ↔ schema.Accepts json ∧ s.ReadFrom json := by
  constructor
  · exact fun h => ⟨(Snapshot.describes.accepts json).1 ⟨s, h⟩, readFrom_of_decode h⟩
  · rintro ⟨haccepts, hread⟩
    obtain ⟨s', h⟩ := (Snapshot.describes.accepts json).2 haccepts
    rwa [hread.unique (readFrom_of_decode h)]

end Snapshot

namespace Store

theorem ofText_eq_ok_iff {text : String} {s : Store} : ofText text = .ok s ↔
    ∃ (json : Json) (snapshot : Snapshot), Json.ofText? text = some json ∧
      Snapshot.schema.Accepts json ∧
      snapshot.ReadFrom json ∧ s = empty.after snapshot.changes := by
  have hread : ofText text = .ok s ↔ ∃ snapshot,
    readDocument Snapshot.record.decode text = .ok snapshot ∧
      s = empty.after snapshot.changes := by
    unfold ofText
    cases readDocument Snapshot.record.decode text with
    | error fault => simp
    | ok snapshot => simp [Snapshot.ofSnapshot_eq, eq_comm]
  rw [hread]
  simp only [readDocument_eq_ok_iff, Snapshot.decode_eq_ok_iff]
  constructor
  · rintro ⟨snapshot, ⟨json, htext, haccepts, hread⟩, hs⟩
    exact ⟨json, snapshot, htext, haccepts, hread, hs⟩
  · rintro ⟨json, snapshot, htext, haccepts, hread, hs⟩
    exact ⟨snapshot, ⟨json, htext, haccepts, hread⟩, hs⟩

theorem exists_ofText_iff (text : String) :
    (∃ s, ofText text = .ok s) ↔ ∃ json, Json.ofText? text = some json ∧
      Snapshot.schema.Accepts json := by
  rw [← Snapshot.describes.reads_text, ofText]
  cases readDocument Snapshot.record.decode text <;> simp

theorem fault_of_ofText {text : String} {cause : EvaluationError} (h : ofText text = .error cause) :
    ∃ fault, cause = .load fault := by
  unfold ofText at h
  split at h
  · cases h
  · cases h
    exact ⟨_, rfl⟩

/-- One item that is no definition spoils the document. -/
theorem ofText_fails {text : String} {json : Json} (htext : Json.ofText? text = some json)
    (hbad : (∃ item ∈ Snapshot.listed "flags" json, ¬ Flag.schema.Accepts item) ∨
      ∃ item ∈ Snapshot.listed "segments" json, ¬ Segment.schema.Accepts item) :
    ∃ fault, ofText text = .error (.load fault) := by
  cases h : ofText text with
  | error cause =>
    obtain ⟨fault, rfl⟩ := fault_of_ofText h
    exact ⟨fault, rfl⟩
  | ok s =>
    obtain ⟨json', snapshot, htext', -, hread, -⟩ := ofText_eq_ok_iff.1 h
    cases htext.symm.trans htext'
    rcases hbad with ⟨item, hitem, hbad⟩ | ⟨item, hitem, hbad⟩
    · exact absurd ((Flag.describes.accepts item).1
        (forall₂_exists_iff.1 ⟨_, hread.flags⟩ item hitem)) hbad
    · exact absurd ((Segment.describes.accepts item).1
        (forall₂_exists_iff.1 ⟨_, hread.segments⟩ item hitem)) hbad

end Store

/-! ## All of it -/

/-- The store is what a history has left: each of its maps tells what the edits of its own kind have
left, and depends on no others. -/
structure Store.Follows (s : Store) (history : List Store.Change) : Prop where
  flags : Edit.Told Flag.identifier (flagEdits history) s.getFlag
    (fun id => (s.takeFlag id).1) .flagNotFound
    s.flagCount
  segments : Edit.Told Segment.identifier (segmentEdits history) s.getSegment
    (fun id => (s.takeSegment id).1)
    .segmentNotFound s.segmentCount
  flagTable : s.flags = Edit.run Flag.identifier .empty (flagEdits history)
  segmentTable : s.segments = Edit.run Segment.identifier .empty (segmentEdits history)

theorem Store.follows_after (history : List Store.Change) : (empty.after history).Follows history :=
  ⟨told_flags history, told_segments history, flags_after, segments_after⟩

/-- What a snapshot says of an identifier is its last definition with it. -/
theorem Snapshot.getFlag_after {s : Snapshot} {id : String} {f : Flag} :
    (Store.empty.after s.changes).getFlag id = .ok f ↔
      ∃ before after, s.flags = before ++ f :: after ∧ f.identifier = id ∧
        ∀ g ∈ after, g.identifier ≠ id := by
  rw [(Store.told_flags s.changes).found, flagEdits_changes, Edit.latest_map_set]

theorem Snapshot.getSegment_after {s : Snapshot} {id : String} {x : Segment} :
    (Store.empty.after s.changes).getSegment id = .ok x ↔
      ∃ before after, s.segments = before ++ x :: after ∧ x.identifier = id ∧
        ∀ y ∈ after, y.identifier ≠ id := by
  rw [(Store.told_segments s.changes).found, segmentEdits_changes, Edit.latest_map_set]

/-- **A store is its history.** Whatever is set and removed, a store is a pair of maps that know
nothing of each other: under an identifier is what was last set there, if it was not removed since,
and its identifier is that one; what a removal hands out is what was there; and each map counts the
identifiers that have something.

A document is loaded when it holds a snapshot, and else there is a load error and no store; one
definition that is not well-formed is enough for that. The store is then what comes of setting the
flags and then the segments that are listed, in order, so that the last of several definitions under
an identifier is there; and what happens to it later continues that history. -/
theorem store_is_its_history :
    (∀ history, (Store.empty.after history).Follows history) ∧
    (∀ (snapshot : Snapshot) later,
      ((Store.empty.after snapshot.changes).after later).Follows (snapshot.changes ++ later)) ∧
    (∀ text s, Store.ofText text = .ok s ↔
      ∃ (json : Json) (snapshot : Snapshot), Json.ofText? text = some json ∧
      Snapshot.schema.Accepts json ∧ snapshot.ReadFrom json ∧
        s = Store.empty.after snapshot.changes) ∧
    (∀ text, (∃ s, Store.ofText text = .ok s) ↔
      ∃ json, Json.ofText? text = some json ∧ Snapshot.schema.Accepts json) ∧
    (∀ text, (∃ fault, Store.ofText text = .error (.load fault)) ↔
      ¬ ∃ json, Json.ofText? text = some json ∧ Snapshot.schema.Accepts json) ∧
    (∀ text json, Json.ofText? text = some json →
      (∃ item ∈ Snapshot.listed "flags" json, ¬ Flag.schema.Accepts item) ∨
        (∃ item ∈ Snapshot.listed "segments" json, ¬ Segment.schema.Accepts item) →
      ∃ fault, Store.ofText text = .error (.load fault)) ∧
    (∀ (snapshot : Snapshot) id f, (Store.empty.after snapshot.changes).getFlag id = .ok f ↔
      ∃ before after, snapshot.flags = before ++ f :: after ∧ f.identifier = id ∧
        ∀ g ∈ after, g.identifier ≠ id) ∧
    (∀ (snapshot : Snapshot) id x, (Store.empty.after snapshot.changes).getSegment id = .ok x ↔
      ∃ before after, snapshot.segments = before ++ x :: after ∧ x.identifier = id ∧
        ∀ y ∈ after, y.identifier ≠ id) := by
  refine ⟨Store.follows_after, fun snapshot later => ?_, fun _ _ => Store.ofText_eq_ok_iff,
    Store.exists_ofText_iff, fun text => ?_, fun _ _ => Store.ofText_fails,
    fun _ _ _ => Snapshot.getFlag_after, fun _ _ _ => Snapshot.getSegment_after⟩
  · rw [Store.after_append]
    exact Store.follows_after _
  · rw [← Store.exists_ofText_iff]
    cases h : Store.ofText text with
    | ok s => simp
    | error cause =>
      obtain ⟨fault, rfl⟩ := Store.fault_of_ofText h
      simp

/-- A document that defines a segment twice. -/
def roster : Json :=
  .object [("segments",
    .array [.array [.string "crew", .string "watch"], .array [.string "crew", .string "deck"]])]

/-- A document with a null among its flags. -/
def tornRoster : Json := .array [.array [.null]]

theorem roster_is_history :
    (∃ s, Store.ofText roster.toText = .ok s ∧
      s.getSegment "crew" = .ok ⟨"crew", "deck", none, none, none⟩) ∧
    ∃ fault, Store.ofText tornRoster.toText = .error (.load fault) := by
  obtain ⟨-, -, hread, -, -, hbad, -, hlast⟩ := store_is_its_history
  have hrow (name : String) : (Json.array [.string "crew", .string name]).Plain 1 :=
    .array (List.forall_mem_cons.2 ⟨.string _, List.forall_mem_singleton.2 (.string _)⟩)
  have hrows := List.forall_mem_cons.2 ⟨hrow "watch", List.forall_mem_singleton.2 (hrow "deck")⟩
  have hroster : roster.Plain 3 := .object (List.forall_mem_singleton.2 (.array hrows))
  have htorn : tornRoster.Plain 2 :=
    .array (List.forall_mem_singleton.2 (.array (List.forall_mem_singleton.2 .null)))
  let snapshot : Snapshot :=
    ⟨[], [⟨"crew", "watch", none, none, none⟩, ⟨"crew", "deck", none, none, none⟩]⟩
  have hdecode : Snapshot.record.decode roster = .ok snapshot := rfl
  obtain ⟨haccepts, hfrom⟩ := Snapshot.decode_eq_ok_iff.1 hdecode
  refine ⟨⟨_, (hread _ _).2 ⟨_, _, ofText?_toText hroster (by decide), haccepts, hfrom, rfl⟩, ?_⟩,
    ?_⟩
  · exact (hlast snapshot "crew" _).2 ⟨[_], [], rfl, rfl, by simp⟩
  · refine hbad _ _ (ofText?_toText htorn (by decide)) (.inl ⟨.null, ?_, nofun⟩)
    exact List.mem_singleton_self _

end FeatureFlags
