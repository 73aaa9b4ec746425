import FeatureFlags.Proofs.Codecs

/-!
# Definitions read back

Whatever can be written in a definition, its text is read as the same definition: an empty list
stays apart from one that is left out, and an operator without a meaning stays such an operator.
Targets read back unless an attribute holds a number, which may come back as an integer, or its
lists are nested too deep.

**Results.**
* `Flag.codec_faithful`, `Segment.codec_faithful`, `Config.codec_faithful`: definitions and
  settings, whatever they hold.
* `Target.shallow_of_read`: no target that is read is nested too deep to be written and read again.
* `Target.readsBack_iff`: which targets without numbers read back.
* `written_forms_read_back`: all of them together.
-/
namespace FeatureFlags

open Json Json.Codec Json.Field

/-! ## Definitions -/

theorem Flag.Kind.codec_faithful (n : Nat) : codec.Faithful n :=
  Names.codec_faithful (fun kind => by cases kind <;> rfl) n

theorem Flag.State.codec_faithful (n : Nat) : codec.Faithful n :=
  Names.codec_faithful (fun state => by cases state <;> rfl) n

theorem Operator.codec_faithful (n : Nat) : codec.Faithful n :=
  Names.codec_faithful (fun operator => by cases operator <;> rfl) n

theorem Variation.codec_faithful (n : Nat) : record.codec.Faithful (n + 1) := by
  have hstring := required_faithful (string_faithful n)
  have hoptional := optional_faithful (string_faithful n)
  exact Record.codec_faithful (by decide)
    ⟨hstring _ _, hstring _ _, hoptional _, hoptional _, trivial⟩ fun _ => rfl

theorem Distribution.Share.codec_faithful (n : Nat) : record.codec.Faithful (n + 1) :=
  Record.codec_faithful (by decide)
    ⟨required_faithful (string_faithful n) _ _, required_faithful (uint32_faithful n) _ _, trivial⟩
    fun _ => rfl

theorem Distribution.codec_faithful (n : Nat) : record.codec.Faithful (n + 3) := by
  have hshares := list_faithful (Share.codec_faithful n)
  exact Record.codec_faithful (by decide)
    ⟨required_faithful (string_faithful _) _ _, required_faithful hshares _ _, trivial⟩ fun _ => rfl

theorem Serve.codec_faithful (n : Nat) : record.codec.Faithful (n + 4) :=
  Record.codec_faithful (by decide)
    ⟨optional_faithful (Distribution.codec_faithful n) _, optional_faithful (string_faithful _) _,
      trivial⟩
    fun _ => rfl

theorem Clause.codec_faithful (n : Nat) : record.codec.Faithful (n + 2) := by
  have hvalues := list_faithful (string_faithful n)
  exact Record.codec_faithful (by decide)
    ⟨defaulting_faithful (string_faithful _) _ _, required_faithful (Operator.codec_faithful _) _ _,
      defaulting_faithful hvalues _ _, trivial⟩
    fun _ => rfl

theorem Rule.codec_faithful (n : Nat) : record.codec.Faithful (n + 5) := by
  have hclauses := list_faithful (Clause.codec_faithful (n + 1))
  exact Record.codec_faithful (by decide)
    ⟨optional_faithful (string_faithful _) _, required_faithful (int32_faithful _) _ _,
      required_faithful hclauses _ _, required_faithful (Serve.codec_faithful n) _ _, trivial⟩
    fun _ => rfl

theorem TargetRef.codec_faithful (n : Nat) : record.codec.Faithful (n + 1) :=
  Record.codec_faithful (by decide)
    ⟨required_faithful (string_faithful n) _ _, optional_faithful (string_faithful n) _, trivial⟩
    fun _ => rfl

theorem Override.codec_faithful (n : Nat) : record.codec.Faithful (n + 3) := by
  have htargets := list_faithful (TargetRef.codec_faithful n)
  have hsegments := list_faithful (string_faithful (n + 1))
  exact Record.codec_faithful (by decide)
    ⟨required_faithful (string_faithful _) _ _, optional_faithful htargets _,
      optional_faithful hsegments _, trivial⟩
    fun _ => rfl

-- An empty list is written, and a list that is left out is not.
example : (Override.record.codec.encode ⟨"on", some [], none⟩).toText =
    "\x7b\"variation\":\"on\",\"targets\":[]\x7d" := by
  rfl

theorem Prerequisite.codec_faithful (n : Nat) : record.codec.Faithful (n + 2) := by
  have hvariations := list_faithful (string_faithful n)
  exact Record.codec_faithful (by decide)
    ⟨required_faithful (string_faithful _) _ _, required_faithful hvariations _ _, trivial⟩ fun _ =>
      rfl

/-- A flag is nested seven deep at most: its rules, the distributions that these serve, and their
shares. -/
theorem Flag.codec_faithful (n : Nat) : record.codec.Faithful (n + 7) := by
  have hvariations := list_faithful (Variation.codec_faithful (n + 4))
  have hrules := list_faithful (Rule.codec_faithful n)
  have hoverrides := list_faithful (Override.codec_faithful (n + 2))
  have hprerequisites := list_faithful (Prerequisite.codec_faithful (n + 3))
  exact Record.codec_faithful (by decide)
    ⟨required_faithful (string_faithful _) _ _, required_faithful (Kind.codec_faithful _) _ _,
      defaulting_faithful (State.codec_faithful _) _ _, required_faithful hvariations _ _,
      required_faithful (string_faithful _) _ _,
      defaulting_faithful (Serve.codec_faithful (n + 2)) _ _,
      optional_faithful hrules _, optional_faithful hoverrides _,
      optional_faithful hprerequisites _, trivial⟩
    fun _ => rfl

theorem Segment.codec_faithful (n : Nat) : record.codec.Faithful (n + 4) := by
  have htargets := list_faithful (TargetRef.codec_faithful (n + 1))
  have hrules := list_faithful (Clause.codec_faithful n)
  have hlisting := optional_faithful htargets
  exact Record.codec_faithful (by decide)
    ⟨required_faithful (string_faithful _) _ _, defaulting_faithful (string_faithful _) _ _,
      hlisting _, hlisting _, optional_faithful hrules _, trivial⟩
    fun _ => rfl

theorem Config.codec_faithful (n : Nat) : record.codec.Faithful (n + 1) :=
  Record.codec_faithful (by decide)
    ⟨defaulting_faithful (string_faithful n) _ _, defaulting_faithful (bool_faithful n) _ _,
      trivial⟩
    fun _ => rfl

/-! ## Attributes -/

namespace AttributeValue

mutual

/-- Whether there is no number in the value. -/
def numberFree : AttributeValue → Bool
  | number _ => false
  | list items => numberFreeItems items
  | _ => true

def numberFreeItems : List AttributeValue → Bool
  | [] => true
  | item :: rest => item.numberFree && numberFreeItems rest

end

mutual

/-- How deep lists are nested in the value. -/
def nesting : AttributeValue → Nat
  | list items => nestingOfItems items + 1
  | _ => 0

def nestingOfItems : List AttributeValue → Nat
  | [] => 0
  | item :: rest => max item.nesting (nestingOfItems rest)

end

mutual

theorem decode_toJson : ∀ v : AttributeValue, decode v.toJson = .ok v
  | bool _ => rfl
  | int i => by
    show decode (.int i.toInt) = _
    rw [decode_int, if_pos ⟨i.minValue_le_toInt, i.toInt_le⟩, i.ofInt_toInt]
  | number _ => rfl
  | string _ => rfl
  | list items => decode_array_eq_ok_iff.2 ⟨items, decodeItems_itemsJson items, rfl⟩

theorem decodeItems_itemsJson :
    ∀ items : List AttributeValue, decodeItems (itemsJson items) = .ok items
  | [] => rfl
  | item :: rest =>
    decodeItems_cons_eq_ok_iff.2 ⟨item, rest, decode_toJson item, decodeItems_itemsJson rest, rfl⟩

end

theorem codec_lawful : codec.Lawful := decode_toJson

mutual

theorem plain_toJson :
    ∀ (v : AttributeValue) {n : Nat}, v.numberFree = true → v.nesting ≤ n → v.toJson.Plain n
  | bool b, _, _, _ => .bool b
  | int i, _, _, _ => .int (exact_int64 i)
  | string s, _, _, _ => .string s
  | list items, _ + 1, hfree, hn => .array (plain_itemsJson items hfree (Nat.le_of_succ_le_succ hn))

theorem plain_itemsJson : ∀ (items : List AttributeValue) {n : Nat}, numberFreeItems items = true →
    nestingOfItems items ≤ n → ∀ json ∈ itemsJson items, json.Plain n
  | [], _, _, _ => fun _ hjson => by cases hjson
  | item :: rest, _, hfree, hn => by
    rw [numberFreeItems, Bool.and_eq_true] at hfree
    rw [nestingOfItems, Nat.max_le] at hn
    rw [itemsJson]
    exact List.forall_mem_cons.2 ⟨plain_toJson item hfree.1 hn.1, plain_itemsJson rest hfree.2 hn.2⟩

end

mutual

theorem nesting_le_depth :
    ∀ (json : Json) {v : AttributeValue}, decode json = .ok v → v.nesting ≤ json.depth
  | .array items, v, h => by
    obtain ⟨vs, hvs, rfl⟩ := decode_array_eq_ok_iff.1 h
    exact Nat.succ_le_succ (nestingOfItems_le_depth items hvs)
  | .bool _, _, h | .string _, _, h | .number (.real _), _, h => by
    cases h
    exact Nat.zero_le _
  | .number (.integer i), _, h => by
    rw [← Json.int, decode_int] at h
    split at h <;> cases h <;> exact Nat.zero_le _
  | .null, _, h | .object _, _, h | .unreadable, _, h => by cases h

theorem nestingOfItems_le_depth : ∀ (items : List Json) {vs : List AttributeValue},
    decodeItems items = .ok vs → nestingOfItems vs ≤ depthOfItems items
  | [], _, h => by
    cases h
    exact Nat.le_refl _
  | item :: rest, _, h => by
    obtain ⟨v, vs, hv, hvs, rfl⟩ := decodeItems_cons_eq_ok_iff.1 h
    have hitem := nesting_le_depth item hv
    have hrest := nestingOfItems_le_depth rest hvs
    rw [nestingOfItems, depthOfItems]
    omega

end

end AttributeValue

/-! ## Targets -/

namespace Target

/-- No attribute holds a number. -/
def NumberFree (t : Target) : Prop := ∀ e ∈ t.attributes.entries, e.2.numberFree = true

/-- The lists of every attribute are nested no deeper than is readable; around them are the object
of the attributes and that of the target. -/
def Shallow (t : Target) : Prop := ∀ e ∈ t.attributes.entries, e.2.nesting + 2 ≤ maxDepth

instance (t : Target) : Decidable t.NumberFree :=
  inferInstanceAs (Decidable (∀ e ∈ t.attributes.entries, e.2.numberFree = true))

instance (t : Target) : Decidable t.Shallow :=
  inferInstanceAs (Decidable (∀ e ∈ t.attributes.entries, e.2.nesting + 2 ≤ maxDepth))

theorem codec_lawful : record.codec.Lawful :=
  Record.codec_lawful (Fields.distinct_of_nodup (by decide))
    ⟨required_lawful string_lawful _ _, defaulting_lawful string_lawful _ _,
      optional_lawful bool_lawful (fun _ => Json.noConfusion) _,
      defaulting_lawful (Table.codec_lawful AttributeValue.codec_lawful) _ _, trivial⟩
    fun _ => rfl

theorem plain_encode {t : Target} {n : Nat} (hfree : t.NumberFree)
    (hn : ∀ e ∈ t.attributes.entries, e.2.nesting ≤ n) : (record.codec.encode t).Plain (n + 2) := by
  have hattributes : ((Table.codec AttributeValue.codec).encode t.attributes).Plain (n + 1) := by
    refine .object fun m hm => ?_
    obtain ⟨e, he, rfl⟩ := List.mem_map.1 hm
    exact AttributeValue.plain_toJson e.2 (hfree e he) (hn e he)
  refine .object (Fields.plain_members ⟨?_, ?_, ?_, ?_, trivial⟩)
  · exact (required_faithful (string_faithful _) _ _).plain t.identifier
  · exact (defaulting_faithful (string_faithful _) _ _).plain t.name
  · exact (optional_faithful (bool_faithful _) _).plain t.anonymous
  · intro json hjson
    cases hjson
    exact hattributes

theorem nesting_le_of_decode {json : Json} {n : Nat} {attributes : Table AttributeValue}
    (hn : json.depth ≤ n + 1)
    (h : (Table.codec AttributeValue.codec).decode json = .ok attributes) :
    ∀ e ∈ attributes.entries, e.2.nesting ≤ n := by
  intro e he
  simp only [Table.codec] at h
  split at h
  · next members =>
    rcases Table.mem_of_decodeMembers h e he with he | ⟨m, hm, hdecode⟩
    · cases he
    · have hmember := depthOfMembers_le.1 (Nat.le_of_succ_le_succ hn) m hm
      exact Nat.le_trans (AttributeValue.nesting_le_depth m.2 hdecode) hmember
  · cases h

/-- What is read is nested no deeper than is readable, and so is what is written again. -/
theorem shallow_of_read {text : String} {t : Target}
    (h : readDocument record.codec.decode text = .ok t) :
    t.Shallow := by
  obtain ⟨json, htext, hdecode⟩ := readDocument_eq_ok_iff.1 h
  obtain ⟨⟨identifier, name, anonymous, attributes, ⟨⟩⟩, rfl, hreads⟩ :=
    Record.reads_of_decode (depth_ofText? htext) hdecode
  intro e he
  rcases hreads.2.2.2.1 with hdefault | ⟨json, hdepth, hdecode⟩
  · cases hdefault
    cases he
  · exact Nat.add_le_add_right (nesting_le_of_decode hdepth hdecode e he) 2

/-- A target without numbers reads back just when its lists are not nested too deep. -/
theorem readsBack_iff {t : Target} (hfree : t.NumberFree) :
    record.codec.ReadsBack t ↔ t.Shallow := by
  refine ⟨shallow_of_read, fun hshallow => readsBack_of_plain codec_lawful ?_⟩
  have hn : ∀ e ∈ t.attributes.entries, e.2.nesting ≤ 125 := fun e he =>
    Nat.le_of_add_le_add_right (hshallow e he)
  exact plain_encode hfree hn

end Target

/-! ## Every definition -/

/-- **Written forms read back.** The text of a definition, of the settings or of a target without
numbers is read as what was written. So whatever is read is written in a form that is read as the
same again, which holds for targets as well, since nothing that is read is nested too deep. The
entries of a target's attributes may stand in any order, and its text has them in that order. -/
theorem written_forms_read_back :
    (∀ f : Flag, Flag.record.codec.ReadsBack f) ∧
    (∀ s : Segment, Segment.record.codec.ReadsBack s) ∧
    (∀ r : Rule, Rule.record.codec.ReadsBack r) ∧
    (∀ c : Clause, Clause.record.codec.ReadsBack c) ∧
    (∀ s : Serve, Serve.record.codec.ReadsBack s) ∧
    (∀ d : Distribution, Distribution.record.codec.ReadsBack d) ∧
    (∀ o : Override, Override.record.codec.ReadsBack o) ∧
    (∀ p : Prerequisite, Prerequisite.record.codec.ReadsBack p) ∧
    (∀ v : Variation, Variation.record.codec.ReadsBack v) ∧
    (∀ operator : Operator, Operator.codec.ReadsBack operator) ∧
    (∀ kind : Flag.Kind, Flag.Kind.codec.ReadsBack kind) ∧
    (∀ state : Flag.State, Flag.State.codec.ReadsBack state) ∧
    (∀ c : Config, Config.record.codec.ReadsBack c) ∧
    (∀ t : Target, t.NumberFree → t.Shallow → Target.record.codec.ReadsBack t) ∧
    ∀ (text : String) (t : Target), readDocument Target.record.codec.decode text = .ok t →
      t.NumberFree →
      Target.record.codec.ReadsBack t :=
  ⟨(Flag.codec_faithful 120).readsBack, (Segment.codec_faithful 123).readsBack,
    (Rule.codec_faithful 122).readsBack, (Clause.codec_faithful 125).readsBack,
    (Serve.codec_faithful 123).readsBack, (Distribution.codec_faithful 124).readsBack,
    (Override.codec_faithful 124).readsBack, (Prerequisite.codec_faithful 125).readsBack,
    (Variation.codec_faithful 126).readsBack, (Operator.codec_faithful maxDepth).readsBack,
    (Flag.Kind.codec_faithful maxDepth).readsBack, (Flag.State.codec_faithful maxDepth).readsBack,
    (Config.codec_faithful 126).readsBack,
    fun _ hfree hshallow => (Target.readsBack_iff hfree).2 hshallow,
    fun _ _ hread hfree => (Target.readsBack_iff hfree).2 (Target.shallow_of_read hread)⟩

/-- A target with characters that have to be escaped, a list of lists, an empty list and the least
integer. -/
def courier : Target :=
  ((Target.new "quay \"7\"\n").withAnonymous false).withAttribute "load"
    (.list [.list [], .list [.int Int64.minValue, .bool true], .string "\x01\\"])

/-- The fields of a target in order, with an attribute given twice. -/
def parcel : Json :=
  .array [.string "crate", .string "", .null, .object [("at", .bool true), ("at", .array [])]]

theorem parcel_plain : parcel.Plain 3 := by
  have hattributes : (Json.object [("at", .bool true), ("at", .array [])]).Plain 2 :=
    .object (List.forall_mem_cons.2 ⟨.bool true, List.forall_mem_singleton.2 (.array (by simp))⟩)
  exact .array (List.forall_mem_cons.2 ⟨.string _, List.forall_mem_cons.2 ⟨.string _,
    List.forall_mem_cons.2 ⟨.null, List.forall_mem_singleton.2 hattributes⟩⟩⟩)

/-- The target that the parcel is read as. -/
def crate : Target := (Target.mk "crate" "" none .empty).withAttribute "at" (.list [])

theorem courier_reads_back :
    (courier.NumberFree ∧ courier.Shallow ∧ Target.record.codec.ReadsBack courier) ∧
    readDocument Target.record.codec.decode parcel.toText = .ok crate ∧ crate.NumberFree ∧
      Target.record.codec.ReadsBack crate := by
  have hfree : courier.NumberFree := by decide
  have hshallow : courier.Shallow := by decide
  have hread : readDocument Target.record.codec.decode parcel.toText = .ok crate :=
    readDocument_eq_ok_iff.2 ⟨parcel, ofText?_toText parcel_plain (by decide), rfl⟩
  have hcrate : crate.NumberFree := by decide
  obtain ⟨-, -, -, -, -, -, -, -, -, -, -, -, -, hwritten, hreread⟩ := written_forms_read_back
  exact ⟨⟨hfree, hshallow, hwritten courier hfree hshallow⟩, hread, hcrate,
    hreread parcel.toText crate hread hcrate⟩

end FeatureFlags
