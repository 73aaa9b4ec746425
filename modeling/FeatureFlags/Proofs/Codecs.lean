import FeatureFlags.Definition.Codec
import FeatureFlags.Proofs.Documents

/-!
# Codecs whose texts read back

A faithful codec writes documents that keep everything: what it writes as a text is read as the same
value. The combinators keep this, so it is enough to know it of the fields of a record, and each
level of records and lists adds one to the nesting.

In the other direction, each field of a record that is decoded was left out or decoded from a part
of the document, which is nested less deep than the document.

**Results.**
* `Faithful.readsBack`: what a faithful codec writes is read as the same value.
* `Record.codec_faithful`: a record with distinct and faithful fields is faithful.
* `Record.reads_of_decode`: where the values of a decoded record come from.
* `Table.codec_lawful`, `Table.mem_of_decodeMembers`: tables as objects, in both directions.
-/
namespace FeatureFlags

namespace Json

/-! ## Codecs of texts -/

theorem exact_int32 (i : Int32) : Exact i.toInt := by
  have hlo := i.le_toInt
  have hhi := i.toInt_lt
  exact ⟨by omega, by omega⟩

theorem exact_uint32 (i : UInt32) : Exact i.toNat := by
  have hhi := i.toNat_lt
  exact ⟨by omega, by omega⟩

theorem exact_int64 (i : Int64) : Exact i.toInt := by
  have hlo := i.le_toInt
  have hhi := i.toInt_lt
  exact ⟨by omega, by omega⟩

/-- What the codec writes reads back; it is never null, which stands for nothing, and it is plain
and nested at most `n` deep. -/
structure Codec.Faithful (c : Codec α) (n : Nat) : Prop where
  lawful : c.Lawful
  ne_null : ∀ a, c.encode a ≠ .null
  plain : ∀ a, (c.encode a).Plain n

namespace Codec

theorem string_faithful (n : Nat) : string.Faithful n :=
  ⟨string_lawful, fun _ => Json.noConfusion, .string⟩

theorem bool_faithful (n : Nat) : bool.Faithful n := ⟨bool_lawful, fun _ => Json.noConfusion, .bool⟩

theorem int32_faithful (n : Nat) : int32.Faithful n :=
  ⟨int32_lawful, fun _ => Json.noConfusion, fun i => .int (exact_int32 i)⟩

theorem uint32_faithful (n : Nat) : uint32.Faithful n :=
  ⟨uint32_lawful, fun _ => Json.noConfusion, fun i => .int (exact_uint32 i)⟩

theorem list_faithful {c : Codec α} {n : Nat} (h : c.Faithful n) : c.list.Faithful (n + 1) := by
  refine ⟨list_lawful h.lawful, fun _ => Json.noConfusion, fun as => .array fun item hitem => ?_⟩
  obtain ⟨a, -, rfl⟩ := List.mem_map.1 hitem
  exact h.plain a

end Codec

theorem Names.codec_faithful {names : Names α} {write : α → String}
    (h : ∀ a, names.find (write a) = .ok a) (n : Nat) : (names.codec write).Faithful n :=
  ⟨Names.codec_lawful h, fun _ => Json.noConfusion, fun a => .string (write a)⟩

/-! ## Fields and records -/

/-- The field is lawful, and what it writes is plain and nested at most `n` deep. -/
structure Field.Faithful (f : Field α) (n : Nat) : Prop where
  lawful : f.Lawful
  plain : ∀ a json, f.encode a = some json → json.Plain n

namespace Field

variable {c : Codec α} {n : Nat}

theorem required_faithful (h : c.Faithful n) (name : String) (aliases : List String) :
    (required name c aliases).Faithful n := by
  refine ⟨required_lawful h.lawful name aliases, fun a json he => ?_⟩
  cases he
  exact h.plain a

theorem defaulting_faithful (h : c.Faithful n) (name : String) (default : α) :
    (defaulting name c default).Faithful n := by
  refine ⟨defaulting_lawful h.lawful name default, fun a json he => ?_⟩
  cases he
  exact h.plain a

theorem optional_faithful (h : c.Faithful n) (name : String) : (optional name c).Faithful n := by
  refine ⟨optional_lawful h.lawful h.ne_null name, fun a json he => ?_⟩
  obtain ⟨b, -, rfl⟩ := Option.map_eq_some_iff.1 he
  exact h.plain b

end Field

namespace Fields

/-- Every field is faithful. -/
def Faithful (n : Nat) : Fields αs → Prop
  | .nil => True
  | .cons field rest => field.Faithful n ∧ rest.Faithful n

theorem Faithful.lawful {n : Nat} {fs : Fields αs} (h : fs.Faithful n) : fs.Lawful := by
  induction fs with
  | nil => trivial
  | cons field rest ih => exact ⟨h.1.lawful, ih h.2⟩

/-- What each field writes of its value is plain and nested at most `n` deep. -/
def PlainAt (n : Nat) : (fs : Fields αs) → Values αs → Prop
  | .nil, _ => True
  | .cons field rest, (a, as) =>
    (∀ json, field.encode a = some json → json.Plain n) ∧ rest.PlainAt n as

theorem Faithful.plainAt {n : Nat} {fs : Fields αs} (h : fs.Faithful n) (as : Values αs) :
    fs.PlainAt n as := by
  induction fs with
  | nil => trivial
  | cons field rest ih =>
    obtain ⟨a, as⟩ := as
    exact ⟨h.1.plain a, ih h.2 as⟩

theorem plain_members {n : Nat} {fs : Fields αs} {as : Values αs} (h : fs.PlainAt n as) :
    ∀ m ∈ fs.members as, m.2.Plain n := by
  induction fs with
  | nil => exact fun m hm => by cases hm
  | cons field rest ih =>
    obtain ⟨a, as⟩ := as
    intro m hm
    rw [members] at hm
    split at hm
    · exact ih h.2 m hm
    · next json he =>
      rcases List.mem_cons.1 hm with rfl | hm
      · exact h.1 json he
      · exact ih h.2 m hm

/-- All names that fields are known by. -/
def names : Fields αs → List String
  | .nil => []
  | .cons field rest => field.name :: field.aliases ++ rest.names

theorem mem_names {fs : Fields αs} {key : String} : fs.named key = true ↔ key ∈ fs.names := by
  induction fs with
  | nil => simp [named, names]
  | cons field rest ih => simp [named, names, Field.named, ih, or_assoc]

theorem distinct_of_nodup {fs : Fields αs} (h : fs.names.Nodup) : fs.Distinct := by
  induction fs with
  | nil => trivial
  | cons field rest ih =>
    rw [names, List.nodup_append] at h
    obtain ⟨-, hrest, hne⟩ := h
    refine ⟨fun key hkey => ?_, ih hrest⟩
    have hmem : key ∈ field.name :: field.aliases := by simpa [Field.named] using hkey
    exact Bool.eq_false_iff.2 fun hn => hne key hmem key (mem_names.1 hn) rfl

end Fields

theorem Record.codec_faithful {r : Record α} {n : Nat} (hnames : r.fields.names.Nodup)
    (h : r.fields.Faithful n) (hv : ∀ a, r.ofValues (r.toValues a) = a) :
    r.codec.Faithful (n + 1) :=
  ⟨codec_lawful (Fields.distinct_of_nodup hnames) h.lawful hv, fun _ => Json.noConfusion,
    fun a => .object (Fields.plain_members (h.plainAt (r.toValues a)))⟩

/-! ## What is decoded -/

theorem exists_ok_of_bind {x : Except ε α} {f : α → Except ε β} {b : β} (h : x >>= f = .ok b) :
    ∃ a, x = .ok a ∧ f a = .ok b := by
  cases x with
  | error e => cases h
  | ok a => exact ⟨a, rfl, h⟩

theorem exists_ok_of_map {x : Except ε α} {f : α → β} {b : β} (h : x.map f = .ok b) :
    ∃ a, x = .ok a ∧ f a = b := by
  cases x with
  | error e => cases h
  | ok a => exact ⟨a, rfl, Except.ok.inj h⟩

/-- The field was not given, or its value is decoded from a document nested at most `n` deep. -/
def Field.Reads (f : Field α) (n : Nat) (a : α) : Prop :=
  f.default? = some a ∨ ∃ json, json.depth ≤ n ∧ f.decode json = .ok a

namespace Fields

/-- Every value is read by its field. -/
def Reads (n : Nat) : (fs : Fields αs) → Values αs → Prop
  | .nil, _ => True
  | .cons field rest, (a, as) => field.Reads n a ∧ rest.Reads n as

/-- Every value given so far is read by its field. -/
def ReadsSlots (n : Nat) : (fs : Fields αs) → Slots αs → Prop
  | .nil, _ => True
  | .cons field rest, (slot, slots) =>
    (∀ a, slot = some a → field.Reads n a) ∧ rest.ReadsSlots n slots

variable {n : Nat}

theorem readsSlots_noSlots (fs : Fields αs) : fs.ReadsSlots n (noSlots αs) := by
  induction fs with
  | nil => trivial
  | cons field rest ih => exact ⟨fun _ h => (by cases h), ih⟩

theorem readsSlots_take {fs : Fields αs} {slots slots' : Slots αs} {key : String} {value : Json}
    (hn : value.depth ≤ n) (hs : fs.ReadsSlots n slots) (h : fs.take slots key value = .ok slots') :
    fs.ReadsSlots n slots' := by
  induction fs with
  | nil => trivial
  | cons field rest ih =>
    obtain ⟨slot, slots⟩ := slots
    simp only [take] at h
    split at h
    · split at h
      · cases h
      · obtain ⟨a, ha, rfl⟩ := exists_ok_of_map h
        refine ⟨fun b hb => ?_, hs.2⟩
        cases hb
        exact .inr ⟨value, hn, ha⟩
    · obtain ⟨slots₁, hrest, rfl⟩ := exists_ok_of_map h
      exact ⟨hs.1, ih hs.2 hrest⟩

theorem readsSlots_takeAll {fs : Fields αs} {slots slots' : Slots αs} {ms : List (String × Json)}
    (hn : ∀ m ∈ ms, m.2.depth ≤ n) (hs : fs.ReadsSlots n slots)
    (h : fs.takeAll slots ms = .ok slots') :
    fs.ReadsSlots n slots' := by
  induction ms generalizing slots with
  | nil =>
    cases h
    exact hs
  | cons m ms ih =>
    obtain ⟨slots₁, htake, hrest⟩ := exists_ok_of_bind h
    exact ih (fun k hk => hn k (List.mem_cons_of_mem m hk))
      (readsSlots_take (hn m List.mem_cons_self) hs htake) hrest

theorem reads_finish {fs : Fields αs} {slots : Slots αs} {as : Values αs}
    (hs : fs.ReadsSlots n slots) (h : fs.finish slots = .ok as) : fs.Reads n as := by
  induction fs with
  | nil => trivial
  | cons field rest ih =>
    obtain ⟨slot, slots⟩ := slots
    simp only [finish] at h
    split at h
    · cases h
    · next a ha =>
      obtain ⟨as, hrest, rfl⟩ := exists_ok_of_map h
      refine ⟨?_, ih hs.2 hrest⟩
      rcases Option.or_eq_some_iff.1 ha with ha | ⟨-, ha⟩
      · exact hs.1 a ha
      · exact .inl ha

theorem reads_takeItems {fs : Fields αs} {record : String} {total index : Nat} {items : List Json}
    {as : Values αs} (hn : ∀ item ∈ items, item.depth ≤ n)
    (h : fs.takeItems record total index items = .ok as) : fs.Reads n as := by
  induction fs generalizing index items with
  | nil => trivial
  | cons field rest ih =>
    cases items with
    | nil =>
      simp only [takeItems] at h
      split at h
      · cases h
      · next a ha =>
        obtain ⟨as, hrest, rfl⟩ := exists_ok_of_map h
        exact ⟨.inl ha, ih hn hrest⟩
    | cons item items =>
      obtain ⟨a, ha, h⟩ := exists_ok_of_bind h
      obtain ⟨as, hrest, h⟩ := exists_ok_of_bind h
      cases h
      obtain ⟨hitem, hitems⟩ := List.forall_mem_cons.1 hn
      exact ⟨.inr ⟨item, hitem, ha⟩, ih hitems hrest⟩

end Fields

/-- Every value of a record that is decoded is read by its field. -/
theorem Record.reads_of_decode {r : Record α} {json : Json} {n : Nat} {a : α}
    (hn : json.depth ≤ n + 1) (h : r.decode json = .ok a) :
    ∃ as, r.ofValues as = a ∧ r.fields.Reads n as := by
  unfold decode at h
  split at h
  · next members =>
    obtain ⟨slots, htake, h⟩ := exists_ok_of_bind h
    obtain ⟨as, hfinish, h⟩ := exists_ok_of_bind h
    have hmembers := depthOfMembers_le.1 (Nat.le_of_succ_le_succ hn)
    have hslots := Fields.readsSlots_takeAll hmembers (Fields.readsSlots_noSlots r.fields) htake
    exact ⟨as, Except.ok.inj h, Fields.reads_finish hslots hfinish⟩
  · next items =>
    obtain ⟨as, hitems, h⟩ := exists_ok_of_map h
    exact ⟨as, h, Fields.reads_takeItems (depthOfItems_le.1 (Nat.le_of_succ_le_succ hn)) hitems⟩
  · cases h

end Json

open Json

/-! ## Tables -/

namespace Table

variable {c : Codec α}

theorem put_of_notMem {key : String} {value : α} {es : List (String × α)}
    (h : key ∉ es.map Prod.fst) :
    put key value es = es ++ [(key, value)] := by
  induction es with
  | nil => rfl
  | cons e rest ih =>
    rw [List.map_cons, List.mem_cons, not_or] at h
    rw [put, if_neg (Ne.symm h.1), ih h.2, List.cons_append]

theorem mem_put {key : String} {value : α} {es : List (String × α)} {e : String × α}
    (h : e ∈ put key value es) : e = (key, value) ∨ e ∈ es := by
  induction es with
  | nil => exact .inl (List.mem_singleton.1 h)
  | cons e' rest ih =>
    rw [put] at h
    split at h
    · exact (List.mem_cons.1 h).imp_right (List.mem_cons_of_mem e')
    · rcases List.mem_cons.1 h with rfl | h
      · exact .inr List.mem_cons_self
      · exact (ih h).imp_right (List.mem_cons_of_mem e')

/-- Entries with new keys are added in their order. -/
theorem decodeMembers_map (h : c.Lawful) (es : List (String × α)) (t : Table α)
    (hkeys : ((t.entries ++ es).map Prod.fst).Nodup) :
    decodeMembers c.decode t (es.map fun e => (e.1, c.encode e.2)) =
      .ok ⟨t.entries ++ es, hkeys⟩ := by
  induction es generalizing t with
  | nil => exact congrArg Except.ok (ext (List.append_nil t.entries).symm)
  | cons e es ih =>
    have hnew : e.1 ∉ t.entries.map Prod.fst := by
      rw [List.map_append, List.nodup_append] at hkeys
      exact fun hmem => hkeys.2.2 e.1 hmem e.1 List.mem_cons_self rfl
    have hentries : (t.insert e.1 e.2).entries ++ es = t.entries ++ e :: es := by
      simp [insert, put_of_notMem hnew]
    have hrest := ih (t.insert e.1 e.2) (hentries ▸ hkeys)
    rw [List.map_cons, decodeMembers, h e.2]
    exact hrest.trans (congrArg Except.ok (ext hentries))

theorem codec_lawful (h : c.Lawful) : (codec c).Lawful := fun t =>
  decodeMembers_map h t.entries .empty t.nodup

theorem mem_of_decodeMembers {decode : Json → Except Fault α} {t t' : Table α}
    {members : List (String × Json)} (h : decodeMembers decode t members = .ok t') :
    ∀ e ∈ t'.entries, e ∈ t.entries ∨ ∃ m ∈ members, decode m.2 = .ok e.2 := by
  induction members generalizing t with
  | nil =>
    cases h
    exact fun e he => .inl he
  | cons m members ih =>
    obtain ⟨value, hvalue, hrest⟩ := exists_ok_of_bind h
    intro e he
    rcases ih hrest e he with he | ⟨k, hk, hdec⟩
    · rcases mem_put he with rfl | he
      · exact .inr ⟨m, List.mem_cons_self, hvalue⟩
      · exact .inl he
    · exact .inr ⟨k, List.mem_cons_of_mem m hk, hdec⟩

end Table

/-! ## Texts -/

namespace Json.Codec

/-- The text that the value is written as is read as the value. -/
def ReadsBack (c : Codec α) (a : α) : Prop := readDocument c.decode (c.encode a).toText = .ok a

theorem readsBack_of_plain {c : Codec α} (h : c.Lawful) {a : α} (ha : (c.encode a).Plain maxDepth) :
    c.ReadsBack a :=
  readDocument_eq_ok_iff.2 ⟨c.encode a, ofText?_toText ha (Nat.le_refl _), h a⟩

theorem Faithful.readsBack {c : Codec α} (h : c.Faithful maxDepth) (a : α) : c.ReadsBack a :=
  readsBack_of_plain h.lawful (h.plain a)

end Json.Codec
end FeatureFlags
