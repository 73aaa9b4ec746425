import FeatureFlags.Proofs.Fields
import Mathlib.Data.List.Forall2
import Mathlib.Data.List.Nodup
import Mathlib.Data.List.Pairwise
import Mathlib.Logic.Relation

/-!
# Schemas of documents

A schema says what documents a type is read from. One value may be spelled in several ways: the
members of a record in any order and among unknown ones, a field under its name or an alias, a
record as the array of its fields, a name as the key of an object. None of this changes what is
read, at any depth.

**Results.**
* `Schema.Describes`: a reader takes what its schema accepts, and every spelling of it alike.
* `describes_list`, `describes_table`, `describes_nullable`: a schema is put together as its reader
  is.
* `DescribesFields.describes`: a record whose fields the schema lists is described by it.
-/
namespace FeatureFlags.Json

/-! ## Schemas -/

/-- A field of a record: its name, the other names that it is known by, whether it has to be given,
and the schema of what it holds. -/
structure Schema.Field (σ : Type) where
  name : String
  aliases : List String
  required : Bool
  holds : σ

/-- What documents a type is read from. -/
inductive Schema where
  | string
  | bool
  /-- An integer from `low` to `high`. -/
  | integer (low high : Int)
  /-- One of the known names, and any name at all if there are none. -/
  | name (known : Option (List String))
  /-- Null, or a document of the schema. -/
  | nullable (schema : Schema)
  | list (item : Schema)
  /-- An object with any keys. -/
  | table (value : Schema)
  /-- A boolean, a number, a string, or a list of such. -/
  | attribute
  | record (fields : List (Schema.Field Schema))

namespace Schema

namespace Field

variable {σ : Type}

/-- A field that has to be given. -/
def needed (name : String) (holds : σ) (aliases : List String := []) : Field σ :=
  ⟨name, aliases, true, holds⟩

/-- A field that may be left out. -/
def spare (name : String) (holds : σ) : Field σ := ⟨name, [], false, holds⟩

/-- Every name that the field is known by. -/
def names (f : Field σ) : List String := f.name :: f.aliases

def named (f : Field σ) (key : String) : Bool := key ∈ f.names

end Field

/-- A name that the schema knows. -/
def Knows (known : Option (List String)) (name : String) : Prop :=
  ∀ names, known = some names → name ∈ names

/-- The documents of a schema. -/
inductive Accepts : Schema → Json → Prop
  | string (s : String) : Accepts .string (.string s)
  | bool (b : Bool) : Accepts .bool (.bool b)
  | integer {low high i : Int} (hlow : low ≤ i) (hhigh : i ≤ high) :
    Accepts (.integer low high) (.number (.integer i))
  | name {known : Option (List String)} {n : String} (h : Knows known n) :
    Accepts (.name known) (.string n)
  | nameAsKey {known : Option (List String)} {n : String} (h : Knows known n) :
    Accepts (.name known) (.object [(n, .null)])
  | null (s : Schema) : Accepts (.nullable s) .null
  | present {s : Schema} {json : Json} (h : Accepts s json) : Accepts (.nullable s) json
  | list {s : Schema} {items : List Json} (h : ∀ item ∈ items, Accepts s item) :
    Accepts (.list s) (.array items)
  | table {s : Schema} {members : List (String × Json)} (h : ∀ m ∈ members, Accepts s m.2) :
    Accepts (.table s) (.object members)
  | boolAttribute (b : Bool) : Accepts .attribute (.bool b)
  | numberAttribute (n : Json.Number) : Accepts .attribute (.number n)
  | stringAttribute (s : String) : Accepts .attribute (.string s)
  | listAttribute {items : List Json} (h : ∀ item ∈ items, Accepts .attribute item) :
    Accepts .attribute (.array items)
  /-- No field is given twice, none is missing that is required, and what is given is what the field
  holds. -/
  | object {fields : List (Schema.Field Schema)} {members : List (String × Json)}
    (honce : ∀ f ∈ fields, (given f.named members).length ≤ 1)
    (hrequired : ∀ f ∈ fields, f.required = true → given f.named members ≠ [])
    (hholds : ∀ f ∈ fields, ∀ json ∈ given f.named members, Accepts f.holds json) :
    Accepts (.record fields) (.object members)
  /-- There are no more items than fields, no required field is beyond their end, and each item is
  what the field at its place holds. -/
  | array {fields : List (Schema.Field Schema)} {items : List Json}
    (hlength : items.length ≤ fields.length)
    (hrequired : ∀ f ∈ fields.drop items.length, f.required = false)
    (hholds : ∀ p ∈ fields.zip items, Accepts p.1.holds p.2) :
    Accepts (.record fields) (.array items)

/-- One step from a spelling of a document to another one of the same. -/
inductive Respells : Schema → Json → Json → Prop
  | order {fields : List (Schema.Field Schema)} {members members' : List (String × Json)}
    (h : members.Perm members') : Respells (.record fields) (.object members) (.object members')
  | unknown {fields : List (Schema.Field Schema)} {members : List (String × Json)} {key : String}
    {json : Json} (h : ∀ f ∈ fields, f.named key = false) :
    Respells (.record fields) (.object ((key, json) :: members)) (.object members)
  | rename {fields : List (Schema.Field Schema)} {members : List (String × Json)}
    {f : Schema.Field Schema} {key key' : String} {json : Json} (hf : f ∈ fields)
    (hkey : f.named key = true) (hkey' : f.named key' = true) :
    Respells (.record fields) (.object ((key, json) :: members)) (.object ((key', json) :: members))
  | byName {fields : List (Schema.Field Schema)} {items : List Json}
    (h : items.length ≤ fields.length) :
    Respells (.record fields) (.array items) (.object ((fields.map Field.name).zip items))
  | member {fields : List (Schema.Field Schema)} {members : List (String × Json)}
    {f : Schema.Field Schema} {key : String} {json json' : Json} (hf : f ∈ fields)
    (hkey : f.named key = true)
    (h : Respells f.holds json json') :
    Respells (.record fields) (.object ((key, json) :: members)) (.object ((key, json') :: members))
  | item {s : Schema} {before after : List Json} {json json' : Json} (h : Respells s json json') :
    Respells (.list s) (.array (before ++ json :: after)) (.array (before ++ json' :: after))
  | value {s : Schema} {before after : List (String × Json)} {key : String} {json json' : Json}
    (h : Respells s json json') :
    Respells (.table s) (.object (before ++ (key, json) :: after))
      (.object (before ++ (key, json') :: after))
  | present {s : Schema} {json json' : Json} (h : Respells s json json') :
    Respells (.nullable s) json json'
  | name {known : Option (List String)} {n : String} :
    Respells (.name known) (.object [(n, .null)]) (.string n)

/-- Two spellings of one document: any number of steps lead from one to the other, in either
direction. -/
def SameDocument (s : Schema) : Json → Json → Prop := Relation.EqvGen s.Respells

/-- A reader takes just the documents of the schema, and reads the same from every spelling of
one. -/
structure Describes (s : Schema) (decode : Json → Except Fault α) : Prop where
  accepts : ∀ json, (∃ a, decode json = .ok a) ↔ s.Accepts json
  same : ∀ json json', s.SameDocument json json' → ∀ a, decode json = .ok a ↔ decode json' = .ok a

section

variable {s : Schema} {decode : Json → Except Fault α}

/-- What does not change in one step does not change in any number of steps. -/
theorem describes_of_respelled (accepts : ∀ json, (∃ a, decode json = .ok a) ↔ s.Accepts json)
    (respelled : ∀ json json', s.Respells json json' → ∀ a, decode json = .ok a ↔
      decode json' = .ok a) :
    s.Describes decode := by
  refine ⟨accepts, fun json json' h a => ?_⟩
  induction h with
  | rel json json' h => exact respelled json json' h a
  | refl json => exact Iff.rfl
  | symm json json' _ ih => exact ih.symm
  | trans json json' json'' _ _ ih ih' => exact ih.trans ih'

theorem Describes.respelled (h : s.Describes decode) {json json' : Json}
    (hstep : s.Respells json json') {a : α} :
    decode json = .ok a ↔ decode json' = .ok a :=
  h.same json json' (.rel _ _ hstep) a

/-- A text is read when it holds a document of the schema. -/
theorem Describes.reads_text (h : s.Describes decode) (text : String) :
    (∃ a, readDocument decode text = .ok a) ↔
      ∃ json, Json.ofText? text = some json ∧ s.Accepts json := by
  simp only [readDocument_eq_ok_iff]
  constructor
  · rintro ⟨a, json, htext, hdecode⟩
    exact ⟨json, htext, (h.accepts json).1 ⟨a, hdecode⟩⟩
  · rintro ⟨json, htext, hjson⟩
    obtain ⟨a, hdecode⟩ := (h.accepts json).2 hjson
    exact ⟨a, json, htext, hdecode⟩

/-- Null has one spelling only. -/
theorem ne_null_of_respells {json json' : Json} (h : s.Respells json json') :
    json ≠ .null ∧ json' ≠ .null := by
  induction h with
  | member _ _ _ _ => exact ⟨Json.noConfusion, Json.noConfusion⟩
  | present _ ih => exact ih
  | _ => exact ⟨Json.noConfusion, Json.noConfusion⟩

end

/-! ## Plain types -/

theorem describes_string : Schema.string.Describes Codec.string.decode := by
  refine describes_of_respelled (fun json => ?_) fun _ _ h => by cases h
  constructor
  · rintro ⟨a, h⟩
    cases json with
    | string s => exact .string s
    | _ => cases h
  · rintro ⟨s⟩
    exact ⟨s, rfl⟩

theorem describes_bool : Schema.bool.Describes Codec.bool.decode := by
  refine describes_of_respelled (fun json => ?_) fun _ _ h => by cases h
  constructor
  · rintro ⟨a, h⟩
    cases json with
    | bool b => exact .bool b
    | _ => cases h
  · rintro ⟨⟩
    exact ⟨_, rfl⟩

theorem describes_integer (expected : String) (low high : Int) :
    (integer low high).Describes (Codec.decodeInt expected low high) := by
  refine describes_of_respelled (fun json => ?_) fun _ _ h => by cases h
  constructor
  · rintro ⟨a, h⟩
    unfold Codec.decodeInt at h
    split at h
    · split at h
      · next hrange => exact .integer hrange.1 hrange.2
      · cases h
    · cases h
  · intro h
    cases h with
    | integer hlow hhigh => exact ⟨_, Codec.decodeInt_int hlow hhigh⟩

theorem Describes.map {s : Schema} {decode : Json → Except Fault α} (h : s.Describes decode)
    (f : α → β) :
    s.Describes fun json => (decode json).map f := by
  refine describes_of_respelled (fun json => ?_) fun json json' hstep b => ?_
  · rw [← h.accepts json]
    simp only [map_eq_ok_iff]
    exact ⟨fun ⟨_, a, ha, _⟩ => ⟨a, ha⟩, fun ⟨a, ha⟩ => ⟨f a, a, ha, rfl⟩⟩
  · simp only [map_eq_ok_iff, h.respelled hstep]

theorem describes_int32 : (integer (-2147483648) 2147483647).Describes Codec.int32.decode :=
  (describes_integer "i32" Int32.minValue.toInt Int32.maxValue.toInt).map Int32.ofInt

theorem describes_uint32 : (integer 0 4294967295).Describes Codec.uint32.decode := by
  have hsize : (UInt32.size : Int) - 1 = 4294967295 := by decide
  exact hsize ▸ (describes_integer "u32" 0 (UInt32.size - 1)).map fun i => UInt32.ofNat i.toNat

/-- The names of an enumeration, and nothing if it takes every name. -/
def knownNames (n : Names α) : Option (List String) :=
  match n.other with
  | some _ => none
  | none => some (n.known.map Prod.fst)

theorem exists_lookup_iff {entries : List (String × α)} {key : String} :
    (∃ a, entries.lookup key = some a) ↔ key ∈ entries.map Prod.fst := by
  induction entries with
  | nil => simp
  | cons e rest ih =>
    obtain ⟨k, b⟩ := e
    rw [List.map_cons, List.mem_cons, ← ih, List.lookup_cons]
    by_cases h : key = k
    · simp [h]
    · simp [h, beq_false_of_ne h]

theorem exists_find_iff {n : Names α} {name : String} :
    (∃ a, n.find name = .ok a) ↔ Knows (knownNames n) name := by
  unfold Names.find Knows knownNames
  cases n.other with
  | some other => cases n.known.lookup name <;> simp
  | none =>
    simp only [Option.some.injEq, forall_eq', ← exists_lookup_iff]
    cases n.known.lookup name <;> simp

/-- A name is written as a string, or as an object that has it as its only key and null under it. -/
theorem decode_name_eq_ok_iff {n : Names α} {json : Json} {a : α} : n.decode json = .ok a ↔
    ∃ name, (json = .string name ∨ json = .object [(name, .null)]) ∧ n.find name = .ok a := by
  constructor
  · intro h
    unfold Names.decode at h
    split at h
    · exact ⟨_, .inl rfl, h⟩
    · obtain ⟨b, hb, h⟩ := bind_eq_ok_iff.1 h
      split at h
      · cases h
        exact ⟨_, .inr rfl, hb⟩
      · cases h
      · cases h
    · cases h
    · cases h
  · rintro ⟨name, rfl | rfl, h⟩
    · exact h
    · exact bind_eq_ok_iff.2 ⟨a, h, rfl⟩

theorem describes_names (n : Names α) : (Schema.name (knownNames n)).Describes n.decode := by
  refine describes_of_respelled (fun json => ?_) fun json json' hstep a => ?_
  · simp only [decode_name_eq_ok_iff]
    constructor
    · rintro ⟨a, name, rfl | rfl, h⟩
      · exact .name (exists_find_iff.1 ⟨a, h⟩)
      · exact .nameAsKey (exists_find_iff.1 ⟨a, h⟩)
    · intro haccepts
      cases haccepts with
      | @name _ name h =>
        obtain ⟨a, ha⟩ := exists_find_iff.2 h
        exact ⟨a, name, .inl rfl, ha⟩
      | @nameAsKey _ name h =>
        obtain ⟨a, ha⟩ := exists_find_iff.2 h
        exact ⟨a, name, .inr rfl, ha⟩
  · cases hstep
    simp [decode_name_eq_ok_iff]

/-! ## Lists, tables and attributes -/

theorem decodeItems_eq_ok_iff {decode : Json → Except Fault α} {items : List Json} {as : List α} :
    Codec.decodeItems decode items = .ok as ↔
      List.Forall₂ (fun item a => decode item = .ok a) items as := by
  induction items generalizing as with
  | nil => simp [Codec.decodeItems, eq_comm]
  | cons item items ih =>
    rw [Codec.decodeItems, bind_eq_ok_iff]
    constructor
    · rintro ⟨a, ha, h⟩
      obtain ⟨as, has, h⟩ := bind_eq_ok_iff.1 h
      cases h
      exact .cons ha (ih.1 has)
    · intro h
      cases h with
      | cons ha has => exact ⟨_, ha, bind_eq_ok_iff.2 ⟨_, ih.2 has, rfl⟩⟩

theorem forall₂_exists_iff {R : α → β → Prop} {as : List α} :
    (∃ bs, List.Forall₂ R as bs) ↔ ∀ a ∈ as, ∃ b, R a b := by
  induction as with
  | nil => simp
  | cons a as ih =>
    rw [List.forall_mem_cons, ← ih]
    constructor
    · rintro ⟨_, _ | ⟨hb, hbs⟩⟩
      exact ⟨⟨_, hb⟩, _, hbs⟩
    · rintro ⟨⟨b, hb⟩, bs, hbs⟩
      exact ⟨b :: bs, .cons hb hbs⟩

theorem describes_list {s : Schema} {c : Codec α} (h : s.Describes c.decode) :
    (list s).Describes c.list.decode := by
  refine describes_of_respelled (fun json => ?_) fun json json' hstep as => ?_
  · constructor
    · rintro ⟨as, has⟩
      simp only [Codec.list] at has
      split at has
      · have hitems := forall₂_exists_iff.1 ⟨as, decodeItems_eq_ok_iff.1 has⟩
        exact .list fun item hitem => (h.accepts item).1 (hitems item hitem)
      · cases has
    · intro hlist
      cases hlist with
      | list hitems =>
        obtain ⟨as, has⟩ := forall₂_exists_iff.2 fun item hitem =>
          (h.accepts item).2 (hitems item hitem)
        exact ⟨as, decodeItems_eq_ok_iff.2 has⟩
  · cases hstep with
    | @item _ before after json json' hstep =>
      simp only [Codec.list, decodeItems_eq_ok_iff]
      induction before generalizing as with
      | nil =>
        cases as with
        | nil => simp
        | cons a as => simp [h.respelled hstep]
      | cons item before ih =>
        cases as with
        | nil => simp
        | cons a as => simp [ih as]

theorem exists_decodeMembers_iff {decode : Json → Except Fault α} {members : List (String × Json)}
    {t : Table α} :
    (∃ t', Table.decodeMembers decode t members = .ok t') ↔
      ∀ m ∈ members, ∃ a, decode m.2 = .ok a := by
  induction members generalizing t with
  | nil => simp [Table.decodeMembers]
  | cons m members ih =>
    simp only [Table.decodeMembers, bind_eq_ok_iff, List.forall_mem_cons]
    constructor
    · rintro ⟨t', a, ha, hrest⟩
      exact ⟨⟨a, ha⟩, ih.1 ⟨t', hrest⟩⟩
    · rintro ⟨⟨a, ha⟩, hrest⟩
      obtain ⟨t', ht'⟩ := ih.2 hrest
      exact ⟨t', a, ha, ht'⟩

theorem describes_table {s : Schema} {c : Codec α} (h : s.Describes c.decode) :
    (table s).Describes (Table.codec c).decode := by
  refine describes_of_respelled (fun json => ?_) fun json json' hstep t => ?_
  · constructor
    · rintro ⟨t, ht⟩
      simp only [Table.codec] at ht
      split at ht
      · have hmembers := exists_decodeMembers_iff.1 ⟨t, ht⟩
        exact .table fun m hm => (h.accepts m.2).1 (hmembers m hm)
      · cases ht
    · intro htable
      cases htable with
      | table hmembers =>
        exact exists_decodeMembers_iff.2 fun m hm => (h.accepts m.2).2 (hmembers m hm)
  · cases hstep with
    | @value _ before after key json json' hstep =>
      simp only [Table.codec]
      generalize Table.empty = start
      induction before generalizing start with
      | nil => simp only [List.nil_append, Table.decodeMembers, bind_eq_ok_iff, h.respelled hstep]
      | cons m before ih => simp only [List.cons_append, Table.decodeMembers, bind_eq_ok_iff, ih]

mutual

theorem exists_decode_iff :
    ∀ json : Json, (∃ v, AttributeValue.decode json = .ok v) ↔ attribute.Accepts json
  | .bool b => iff_of_true ⟨_, rfl⟩ (.boolAttribute b)
  | .number (.real x) => iff_of_true ⟨_, rfl⟩ (.numberAttribute _)
  | .number (.integer i) => by
    refine iff_of_true ?_ (.numberAttribute _)
    rw [← Json.int, AttributeValue.decode_int]
    split <;> exact ⟨_, rfl⟩
  | .string s => iff_of_true ⟨_, rfl⟩ (.stringAttribute s)
  | .array items => by
    simp only [AttributeValue.decode_array_eq_ok_iff]
    constructor
    · rintro ⟨_, vs, hvs, -⟩
      exact .listAttribute ((exists_decodeItems_iff items).1 ⟨vs, hvs⟩)
    · intro h
      cases h with
      | listAttribute hitems =>
        obtain ⟨vs, hvs⟩ := (exists_decodeItems_iff items).2 hitems
        exact ⟨_, vs, hvs, rfl⟩
  | .null | .object _ | .unreadable => iff_of_false (fun ⟨_, h⟩ => by cases h) fun h => by cases h

theorem exists_decodeItems_iff : ∀ items : List Json,
    (∃ vs, AttributeValue.decodeItems items = .ok vs) ↔ ∀ item ∈ items, attribute.Accepts item
  | [] => iff_of_true ⟨_, rfl⟩ fun _ h => by cases h
  | item :: rest => by
    rw [List.forall_mem_cons, ← exists_decode_iff item, ← exists_decodeItems_iff rest]
    simp only [AttributeValue.decodeItems_cons_eq_ok_iff]
    constructor
    · rintro ⟨_, v, vs, hv, hvs, -⟩
      exact ⟨⟨v, hv⟩, vs, hvs⟩
    · rintro ⟨⟨v, hv⟩, vs, hvs⟩
      exact ⟨_, v, vs, hv, hvs, rfl⟩

end

theorem describes_attribute : attribute.Describes AttributeValue.codec.decode :=
  describes_of_respelled exists_decode_iff fun _ _ h => by cases h

/-! ## Fields -/

/-- The schema of a field says what the field is known by and whether it has a default, and
describes what it holds. -/
structure Field.DescribesField (g : Field Schema) (f : Json.Field α) : Prop where
  name : f.name = g.name
  aliases : f.aliases = g.aliases
  required : g.required = f.default?.isNone
  holds : g.holds.Describes f.decode

namespace Field

variable {s : Schema} {c : Codec α}

theorem describes_required (h : s.Describes c.decode) (name : String) (aliases : List String) :
    (needed name s aliases).DescribesField (.required name c aliases) :=
  ⟨rfl, rfl, rfl, h⟩

theorem describes_defaulting (h : s.Describes c.decode) (name : String) (default : α) :
    (spare name s).DescribesField (.defaulting name c default) :=
  ⟨rfl, rfl, rfl, h⟩

end Field

theorem describes_nullable {s : Schema} {c : Codec α} (h : s.Describes c.decode) (name : String) :
    (nullable s).Describes (Json.Field.optional name c).decode := by
  have hdecode : ∀ json, json ≠ .null →
      (Json.Field.optional name c).decode json = (c.decode json).map some := by
    intro json hjson
    cases json with
    | null => exact absurd rfl hjson
    | _ => rfl
  refine describes_of_respelled (fun json => ?_) fun json json' hstep a => ?_
  · cases json with
    | null => exact iff_of_true ⟨none, rfl⟩ (.null s)
    | _ =>
      rw [hdecode _ Json.noConfusion, (h.map some).accepts]
      exact ⟨.present, fun hp => by cases hp; assumption⟩
  · cases hstep with
    | present hstep =>
      obtain ⟨hjson, hjson'⟩ := ne_null_of_respells hstep
      rw [hdecode json hjson, hdecode json' hjson']
      exact (h.map some).respelled hstep

theorem Field.describes_optional {s : Schema} {c : Codec α} (h : s.Describes c.decode)
    (name : String) :
    (spare name (nullable s)).DescribesField (.optional name c) :=
  ⟨rfl, rfl, rfl, describes_nullable h name⟩

/-! ## Records -/

/-- The schema lists the fields of a record in their order. -/
inductive DescribesFields : {αs : List Type} → List (Field Schema) → Fields αs → Prop
  | nil : DescribesFields [] .nil
  | cons {α : Type} {αs : List Type} {g : Field Schema} {gs : List (Field Schema)}
    {f : Json.Field α} {fs : Fields αs} (h : g.DescribesField f) (hrest : DescribesFields gs fs) :
    DescribesFields (g :: gs) (.cons f fs)

/-- No name stands for two fields. -/
def Unambiguous (gs : List (Field Schema)) : Prop := (gs.flatMap Field.names).Nodup

instance (gs : List (Field Schema)) : Decidable (Unambiguous gs) :=
  inferInstanceAs (Decidable (gs.flatMap Field.names).Nodup)

theorem Field.DescribesField.named_eq {g : Field Schema} {f : Json.Field α}
    (h : g.DescribesField f) :
    f.named = g.named := by
  funext key
  rw [Bool.eq_iff_iff]
  simp [Json.Field.named, Field.named, Field.names, h.name, h.aliases]

theorem eq_of_named {gs : List (Field Schema)} (hd : Unambiguous gs) {g g' : Field Schema}
    (hg : g ∈ gs) (hg' : g' ∈ gs) {key : String} (hkey : g.named key = true)
    (hkey' : g'.named key = true) : g = g' := by
  obtain ⟨-, hdisjoint⟩ := List.nodup_flatMap.1 hd
  have hsymm : Std.Symm (Function.onFun List.Disjoint (Field.names (σ := Schema))) :=
    ⟨fun _ _ h => List.disjoint_symm h⟩
  by_contra hne
  exact hdisjoint.forall hg hg' hne (of_decide_eq_true hkey) (of_decide_eq_true hkey')

/-- A field takes a value when it is given no more than one, at least one if it is required, and
what it holds. -/
theorem Field.DescribesField.exists_takes_iff {g : Field Schema} {f : Json.Field α}
    (h : g.DescribesField f) {jsons : List Json} : (∃ a, f.Takes jsons a) ↔
      jsons.length ≤ 1 ∧ (g.required = true → jsons ≠ []) ∧
        ∀ json ∈ jsons, g.holds.Accepts json := by
  match jsons with
  | [] =>
    simp only [Json.Field.Takes, h.required]
    cases f.default? <;> simp
  | [json] => simpa [Json.Field.Takes] using h.holds.accepts json
  | _ :: _ :: _ => simp [Json.Field.Takes]

/-- The values of fields are found one by one. -/
theorem exists_values_cons_iff {p : α → Prop} {q : Values αs → Prop} :
    (∃ as : Values (α :: αs), p as.1 ∧ q as.2) ↔ (∃ a, p a) ∧ ∃ as, q as := by
  constructor
  · rintro ⟨⟨a, as⟩, ha, has⟩
    exact ⟨⟨a, ha⟩, as, has⟩
  · rintro ⟨⟨a, ha⟩, as, has⟩
    exact ⟨(a, as), ha, has⟩

namespace DescribesFields

variable {gs : List (Field Schema)} {αs : List Type} {fs : Fields αs}

theorem names_eq (h : DescribesFields gs fs) : fs.names = gs.flatMap Field.names := by
  induction h with
  | nil => rfl
  | cons h _ ih => rw [Fields.names, List.flatMap_cons, ← ih, h.name, h.aliases]; rfl

theorem keys_eq (h : DescribesFields gs fs) : fs.keys = gs.map Field.name := by
  induction h with
  | nil => rfl
  | cons h _ ih => rw [Fields.keys, List.map_cons, ih, h.name]

theorem distinct (h : DescribesFields gs fs) (hd : Unambiguous gs) : fs.Distinct :=
  Fields.distinct_of_nodup (h.names_eq ▸ hd)

theorem exists_takes_iff (h : DescribesFields gs fs) {members : List (String × Json)} :
    (∃ as, fs.Takes members as) ↔ ∀ g ∈ gs, (given g.named members).length ≤ 1 ∧
      (g.required = true → given g.named members ≠ []) ∧
      ∀ json ∈ given g.named members, g.holds.Accepts json := by
  induction h with
  | nil => exact iff_of_true ⟨(), trivial⟩ fun _ hg => by cases hg
  | cons hfield _ ih =>
    rw [List.forall_mem_cons, ← ih, ← hfield.exists_takes_iff, ← hfield.named_eq]
    exact exists_values_cons_iff

/-- Objects that give every field the same, as far as the field can tell, give the same values. -/
theorem takes_congr (h : DescribesFields gs fs) {members members' : List (String × Json)}
    (hgiven : ∀ g ∈ gs, ∀ {α : Type} {f : Json.Field α}, g.DescribesField f → ∀ a,
      f.Takes (given g.named members) a ↔ f.Takes (given g.named members') a) {as : Values αs} :
    fs.Takes members as ↔ fs.Takes members' as := by
  induction h with
  | nil => exact Iff.rfl
  | cons hfield _ ih =>
    obtain ⟨a, as⟩ := as
    obtain ⟨hfirst, hothers⟩ := List.forall_mem_cons.1 hgiven
    rw [Fields.Takes, Fields.Takes, hfield.named_eq, hfirst hfield a, ih hothers]

theorem exists_takesItems_iff (h : DescribesFields gs fs) {items : List Json} :
    (∃ as, fs.TakesItems items as) ↔ items.length ≤ gs.length ∧
      (∀ g ∈ gs.drop items.length, g.required = false) ∧
        ∀ p ∈ gs.zip items, p.1.holds.Accepts p.2 := by
  induction h generalizing items with
  | nil => cases items with
    | nil => exact iff_of_true ⟨(), rfl⟩ (by simp)
    | cons item items => exact iff_of_false (fun ⟨_, h⟩ => by cases h) (by simp)
  | @cons α αs g gs f fs hfield _ ih =>
    cases items with
    | nil =>
      have hdefault : (∃ a, f.default? = some a) ↔ g.required = false := by
        rw [hfield.required, Option.isNone_eq_false_iff, Option.isSome_iff_exists]
      have hrest := @ih []
      simp only [List.length_nil, Nat.zero_le, List.drop_zero, List.zip_nil_right, List.not_mem_nil,
        false_implies, implies_true, and_true, true_and, List.forall_mem_cons] at hrest ⊢
      rw [← hdefault, ← hrest]
      exact exists_values_cons_iff (p := fun a => f.default? = some a)
        (q := fun as => fs.TakesItems [] as)
    | cons item items =>
      have hitem := hfield.holds.accepts item
      simp only [List.length_cons, Nat.add_le_add_iff_right, List.drop_succ_cons,
        List.zip_cons_cons, List.forall_mem_cons, ← hitem]
      constructor
      · rintro ⟨⟨a, as⟩, ha, has⟩
        obtain ⟨hlength, hrequired, hholds⟩ := ih.1 ⟨as, has⟩
        exact ⟨hlength, hrequired, ⟨a, ha⟩, hholds⟩
      · rintro ⟨hlength, hrequired, ⟨a, ha⟩, hholds⟩
        obtain ⟨as, has⟩ := ih.2 ⟨hlength, hrequired, hholds⟩
        exact ⟨(a, as), ha, has⟩

end DescribesFields

/-! ### Spellings of a record -/

section

variable {gs : List (Field Schema)} {members : List (String × Json)} {g : Field Schema}
  {key : String}

theorem given_unknown (h : ∀ g ∈ gs, g.named key = false) (json : Json) :
    ∀ g ∈ gs, given g.named ((key, json) :: members) = given g.named members := fun g hg =>
  given_cons_of_not_named (h g hg)

/-- Both names of a field are names of no other field. -/
theorem given_rename (hd : Unambiguous gs) {key' : String} (hg : g ∈ gs) (hkey : g.named key = true)
    (hkey' : g.named key' = true) (json : Json) :
    ∀ g' ∈ gs, given g'.named ((key, json) :: members) =
      given g'.named ((key', json) :: members) := by
  intro g' hg'
  by_cases hsame : g' = g
  · subst hsame
    rw [given_cons_of_named hkey, given_cons_of_named hkey']
  · have hother : ∀ k, g.named k = true → g'.named k = false := fun k hk =>
      Bool.eq_false_iff.2 fun hk' => hsame (eq_of_named hd hg' hg hk' hk)
    rw [given_cons_of_not_named (hother key hkey), given_cons_of_not_named (hother key' hkey')]

/-- Another spelling of what a field holds is taken as the same value. -/
theorem takes_respelled {f : Json.Field α} (h : g.DescribesField f) {json json' : Json}
    (hstep : g.holds.Respells json json') (jsons : List Json) (a : α) :
    f.Takes (json :: jsons) a ↔ f.Takes (json' :: jsons) a := by
  cases jsons with
  | nil => exact h.holds.respelled hstep
  | cons => exact Iff.rfl

end

namespace DescribesFields

variable {r : Record α} {gs : List (Field Schema)} (h : DescribesFields gs r.fields)
  (hd : Unambiguous gs)

include h hd

theorem exists_decode_iff (json : Json) :
    (∃ a, r.decode json = .ok a) ↔ (record gs).Accepts json := by
  constructor
  · rintro ⟨a, ha⟩
    cases json with
    | object members =>
      obtain ⟨as, htakes, -⟩ := (Record.decode_object_eq_ok_iff (h.distinct hd)).1 ha
      have hgiven := h.exists_takes_iff.1 ⟨as, htakes⟩
      exact .object (fun g hg => (hgiven g hg).1) (fun g hg => (hgiven g hg).2.1) fun g hg =>
        (hgiven g hg).2.2
    | array items =>
      obtain ⟨as, htakes, -⟩ := Record.decode_array_eq_ok_iff.1 ha
      obtain ⟨hlength, hrequired, hholds⟩ := h.exists_takesItems_iff.1 ⟨as, htakes⟩
      exact .array hlength hrequired hholds
    | _ => cases ha
  · intro haccepts
    cases haccepts with
    | object honce hrequired hholds =>
      obtain ⟨as, htakes⟩ := h.exists_takes_iff.2 fun g hg =>
        ⟨honce g hg, hrequired g hg, hholds g hg⟩
      exact ⟨_, (Record.decode_object_eq_ok_iff (h.distinct hd)).2 ⟨as, htakes, rfl⟩⟩
    | array hlength hrequired hholds =>
      obtain ⟨as, htakes⟩ := h.exists_takesItems_iff.2 ⟨hlength, hrequired, hholds⟩
      exact ⟨_, Record.decode_array_eq_ok_iff.2 ⟨as, htakes, rfl⟩⟩

/-- Objects that give every field the same are read alike. -/
theorem decode_congr {members members' : List (String × Json)}
    (hgiven : ∀ g ∈ gs, ∀ {β : Type} {f : Json.Field β}, g.DescribesField f → ∀ b,
      f.Takes (given g.named members) b ↔ f.Takes (given g.named members') b) (a : α) :
    r.decode (.object members) = .ok a ↔ r.decode (.object members') = .ok a := by
  simp only [Record.decode_object_eq_ok_iff (h.distinct hd), h.takes_congr hgiven]

theorem decode_byName {items : List Json} (hlength : items.length ≤ gs.length) (a : α) :
    r.decode (.array items) = .ok a ↔
      r.decode (.object ((gs.map Field.name).zip items)) = .ok a := by
  have hkeys : items.length ≤ r.fields.keys.length := by rwa [h.keys_eq, List.length_map]
  simp only [Record.decode_array_eq_ok_iff, Record.decode_object_eq_ok_iff (h.distinct hd),
    ← h.keys_eq, Fields.takesItems_iff (h.distinct hd) hkeys]

/-- A record is read from the documents of its schema, whatever way they are spelled. -/
theorem describes : (record gs).Describes r.decode := by
  refine describes_of_respelled (h.exists_decode_iff hd) fun json json' hstep a => ?_
  cases hstep with
  | byName hlength => exact h.decode_byName hd hlength a
  | order hperm =>
    exact h.decode_congr hd (fun _ _ _ _ _ _ => Json.Field.takes_perm (given_perm hperm)) a
  | unknown hkey =>
    exact h.decode_congr hd (fun g hg _ _ _ _ => by rw [given_unknown hkey _ g hg]) a
  | rename hg hkey hkey' =>
    exact h.decode_congr hd (fun g' hg' _ _ _ _ => by rw [given_rename hd hg hkey hkey' _ g' hg']) a
  | @member _ _ g _ _ _ hg hkey hstep =>
    refine h.decode_congr hd (fun g' hg' _ _ hfield b => ?_) a
    by_cases hsame : g' = g
    · subst hsame
      rw [given_cons_of_named hkey, given_cons_of_named hkey]
      exact takes_respelled hfield hstep _ b
    · have hother : g'.named _ = false := Bool.eq_false_iff.2 fun hk =>
        hsame (eq_of_named hd hg' hg hk hkey)
      rw [given_cons_of_not_named hother, given_cons_of_not_named hother]

end DescribesFields

end Schema
end FeatureFlags.Json
