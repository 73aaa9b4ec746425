import FeatureFlags.Json.Codec

/-!
# Records

A record is written as an object of its fields. It may be read from an object, whose members come in
any order and among which unknown ones are passed over, or from an array of the fields in order. A
field is known by its name or an alias and may be given once; a field that is not given takes its
default or, if it has none, is missed at the end.

**Results.**
* `Record.codec_lawful`: a record with distinct, lawful fields reads back what it writes.
-/
namespace FeatureFlags.Json

/-- One field of a record. -/
structure Field (α : Type) where
  name : String
  aliases : List String
  decode : Json → Except Fault α
  /-- Nothing when the field is left out. -/
  encode : α → Option Json
  /-- The value of a field that is not given. -/
  default? : Option α

namespace Field

/-- A field that has to be given. -/
def required (name : String) (c : Codec α) (aliases : List String := []) : Field α where
  name := name
  aliases := aliases
  decode := c.decode
  encode a := some (c.encode a)
  default? := none

/-- A field with a default; it is always written. -/
def defaulting (name : String) (c : Codec α) (default : α) : Field α where
  name := name
  aliases := []
  decode := c.decode
  encode a := some (c.encode a)
  default? := some default

/-- A field that may be left out or null. -/
def optional (name : String) (c : Codec α) : Field (Option α) where
  name := name
  aliases := []
  decode
    | .null => .ok none
    | json => (c.decode json).map some
  encode a := a.map c.encode
  default? := some none

def named (f : Field α) (key : String) : Bool := key == f.name || f.aliases.contains key

/-- What is written reads back, and what is left out is the default. -/
def Lawful (f : Field α) : Prop :=
  ∀ a, (∀ json, f.encode a = some json → f.decode json = .ok a) ∧
    (f.encode a = none → f.default? = some a)

theorem required_lawful {c : Codec α} (h : c.Lawful) (name : String) (aliases : List String) :
    (required name c aliases).Lawful := by
  intro a
  simp [required, h a]

theorem defaulting_lawful {c : Codec α} (h : c.Lawful) (name : String) (default : α) :
    (defaulting name c default).Lawful := by
  intro a
  simp [defaulting, h a]

/-- The codec must not write null, which stands for nothing. -/
theorem optional_lawful {c : Codec α} (h : c.Lawful) (hnull : ∀ a, c.encode a ≠ .null)
    (name : String) :
    (optional name c).Lawful := by
  intro a
  cases a with
  | none => simp [optional]
  | some a =>
    have := hnull a
    simp only [optional, Option.map_some, Option.some.injEq, forall_eq', reduceCtorEq,
      false_implies, and_true]
    rw [h a]
    rfl

end Field

/-- The fields of a record, in order of declaration. -/
inductive Fields : List Type → Type 1 where
  | nil : Fields []
  | cons {α : Type} {αs : List Type} (field : Field α) (rest : Fields αs) : Fields (α :: αs)

/-- A value for each field. -/
def Values : List Type → Type
  | [] => Unit
  | α :: αs => α × Values αs

/-- The values of the fields given so far. -/
def Slots : List Type → Type
  | [] => Unit
  | α :: αs => Option α × Slots αs

namespace Fields

/-- No field is given yet. -/
def noSlots : (αs : List Type) → Slots αs
  | [] => ()
  | _ :: αs => (none, noSlots αs)

def length : Fields αs → Nat
  | .nil => 0
  | .cons _ rest => rest.length + 1

/-- Takes a member of an object: into the slot of its field, or nowhere when no field has the
key. -/
def take : Fields αs → Slots αs → String → Json → Except Fault (Slots αs)
  | .nil, slots, _, _ => .ok slots
  | .cons field rest, (slot, slots), key, value =>
    if field.named key then
      match slot with
      | some _ => .error (.duplicateField field.name)
      | none => (field.decode value).map fun a => (some a, slots)
    else (rest.take slots key value).map fun slots => (slot, slots)

/-- Takes the members of an object one after the other. -/
def takeAll (fs : Fields αs) (slots : Slots αs) : List (String × Json) → Except Fault (Slots αs)
  | [] => .ok slots
  | (key, value) :: rest => do
    let slots ← fs.take slots key value
    fs.takeAll slots rest

/-- Fills the slots that are empty with defaults. -/
def finish : Fields αs → Slots αs → Except Fault (Values αs)
  | .nil, _ => .ok ()
  | .cons field rest, (slot, slots) =>
    match slot.or field.default? with
    | none => .error (.missingField field.name)
    | some a => (rest.finish slots).map fun as => (a, as)

/-- Takes the items of an array, the first of them for field number `index`. -/
def takeItems (record : String) (total : Nat) :
    (index : Nat) → Fields αs → List Json → Except Fault (Values αs)
  | _, .nil, [] => .ok ()
  | _, .nil, _ :: _ => .error .tooLong
  | index, .cons field rest, [] =>
    match field.default? with
    | none => .error (.tooShort index record total)
    | some a => (rest.takeItems record total (index + 1) []).map fun as => (a, as)
  | index, .cons field rest, item :: items => do
    let a ← field.decode item
    let as ← rest.takeItems record total (index + 1) items
    return (a, as)

/-- The members of the object that the values are written as. -/
def members : Fields αs → Values αs → List (String × Json)
  | .nil, _ => []
  | .cons field rest, (a, as) =>
    match field.encode a with
    | none => rest.members as
    | some json => (field.name, json) :: rest.members as

/-- Whether a key names one of the fields. -/
def named : Fields αs → String → Bool
  | .nil, _ => false
  | .cons field rest, key => field.named key || rest.named key

/-- No name of a field is a name of a later one. -/
def Distinct : Fields αs → Prop
  | .nil => True
  | .cons field rest => (∀ key, field.named key = true → rest.named key = false) ∧ rest.Distinct

/-- Every field is lawful. -/
def Lawful : Fields αs → Prop
  | .nil => True
  | .cons field rest => field.Lawful ∧ rest.Lawful

end Fields

/-- A record: the name that faults give it, its fields, and how its values are put together. -/
structure Record (α : Type) where
  name : String
  types : List Type
  fields : Fields types
  toValues : α → Values types
  ofValues : Values types → α

namespace Record

def decode (r : Record α) : Json → Except Fault α
  | .object members => do
    let slots ← r.fields.takeAll (Fields.noSlots r.types) members
    return r.ofValues (← r.fields.finish slots)
  | .array items => (r.fields.takeItems r.name r.fields.length 0 items).map r.ofValues
  | json => .error (mismatch ("struct " ++ r.name) json)

def codec (r : Record α) : Codec α where
  decode := r.decode
  encode a := .object (r.fields.members (r.toValues a))

end Record

/-! ## Reading back -/

namespace Fields

/-- Slots that agree with values: each one is empty or holds the value. -/
def slotsOf : (fs : Fields αs) → Values αs → Slots αs
  | .nil, _ => ()
  | .cons field rest, (a, as) => ((field.encode a).map fun _ => a, rest.slotsOf as)

theorem finish_slotsOf (fs : Fields αs) (h : fs.Lawful) (as : Values αs) :
    fs.finish (fs.slotsOf as) = .ok as := by
  induction fs with
  | nil => rfl
  | cons field rest ih =>
    obtain ⟨a, as⟩ := as
    simp only [slotsOf, finish, ih h.2 as]
    cases he : field.encode a with
    | none => simp [(h.1 a).2 he, Except.map]
    | some json => simp [Except.map]

theorem take_other {field : Field α} {rest : Fields αs} {slot : Option α} {slots : Slots αs}
    {key : String} {value : Json} (h : field.named key = false) :
    (cons field rest).take (slot, slots) key value =
      (rest.take slots key value).map fun slots => (slot, slots) :=
  if_neg (by simp [h])

theorem takeAll_other {field : Field α} {rest : Fields αs} {slot : Option α} {slots : Slots αs}
    {ms : List (String × Json)} (h : ∀ m ∈ ms, field.named m.1 = false) :
    (cons field rest).takeAll (slot, slots) ms =
      (rest.takeAll slots ms).map fun slots => (slot, slots) := by
  induction ms generalizing slots with
  | nil => rfl
  | cons m ms ih =>
    simp only [takeAll, take_other (h m List.mem_cons_self)]
    cases hr : rest.take slots m.1 m.2 with
    | error e => rfl
    | ok slots' => exact ih fun n hn => h n (List.mem_cons_of_mem m hn)

theorem named_members {fs : Fields αs} {as : Values αs} :
    ∀ m ∈ fs.members as, fs.named m.1 = true := by
  induction fs with
  | nil => intro m hm; simp [members] at hm
  | cons field rest ih =>
    obtain ⟨a, as⟩ := as
    intro m hm
    simp only [members] at hm
    simp only [named, Bool.or_eq_true]
    cases he : field.encode a with
    | none => rw [he] at hm; exact .inr (ih m hm)
    | some json =>
      rw [he] at hm
      rcases List.mem_cons.1 hm with rfl | hm
      · exact .inl (by simp [Field.named])
      · exact .inr (ih m hm)

theorem takeAll_members (fs : Fields αs) (hd : fs.Distinct) (h : fs.Lawful) (as : Values αs) :
    fs.takeAll (noSlots αs) (fs.members as) = .ok (fs.slotsOf as) := by
  induction fs with
  | nil => rfl
  | cons field rest ih =>
    obtain ⟨a, as⟩ := as
    have hother : ∀ m ∈ rest.members as, field.named m.1 = false := by
      intro m hm
      cases hn : field.named m.1 with
      | false => rfl
      | true => exact absurd (named_members m hm) (by simp [hd.1 m.1 hn])
    have hself : field.named field.name = true := by simp [Field.named]
    simp only [members, slotsOf, noSlots]
    cases he : field.encode a with
    | none =>
      simp only [Option.map_none]
      rw [takeAll_other hother, ih hd.2 h.2 as]
      rfl
    | some json =>
      have hdec := (h.1 a).1 json he
      simp only [takeAll, take, hself, if_true, hdec, Except.map, Option.map_some]
      change (cons field rest).takeAll (some a, noSlots _) (rest.members as) = _
      rw [takeAll_other hother, ih hd.2 h.2 as]
      rfl

end Fields

namespace Record

theorem codec_lawful {r : Record α} (hd : r.fields.Distinct) (h : r.fields.Lawful)
    (hv : ∀ a, r.ofValues (r.toValues a) = a) : r.codec.Lawful := by
  intro a
  simp only [codec, decode, Fields.takeAll_members _ hd h]
  change (do return r.ofValues (← r.fields.finish (r.fields.slotsOf (r.toValues a))) :
    Except Fault α) = _
  rw [Fields.finish_slotsOf _ h]
  exact congrArg Except.ok (hv a)

end Record
end FeatureFlags.Json
