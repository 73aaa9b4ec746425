import FeatureFlags.Proofs.Codecs

/-!
# What the fields of a record are given

An object gives a field the values of the members that the field names, whichever of its names they
use and wherever they stand. A field that is given nothing takes its default, one that is given one
value decodes it, and more than one is refused. An array gives the fields one value each, in order,
as far as it goes.

**Results.**
* `Record.decode_object_eq_ok_iff`, `Record.decode_array_eq_ok_iff`: a record is read just when
  every field takes a value from what it is given.
* `Fields.takesItems_iff`: an array that is not too long gives the same as the object of its items
  by name.
-/
namespace FeatureFlags.Json

theorem bind_eq_ok_iff {x : Except ε α} {f : α → Except ε β} {b : β} :
    x >>= f = .ok b ↔ ∃ a, x = .ok a ∧ f a = .ok b :=
  ⟨exists_ok_of_bind, fun ⟨a, ha, hf⟩ => by rw [ha]; exact hf⟩

theorem map_eq_ok_iff {x : Except ε α} {f : α → β} {b : β} :
    x.map f = .ok b ↔ ∃ a, x = .ok a ∧ f a = b :=
  ⟨exists_ok_of_map, fun ⟨a, ha, hf⟩ => by rw [ha, ← hf]; rfl⟩

theorem map_pair_eq_ok_iff {x : Except ε α} {a : α} {b c : β} :
    x.map (fun a => (b, a)) = .ok (c, a) ↔ b = c ∧ x = .ok a := by
  cases x <;> simp [Except.map]

/-! ## Members with a name -/

/-- The values of the members whose keys pass a test, in order. -/
def given (named : String → Bool) (members : List (String × Json)) : List Json :=
  (members.filter fun m => named m.1).map Prod.snd

section

variable {named : String → Bool} {key : String} {json : Json}
  {members members' : List (String × Json)}

@[simp] theorem given_nil : given named [] = [] := rfl

theorem given_cons_of_named (h : named key = true) :
    given named ((key, json) :: members) = json :: given named members := by
  simp [given, h]

theorem given_cons_of_not_named (h : named key = false) :
    given named ((key, json) :: members) = given named members := by
  simp [given, h]

theorem mem_given : json ∈ given named members ↔ ∃ m ∈ members, named m.1 = true ∧ m.2 = json := by
  simp [given]

theorem given_perm (h : members.Perm members') :
    (given named members).Perm (given named members') :=
  (h.filter _).map _

theorem given_eq_nil (h : ∀ m ∈ members, named m.1 = false) : given named members = [] :=
  List.eq_nil_iff_forall_not_mem.2 fun json hjson => by
    obtain ⟨m, hm, hnamed, -⟩ := mem_given.1 hjson
    exact absurd hnamed (by simp [h m hm])

end

/-! ## One field -/

namespace Field

variable {f : Field α} {a : α}

/-- The field takes a value from what it is given: its default from nothing, and from one value what
that is decoded as. -/
def Takes (f : Field α) : List Json → α → Prop
  | [], a => f.default? = some a
  | [json], a => f.decode json = .ok a
  | _ :: _ :: _, _ => False

/-- The order does not matter, as more than one value is too many. -/
theorem takes_perm {jsons jsons' : List Json} (h : jsons.Perm jsons') :
    f.Takes jsons a ↔ f.Takes jsons' a := by
  match jsons, jsons', h.length_eq with
  | [], [], _ => exact Iff.rfl
  | [_], [_], _ => rw [List.singleton_perm_singleton.1 h]
  | _ :: _ :: _, _ :: _ :: _, _ => exact Iff.rfl

/-- What the slot of the field holds once the field is given more values. -/
def Fills (f : Field α) (slot : Option α) : List Json → Option α → Prop
  | [], slot' => slot' = slot
  | [json], slot' => slot = none ∧ ∃ a, f.decode json = .ok a ∧ slot' = some a
  | _ :: _ :: _, _ => False

theorem not_fills_some {slot' : Option α} {json : Json} {jsons : List Json} :
    ¬ f.Fills (some a) (json :: jsons) slot' := by
  cases jsons with
  | nil => exact fun h => Option.some_ne_none _ h.1
  | cons => exact id

theorem fills_cons {slot' : Option α} {json : Json} {jsons : List Json}
    (h : f.decode json = .ok a) :
    f.Fills none (json :: jsons) slot' ↔ f.Fills (some a) jsons slot' := by
  cases jsons with
  | nil => simp [Fills, h]
  | cons => exact iff_of_false id not_fills_some

theorem not_fills_cons {slot slot' : Option α} {json : Json} {jsons : List Json} {fault : Fault}
    (h : f.decode json = .error fault) : ¬ f.Fills slot (json :: jsons) slot' := by
  cases jsons with
  | nil => simp [Fills, h]
  | cons => exact id

/-- A field takes what fills its slot, and its default if the slot stays empty. -/
theorem takes_iff {jsons : List Json} :
    f.Takes jsons a ↔ ∃ slot, f.Fills none jsons slot ∧ slot.or f.default? = some a := by
  match jsons with
  | [] => simp [Takes, Fills]
  | [json] => cases h : f.decode json <;> simp [Takes, Fills, h]
  | _ :: _ :: _ => simp [Takes, Fills]

end Field

/-! ## All fields -/

namespace Fields

/-- Every field takes its value from the members of an object. -/
def Takes : Fields αs → List (String × Json) → Values αs → Prop
  | .nil, _, _ => True
  | .cons field rest, members, (a, as) =>
    field.Takes (given field.named members) a ∧ rest.Takes members as

/-- Every field takes its value from the item at its place, or its default where the items are at an
end. -/
def TakesItems : Fields αs → List Json → Values αs → Prop
  | .nil, items, _ => items = []
  | .cons field rest, [], (a, as) => field.default? = some a ∧ rest.TakesItems [] as
  | .cons field rest, item :: items, (a, as) => field.decode item = .ok a ∧ rest.TakesItems items as

/-- The names that the fields are written under. -/
def keys : Fields αs → List String
  | .nil => []
  | .cons field rest => field.name :: rest.keys

theorem named_of_mem_keys {fs : Fields αs} {key : String} (h : key ∈ fs.keys) :
    fs.named key = true := by
  induction fs with
  | nil => cases h
  | cons field rest ih =>
    rw [named, Bool.or_eq_true]
    rcases List.mem_cons.1 h with rfl | h
    · exact .inl (by simp [Field.named])
    · exact .inr (ih h)

/-! ### Objects -/

theorem take_of_not_named {fs : Fields αs} {slots : Slots αs} {key : String} {json : Json}
    (h : fs.named key = false) : fs.take slots key json = .ok slots := by
  induction fs with
  | nil => rfl
  | cons field rest ih =>
    obtain ⟨slot, slots⟩ := slots
    obtain ⟨hfield, hrest⟩ := Bool.or_eq_false_iff.1 h
    rw [take_other hfield, ih hrest]
    rfl

theorem takeAll_nil (slots : Slots []) (members : List (String × Json)) :
    Fields.nil.takeAll slots members = .ok slots := by
  induction members with
  | nil => rfl
  | cons m members ih => exact ih

/-- The members fill the slot of the first field and those of the others apart from each other. -/
theorem takeAll_cons_eq_ok_iff {field : Field α} {rest : Fields αs} {slot slot' : Option α}
    {slots slots' : Slots αs} {members : List (String × Json)}
    (hd : ∀ key, field.named key = true → rest.named key = false) :
    (cons field rest).takeAll (slot, slots) members = .ok (slot', slots') ↔
      field.Fills slot (given field.named members) slot' ∧
        rest.takeAll slots members = .ok slots' := by
  induction members generalizing slot slots with
  | nil =>
    rw [takeAll, given_nil, Field.Fills]
    constructor
    · intro h
      cases h
      exact ⟨rfl, rfl⟩
    · rintro ⟨rfl, h⟩
      cases h
      rfl
  | cons m members ih =>
    obtain ⟨key, json⟩ := m
    by_cases hkey : field.named key = true
    · have hrest : rest.take slots key json = .ok slots := take_of_not_named (hd key hkey)
      simp only [takeAll, take, if_pos hkey, given_cons_of_named hkey, hrest]
      cases slot with
      | some a => exact iff_of_false (fun h => by cases h) fun h => Field.not_fills_some h.1
      | none =>
        cases hdecode : field.decode json with
        | error fault =>
          exact iff_of_false (fun h => by cases h) fun h => Field.not_fills_cons hdecode h.1
        | ok a => exact ih.trans (and_congr_left' (Field.fills_cons hdecode).symm)
    · have hkey : field.named key = false := Bool.eq_false_iff.2 hkey
      simp only [takeAll, take_other hkey, given_cons_of_not_named hkey]
      cases rest.take slots key json with
      | error fault => exact iff_of_false (fun h => by cases h) fun h => by cases h.2
      | ok slots₁ => exact ih

theorem finish_cons_eq_ok_iff {field : Field α} {rest : Fields αs} {slot : Option α}
    {slots : Slots αs} {a : α} {as : Values αs} :
    (cons field rest).finish (slot, slots) = .ok (a, as) ↔
      slot.or field.default? = some a ∧ rest.finish slots = .ok as := by
  rw [finish]
  cases slot.or field.default? with
  | none => exact iff_of_false (fun h => by cases h) fun h => by cases h.1
  | some b =>
    rw [Option.some.injEq]
    exact map_pair_eq_ok_iff

/-- Taking the members and filling the empty slots gives every field what it takes. -/
theorem takes_iff {fs : Fields αs} (hd : fs.Distinct) {members : List (String × Json)}
    {as : Values αs} :
    fs.Takes members as ↔
      ∃ slots, fs.takeAll (noSlots αs) members = .ok slots ∧ fs.finish slots = .ok as := by
  induction fs with
  | nil => exact iff_of_true trivial ⟨(), takeAll_nil () members, rfl⟩
  | cons field rest ih =>
    obtain ⟨a, as⟩ := as
    rw [Takes, Field.takes_iff, ih hd.2]
    constructor
    · rintro ⟨⟨slot, hfills, hslot⟩, slots, htake, hfinish⟩
      exact ⟨(slot, slots), (takeAll_cons_eq_ok_iff hd.1).2 ⟨hfills, htake⟩,
        finish_cons_eq_ok_iff.2 ⟨hslot, hfinish⟩⟩
    · rintro ⟨⟨slot, slots⟩, htake, hfinish⟩
      obtain ⟨hfills, htake⟩ := (takeAll_cons_eq_ok_iff hd.1).1 htake
      obtain ⟨hslot, hfinish⟩ := finish_cons_eq_ok_iff.1 hfinish
      exact ⟨⟨slot, hfills, hslot⟩, slots, htake, hfinish⟩

/-! ### Arrays -/

theorem takeItems_eq_ok_iff {fs : Fields αs} {record : String} {total index : Nat}
    {items : List Json} {as : Values αs} :
    fs.takeItems record total index items = .ok as ↔ fs.TakesItems items as := by
  induction fs generalizing index items with
  | nil =>
    cases items with
    | nil => exact iff_of_true rfl rfl
    | cons item items => exact iff_of_false (fun h => by cases h) (by simp [TakesItems])
  | cons field rest ih =>
    obtain ⟨a, as⟩ := as
    cases items with
    | nil =>
      have hrest : rest.takeItems record total (index + 1) [] = .ok as ↔ rest.TakesItems [] as := ih
      rw [takeItems, TakesItems, ← hrest]
      cases field.default? with
      | none => exact iff_of_false (fun h => by cases h) fun h => by cases h.1
      | some b =>
        rw [Option.some.injEq]
        exact map_pair_eq_ok_iff
    | cons item items =>
      have hrest : rest.takeItems record total (index + 1) items = .ok as ↔
        rest.TakesItems items as := ih
      rw [takeItems, TakesItems, ← hrest]
      constructor
      · intro h
        obtain ⟨b, hb, h⟩ := bind_eq_ok_iff.1 h
        obtain ⟨bs, hbs, h⟩ := bind_eq_ok_iff.1 h
        cases h
        exact ⟨hb, hbs⟩
      · rintro ⟨ha, has⟩
        exact bind_eq_ok_iff.2 ⟨a, ha, bind_eq_ok_iff.2 ⟨as, has, rfl⟩⟩

theorem takes_cons_of_not_named {fs : Fields αs} {key : String} {json : Json}
    {members : List (String × Json)} {as : Values αs} (h : fs.named key = false) :
    fs.Takes ((key, json) :: members) as ↔ fs.Takes members as := by
  induction fs with
  | nil => exact Iff.rfl
  | cons field rest ih =>
    obtain ⟨a, as⟩ := as
    obtain ⟨hfield, hrest⟩ := Bool.or_eq_false_iff.1 h
    rw [Takes, Takes, given_cons_of_not_named hfield, ih hrest]

/-- Items that are not too many give the fields the same as the object that has them under the
fields' names. -/
theorem takesItems_iff {fs : Fields αs} (hd : fs.Distinct) {items : List Json}
    (hlength : items.length ≤ fs.keys.length) {as : Values αs} :
    fs.TakesItems items as ↔ fs.Takes (fs.keys.zip items) as := by
  induction fs generalizing items with
  | nil => exact iff_of_true (List.length_eq_zero_iff.1 (Nat.le_zero.1 hlength)) trivial
  | cons field rest ih =>
    obtain ⟨a, as⟩ := as
    cases items with
    | nil =>
      rw [TakesItems, ih hd.2 (Nat.zero_le _), List.zip_nil_right, List.zip_nil_right, Takes,
        given_nil]
      exact Iff.rfl
    | cons item items =>
      have hself : field.named field.name = true := by simp [Field.named]
      have hothers : given field.named (rest.keys.zip items) = [] := given_eq_nil fun m hm => by
        have hm : rest.named m.1 = true := named_of_mem_keys (List.of_mem_zip hm).1
        cases hn : field.named m.1 with
        | false => rfl
        | true => exact absurd hm (by simp [hd.1 m.1 hn])
      rw [TakesItems, ih hd.2 (Nat.le_of_succ_le_succ hlength), keys, List.zip_cons_cons, Takes,
        given_cons_of_named hself, hothers, takes_cons_of_not_named (hd.1 _ hself)]
      exact Iff.rfl

end Fields

/-! ## Records -/

namespace Record

variable {r : Record α} {a : α}

theorem decode_object_eq_ok_iff (hd : r.fields.Distinct) {members : List (String × Json)} :
    r.decode (.object members) = .ok a ↔ ∃ as, r.fields.Takes members as ∧ r.ofValues as = a := by
  simp only [decode, Fields.takes_iff hd]
  constructor
  · intro h
    obtain ⟨slots, htake, h⟩ := exists_ok_of_bind h
    obtain ⟨as, hfinish, h⟩ := exists_ok_of_bind h
    exact ⟨as, ⟨slots, htake, hfinish⟩, Except.ok.inj h⟩
  · rintro ⟨as, ⟨slots, htake, hfinish⟩, rfl⟩
    rw [htake]
    change (do return r.ofValues (← r.fields.finish slots) : Except Fault α) = _
    rw [hfinish]
    rfl

theorem decode_array_eq_ok_iff {items : List Json} :
    r.decode (.array items) = .ok a ↔ ∃ as, r.fields.TakesItems items as ∧ r.ofValues as = a := by
  have htakes (as : Values r.types) : r.fields.takeItems r.name r.fields.length 0 items = .ok as ↔
      r.fields.TakesItems items as := Fields.takeItems_eq_ok_iff
  simp only [decode, ← htakes]
  constructor
  · exact exists_ok_of_map
  · rintro ⟨as, htake, rfl⟩
    rw [htake]
    rfl

end Record
end FeatureFlags.Json
