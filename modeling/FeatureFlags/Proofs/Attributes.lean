import FeatureFlags.Proofs.Documents
import FeatureFlags.Proofs.Schema

/-!
# Which attribute values documents stand for

A document is read by trying one variant of attribute values after the other, at every depth. What
comes of that is a classification: truth values, texts and lists keep what they hold; a number is an
integer when it is written as one and fits in 64 signed bits, and a binary64 number otherwise. Null
and objects stand for nothing, and neither does a list that has one of them in it, however deep. No
two variants take the same document but for those of integers and numbers, so only the order of
these two decides anything.

What is written decides: a zero with a sign, a fraction or an exponent is no integer, whatever its
value.

**Results.**
* `decode_eq_firstOf`, `readings_overlap`: the variants that are tried, and where two of them take
  the same.
* `decode_eq_ok_iff`: the first variant that takes a document gives what the document stands for.
* `exists_standsFor_iff`: the documents that stand for an attribute value.
* `standsFor_numeral_iff`: the attribute value of a numeral.
* `texts_are_classified`: the attribute values that texts are read as.
-/
namespace FeatureFlags

/-! ## The relation -/

namespace Json

/-- There is no null and no object in the document, at any depth. -/
def FreeOfNullAndObjects (json : Json) : Prop :=
  ∀ part, json.HasPart part → part ≠ .null ∧ ∀ members, part ≠ .object members

/-- The binary64 number nearest to the number. -/
def Number.nearest : Number → Binary64
  | .integer i => .ofInt i
  | .real x => x

theorem freeOfNullAndObjects_array {items : List Json} :
    (Json.array items).FreeOfNullAndObjects ↔ ∀ item ∈ items, item.FreeOfNullAndObjects := by
  constructor
  · exact fun h item hitem part hpart => h part (.item hitem hpart)
  · intro h part hpart
    cases hpart with
    | self => exact ⟨nofun, nofun⟩
    | item hitem hpart => exact h _ hitem part hpart

end Json

namespace AttributeValue

open Json (Codec Holds Number Numeral byParts)

/-- The attribute value that a document stands for. -/
inductive StandsFor : Json → AttributeValue → Prop where
  | bool (b : Bool) : StandsFor (.bool b) (.bool b)
  | int (i : Int64) : StandsFor (.int i.toInt) (.int i)
  | large {i : Int} (h : ∀ j : Int64, i ≠ j.toInt) : StandsFor (.int i) (.number (.ofInt i))
  | real (x : Binary64) : StandsFor (.number (.real x)) (.number x)
  | string (s : String) : StandsFor (.string s) (.string s)
  | list {items : List Json} {values : List AttributeValue}
    (h : List.Forall₂ StandsFor items values) :
    StandsFor (.array items) (.list values)

theorem exists_int64_iff {i : Int} :
    (∃ j : Int64, i = j.toInt) ↔ Int64.minValue.toInt ≤ i ∧ i ≤ Int64.maxValue.toInt := by
  constructor
  · rintro ⟨j, rfl⟩
    exact ⟨j.minValue_le_toInt, j.toInt_le⟩
  · rintro ⟨hlow, hhigh⟩
    exact ⟨Int64.ofInt i, (Int64.toInt_ofInt_of_le hlow (Int.lt_add_one_of_le hhigh)).symm⟩

/-! ## The variants -/

/-- What each variant makes of a document, in the order in which they are tried. -/
def readings (json : Json) : List (Except Json.Fault AttributeValue) :=
  [(Codec.bool.decode json).map bool, (Codec.int64.decode json).map int,
    (Codec.binary64.decode json).map number, (Codec.string.decode json).map string,
    (codec.list.decode json).map list]

theorem decodeItems_eq (items : List Json) :
    decodeItems items = Codec.decodeItems decode items := by
  induction items with
  | nil => rfl
  | cons item rest ih => rw [decodeItems, Codec.decodeItems, ih]

theorem decode_eq_firstOf (json : Json) :
    decode json = Codec.firstOf "AttributeValue" (readings json) := by
  cases json with
  | array items =>
    show Codec.firstOf "AttributeValue" [(decodeItems items).map list] =
      Codec.firstOf "AttributeValue" [(Codec.decodeItems decode items).map list]
    rw [decodeItems_eq]
  | _ => rfl

theorem int64_decode_eq_ok_iff {json : Json} {i : Int64} :
    Codec.int64.decode json = .ok i ↔ json = .int i.toInt := by
  constructor
  · intro h
    obtain ⟨j, hj, rfl⟩ := Json.map_eq_ok_iff.1 h
    unfold Codec.decodeInt at hj
    split at hj
    · split at hj
      · next hfits =>
        cases hj
        obtain ⟨i, rfl⟩ := exists_int64_iff.2 hfits
        rw [i.ofInt_toInt, Json.int]
      · cases hj
    · cases hj
  · rintro rfl
    simp only [Codec.int64]
    rw [Codec.decodeInt_int i.minValue_le_toInt i.toInt_le]
    exact congrArg Except.ok i.ofInt_toInt

/-- Of two variants that take the same document the earlier takes it for an integer and the later
for the number nearest to it. -/
theorem readings_overlap (json : Json) :
    (readings json).Pairwise fun a b => ∀ v w, a = .ok v → b = .ok w →
      ∃ i : Int64, json = .int i.toInt ∧ v = .int i ∧ w = .number (.ofInt i.toInt) := by
  have hint : ∀ k v w, (Codec.int64.decode (.int k)).map int = .ok v → .number (.ofInt k) = w →
      ∃ i : Int64, Json.int k = .int i.toInt ∧ v = int i ∧ w = number (.ofInt i.toInt) := by
    rintro k v w hv rfl
    obtain ⟨i, hi, rfl⟩ := Json.map_eq_ok_iff.1 hv
    obtain ⟨rfl⟩ := int64_decode_eq_ok_iff.1 hi
    exact ⟨i, rfl, rfl, rfl⟩
  -- every other two variants want nodes of different sorts
  cases json with
  | number n =>
    cases n with
    | real x =>
      simp [readings, Except.map, Codec.bool, Codec.int64, Codec.decodeInt, Codec.string,
        Codec.list]
    | integer k =>
      simpa [readings, Except.map, Codec.bool, Codec.binary64, Codec.string, Codec.list, Json.int]
        using hint k
  | _ =>
    simp [readings, Except.map, Codec.bool, Codec.int64, Codec.decodeInt, Codec.binary64,
      Codec.string, Codec.list]

theorem decode_int_eq_ok_iff {i : Int} {v : AttributeValue} :
    decode (.int i) = .ok v ↔ StandsFor (.int i) v := by
  rw [decode_int]
  constructor
  · intro h
    split at h
    · next hfits =>
      obtain ⟨j, rfl⟩ := exists_int64_iff.2 hfits
      cases h
      rw [j.ofInt_toInt]
      exact .int j
    · next hlarge =>
      cases h
      exact .large fun j hj => hlarge (exists_int64_iff.1 ⟨j, hj⟩)
  · intro h
    cases h with
    | int j => rw [if_pos (exists_int64_iff.1 ⟨j, rfl⟩), j.ofInt_toInt]
    | large hlarge => rw [if_neg (fun hfits => not_exists.2 hlarge (exists_int64_iff.2 hfits))]

theorem decodeItems_eq_ok_iff {items : List Json} {values : List AttributeValue}
    (h : ∀ item ∈ items, ∀ {v}, decode item = .ok v ↔ StandsFor item v) :
    decodeItems items = .ok values ↔ List.Forall₂ StandsFor items values := by
  induction items generalizing values with
  | nil => simp [decodeItems, eq_comm]
  | cons item items ih =>
    obtain ⟨hitem, hitems⟩ := List.forall_mem_cons.1 h
    simp only [decodeItems_cons_eq_ok_iff, List.forall₂_cons_left_iff, hitem, ih hitems,
      exists_and_left, @eq_comm _ values]

/-- The first variant that takes a document gives what the document stands for. -/
theorem decode_eq_ok_iff {json : Json} {v : AttributeValue} :
    decode json = .ok v ↔ StandsFor json v := by
  induction json using byParts generalizing v with
  | leaf json harray _ =>
    cases json with
    | array items => exact absurd rfl (harray items)
    | number n =>
      cases n with
      | integer i => exact decode_int_eq_ok_iff
      | real x => exact ⟨fun h => by cases h; exact .real x, fun h => by cases h; rfl⟩
    | bool b => exact ⟨fun h => by cases h; exact .bool b, fun h => by cases h; rfl⟩
    | string s => exact ⟨fun h => by cases h; exact .string s, fun h => by cases h; rfl⟩
    | _ => exact iff_of_false (fun h => by cases h) fun h => by cases h
  | array items ih =>
    rw [decode_array_eq_ok_iff]
    simp only [decodeItems_eq_ok_iff fun item hitem => ih item hitem]
    constructor
    · rintro ⟨values, h, rfl⟩
      exact .list h
    · intro h
      cases h with
      | list h => exact ⟨_, h, rfl⟩
  | object => exact iff_of_false (fun h => by cases h) fun h => by cases h

/-! ## Which documents stand for a value -/

theorem exists_standsFor_number (n : Number) : ∃ v, StandsFor (.number n) v := by
  cases n with
  | real x => exact ⟨_, .real x⟩
  | integer i =>
    by_cases hfits : ∃ j : Int64, i = j.toInt
    · obtain ⟨j, rfl⟩ := hfits
      exact ⟨_, .int j⟩
    · exact ⟨_, .large (not_exists.1 hfits)⟩

/-- A readable document stands for a value unless there is a null or an object in it. -/
theorem exists_standsFor_iff {json : Json} (h : json.readable = true) :
    (∃ v, StandsFor json v) ↔ json.FreeOfNullAndObjects := by
  induction json using byParts with
  | leaf json harray hobject =>
    have hfree : json ≠ .null → json.FreeOfNullAndObjects := by
      intro hnull part hpart
      cases hpart with
      | self => exact ⟨hnull, hobject⟩
      | item => exact absurd rfl (harray _)
      | member => exact absurd rfl (hobject _)
    cases json with
    | array items => exact absurd rfl (harray items)
    | object members => exact absurd rfl (hobject members)
    | unreadable => cases h
    | null => exact iff_of_false nofun fun h => (h _ (.self _)).1 rfl
    | bool b => exact iff_of_true ⟨_, .bool b⟩ (hfree nofun)
    | number n => exact iff_of_true (exists_standsFor_number n) (hfree nofun)
    | string s => exact iff_of_true ⟨_, .string s⟩ (hfree nofun)
  | array items ih =>
    have hitems : (∀ item ∈ items, ∃ v, StandsFor item v) ↔
      ∀ item ∈ items, item.FreeOfNullAndObjects :=
      forall₂_congr fun item hitem => ih item hitem (Json.readableItems_iff.1 h item hitem)
    rw [Json.freeOfNullAndObjects_array, ← hitems, ← Json.Schema.forall₂_exists_iff]
    constructor
    · rintro ⟨_, _ | _ | _ | _ | _ | hvalues⟩
      exact ⟨_, hvalues⟩
    · rintro ⟨_, hvalues⟩
      exact ⟨_, .list hvalues⟩
  | object members => exact iff_of_false nofun fun h => (h _ (.self _)).2 members rfl

theorem StandsFor.readable {json : Json} {v : AttributeValue} (h : StandsFor json v) :
    json.readable = true := by
  induction json using byParts generalizing v with
  | leaf json harray _ =>
    cases json with
    | unreadable => cases h
    | array items => exact absurd rfl (harray items)
    | object => cases h
    | _ => rfl
  | array items ih =>
    cases h with
    | list hvalues =>
      refine Json.readableItems_iff.2 fun item hitem => ?_
      obtain ⟨v, hv⟩ := Json.Schema.forall₂_exists_iff.1 ⟨_, hvalues⟩ item hitem
      exact ih item hitem hv
  | object => cases h

/-! ## Numerals -/

/-- A numeral stands for the integer that it is written as, if that fits, and for a binary64 number
otherwise. -/
theorem standsFor_numeral_iff {n : Numeral} {number : Number} (h : n.value? = some number)
    {v : AttributeValue} :
    StandsFor (.number number) v ↔
      (∃ i : Int64, n.Names i.toInt ∧ v = .int i) ∨
        (∀ i : Int64, ¬n.Names i.toInt) ∧ v = .number number.nearest := by
  have hnames : ∀ i : Int64, n.Names i.toInt ↔ number = .integer i.toInt := by
    intro i
    constructor
    · intro hn
      have hvalue := Json.value?_eq_integer_iff.2 ⟨hn, Json.exact_int64 i⟩
      exact Option.some.inj (h.symm.trans hvalue)
    · rintro rfl
      exact (Json.value?_eq_integer_iff.1 h).1
  simp only [hnames]
  constructor
  · intro hv
    cases hv with
    | int i => exact .inl ⟨i, rfl, rfl⟩
    | large hlarge => exact .inr ⟨fun i hi => hlarge i (Number.integer.inj hi), rfl⟩
    | real x => exact .inr ⟨nofun, rfl⟩
  · rintro (⟨i, rfl, rfl⟩ | ⟨hother, rfl⟩)
    · exact .int i
    · cases number with
      | integer i => exact .large fun j hj => hother j (congrArg Number.integer hj)
      | real x => exact .real x

/-! ## Texts -/

/-- A text is read as the value that the document in it stands for. -/
theorem readDocument_eq_ok_iff {text : String} {v : AttributeValue} :
    readDocument codec.decode text = .ok v ↔ ∃ json, Holds text json ∧ StandsFor json v := by
  rw [FeatureFlags.readDocument_eq_ok_iff]
  simp only [codec, decode_eq_ok_iff, ← Json.ofText?_eq_some_iff]
  exact ⟨fun ⟨json, htext, hv⟩ => ⟨json, ⟨htext, hv.readable⟩, hv⟩,
    fun ⟨json, ⟨htext, _⟩, hv⟩ => ⟨json, htext, hv⟩⟩

/-- **Attribute values.** Of the variants that are tried the first that takes a document reads it as
the one value that it stands for. Two of them take the same document only where it is an integer,
which the earlier keeps and the later would make a number of. What a text holds is read unless there
is a null or an object in it. The numerals that are read as integers are those of integers of 64
signed bits other than a zero with a sign, and each as this very integer; all others are read as
binary64 numbers. -/
theorem texts_are_classified (text : String) :
    (∀ json, codec.decode json = Codec.firstOf "AttributeValue" (readings json)) ∧
    (∀ json, (readings json).Pairwise fun a b => ∀ v w, a = .ok v → b = .ok w →
      ∃ i : Int64, json = .int i.toInt ∧ v = .int i ∧ w = .number (.ofInt i.toInt)) ∧
    (∀ json v, codec.decode json = .ok v ↔ StandsFor json v) ∧
    (∀ v, readDocument codec.decode text = .ok v ↔ ∃ json, Holds text json ∧ StandsFor json v) ∧
    (∀ json, Holds text json →
      ((∃ v, readDocument codec.decode text = .ok v) ↔ json.FreeOfNullAndObjects)) ∧
    ∀ (n : Numeral) (number : Number), n.value? = some number → ∀ v,
      (StandsFor (.number number) v ↔
        (∃ i : Int64, n.Names i.toInt ∧ v = .int i) ∨
          (∀ i : Int64, ¬n.Names i.toInt) ∧ v = .number number.nearest) := by
  refine ⟨decode_eq_firstOf, readings_overlap, fun _ _ => decode_eq_ok_iff,
    fun _ => readDocument_eq_ok_iff, fun json hjson => ?_, fun _ _ h _ => standsFor_numeral_iff h⟩
  rw [← exists_standsFor_iff (Json.ofText?_eq_some_iff.2 hjson).2]
  constructor
  · rintro ⟨v, hv⟩
    obtain ⟨json', hjson', hv⟩ := readDocument_eq_ok_iff.1 hv
    exact ⟨v, hjson.unique hjson' ▸ hv⟩
  · rintro ⟨v, hv⟩
    exact ⟨v, readDocument_eq_ok_iff.2 ⟨json, hjson, hv⟩⟩

def signedZero : Numeral := ⟨true, ['0'], [], none⟩

/-- A tide table whose one entry is a zero with a sign. -/
def slackWater : Json := .array [.number (.real (.zero true))]

theorem slackWater_held : Holds "[-0]" slackWater := by
  have hwritten : signedZero.Written ['-', '0'] :=
    .mk (f := []) (e := []) ⟨⟨nofun, List.forall_mem_singleton.2 rfl⟩, by simp⟩ .absent .absent
  have hclose : Json.Lexed [.closeArray] [']'] := .token .closeArray nofun .done
  have hends : Numeral.Ends [']'] := Json.ends_cons (by decide) []
  exact ⟨.token .openArray nofun (.token (.number hwritten rfl) (fun _ _ => hends) hclose),
    by decide⟩

theorem slackWater_is_classified :
    Holds "[-0]" slackWater ∧ signedZero.value? = some (.real (.zero true)) ∧
      (∃ v, readDocument codec.decode "[-0]" = .ok v) ∧
        ∀ i, ¬StandsFor (.number (.real (.zero true))) (.int i) := by
  obtain ⟨-, -, -, -, hread, hnumeral⟩ := texts_are_classified "[-0]"
  have hfree : slackWater.FreeOfNullAndObjects :=
    (exists_standsFor_iff rfl).1 ⟨_, .list (.cons (.real (.zero true)) .nil)⟩
  have hsigned : ∀ i : Int64, ¬signedZero.Names i.toInt := fun i h => h.signed rfl h.value
  refine ⟨slackWater_held, rfl, (hread slackWater slackWater_held).2 hfree, fun i hi => ?_⟩
  rcases (hnumeral signedZero (.real (.zero true)) rfl (.int i)).1 hi with ⟨j, hj, -⟩ | ⟨-, h⟩
  · exact hsigned j hj
  · cases h

end AttributeValue
end FeatureFlags
