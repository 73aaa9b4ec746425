import FeatureFlags.Json.Fault

/-!
# Codecs

A `Codec α` reads values of a type from documents and writes them as documents. It is lawful when
what it writes reads back.

**Results.**
* `decodeItems_map`: a lawful codec makes the codec of lists lawful.
-/
namespace FeatureFlags.Json

/-- Reading and writing the values of a type. -/
structure Codec (α : Type) where
  decode : Json → Except Fault α
  encode : α → Json

namespace Codec

/-- What is written reads back. -/
def Lawful (c : Codec α) : Prop := ∀ a, c.decode (c.encode a) = .ok a

def string : Codec String where
  decode
    | .string s => .ok s
    | json => .error (mismatch "a string" json)
  encode := .string

def bool : Codec Bool where
  decode
    | .bool b => .ok b
    | json => .error (mismatch "a boolean" json)
  encode := .bool

/-- An integer from `low` to `high`. -/
def decodeInt (expected : String) (low high : Int) : Json → Except Fault Int
  | .number (.integer i) => if low ≤ i ∧ i ≤ high then .ok i else .error (.outOfRange i expected)
  | json => .error (mismatch expected json)

def int32 : Codec Int32 where
  decode json := (decodeInt "i32" Int32.minValue.toInt Int32.maxValue.toInt json).map Int32.ofInt
  encode i := .int i.toInt

def uint32 : Codec UInt32 where
  decode json := (decodeInt "u32" 0 (UInt32.size - 1) json).map fun i => UInt32.ofNat i.toNat
  encode n := .int n.toNat

def int64 : Codec Int64 where
  decode json := (decodeInt "i64" Int64.minValue.toInt Int64.maxValue.toInt json).map Int64.ofInt
  encode i := .int i.toInt

/-- A binary64 number; an integer is read as the number nearest to it. -/
def binary64 : Codec Binary64 where
  decode
    | .number (.integer i) => .ok (.ofInt i)
    | .number (.real x) => .ok x
    | json => .error (mismatch "f64" json)
  encode x := .number (.real x)

/-- Decodes items from the left up to the first fault. -/
def decodeItems (decode : Json → Except Fault α) : List Json → Except Fault (List α)
  | [] => .ok []
  | item :: rest => do
    let a ← decode item
    let as ← decodeItems decode rest
    return a :: as

def list (c : Codec α) : Codec (List α) where
  decode
    | .array items => decodeItems c.decode items
    | json => .error (mismatch "a sequence" json)
  encode as := .array (as.map c.encode)

/-- The first of the readings that succeeds; what was wrong with those before it is forgotten. -/
def firstOf (name : String) : List (Except Fault α) → Except Fault α
  | [] => .error (.noAlternative name)
  | .ok a :: _ => .ok a
  | .error _ :: rest => firstOf name rest

theorem string_lawful : string.Lawful := fun _ => rfl

theorem bool_lawful : bool.Lawful := fun _ => rfl

theorem decodeInt_int {expected : String} {low high i : Int} (hlo : low ≤ i) (hhi : i ≤ high) :
    decodeInt expected low high (.int i) = .ok i :=
  if_pos ⟨hlo, hhi⟩

theorem int32_lawful : int32.Lawful := by
  intro i
  simp only [int32]
  rw [decodeInt_int i.minValue_le_toInt i.toInt_le]
  exact congrArg Except.ok i.ofInt_toInt

theorem uint32_lawful : uint32.Lawful := by
  intro n
  have hhi : (n.toNat : Int) ≤ UInt32.size - 1 :=
    Int.le_sub_one_of_lt (Int.ofNat_lt.2 n.toNat_lt_size)
  simp only [uint32]
  rw [decodeInt_int (Int.natCast_nonneg _) hhi]
  simp [Except.map]

theorem decodeItems_map {c : Codec α} (h : c.Lawful) (as : List α) :
    decodeItems c.decode (as.map c.encode) = .ok as := by
  induction as with
  | nil => rfl
  | cons a as ih =>
    rw [List.map_cons, decodeItems, h a, ih]
    rfl

theorem list_lawful {c : Codec α} (h : c.Lawful) : c.list.Lawful := decodeItems_map h

end Codec

/-! ## Names -/

/-- The values of an enumeration by name; `other` stands for every name that is not listed. -/
structure Names (α : Type) where
  known : List (String × α)
  other : Option α

namespace Names

/-- The value with this name. -/
def find (n : Names α) (name : String) : Except Fault α :=
  match (n.known.lookup name).or n.other with
  | some a => .ok a
  | none => .error (.unknownVariant name (n.known.map Prod.fst))

/-- Reads a name: a string, or an object whose only member has the name as key and null as value. -/
def decode (n : Names α) : Json → Except Fault α
  | .string s => n.find s
  | .object ((key, value) :: rest) => do
    let a ← n.find key
    match value, rest with
    | .null, [] => return a
    | .null, _ => throw .noName
    | json, _ => throw (mismatch "unit" json)
  | .unreadable => .error .malformed
  | _ => .error .noName

def codec (n : Names α) (write : α → String) : Codec α where
  decode := n.decode
  encode a := .string (write a)

theorem codec_lawful {n : Names α} {write : α → String} (h : ∀ a, n.find (write a) = .ok a) :
    (n.codec write).Lawful := h

end Names
end FeatureFlags.Json
