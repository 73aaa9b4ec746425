import FeatureFlags.Json.Token

/-!
# Reading JSON

A document is put together from its tokens by a machine with a stack of the arrays and objects that
are still open. It alternates between two states: a value is expected, or a value is complete.
-/
namespace FeatureFlags.Json

/-- An array or object that is still open, with what it holds so far in reverse order. -/
inductive Frame where
  | array (items : List Json)
  /-- Here `key` belongs to the value that is being read. -/
  | object (members : List (Option String × Json)) (key : Option String)

/-- A container that is closed inside `outer` open ones: nothing when it is nested too deep. -/
def closed (outer : List Frame) (container : Json) : Json :=
  if outer.length < maxDepth then container else unreadable

/-- The array of items in reverse order. -/
def ofItems (items : List Json) : Json := array items.reverse

/-- The object of members in reverse order; nothing when a key has no value. -/
def ofMembers (members : List (Option String × Json)) : Json :=
  match members.reverse.mapM fun m => m.1.map fun key => (key, m.2) with
  | some ms => object ms
  | none => unreadable

def ofString (value : Option String) : Json := (value.map string).getD unreadable

mutual

/-- Reads on where a value is expected. -/
def expectValue (open' : List Frame) : List Token → Option Json
  | .atom value :: ts => afterValue value open' ts
  | .string value :: ts => afterValue (ofString value) open' ts
  | .openArray :: .closeArray :: ts => afterValue (closed open' (array [])) open' ts
  | .openArray :: ts => expectValue (.array [] :: open') ts
  | .openObject :: .closeObject :: ts => afterValue (closed open' (object [])) open' ts
  | .openObject :: .string key :: .colon :: ts => expectValue (.object [] key :: open') ts
  | _ => none

/-- Reads on where `value` is complete. -/
def afterValue (value : Json) (open' : List Frame) : List Token → Option Json
  | [] => if open'.isEmpty then some value else none
  | .comma :: .string key :: .colon :: ts =>
    match open' with
    | .object members key₀ :: outer =>
      expectValue (.object ((key₀, value) :: members) key :: outer) ts
    | _ => none
  | .comma :: ts =>
    match open' with
    | .array items :: outer => expectValue (.array (value :: items) :: outer) ts
    | _ => none
  | .closeArray :: ts =>
    match open' with
    | .array items :: outer => afterValue (closed outer (ofItems (value :: items))) outer ts
    | _ => none
  | .closeObject :: ts =>
    match open' with
    | .object members key :: outer =>
      afterValue (closed outer (ofMembers ((key, value) :: members))) outer ts
    | _ => none
  | _ => none

end

/-- The document that a text holds. -/
def ofText? (text : String) : Option Json := tokens text.toList >>= expectValue []

end FeatureFlags.Json
