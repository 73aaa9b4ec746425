import FeatureFlags.Number.Binary64

/-!
# JSON documents

A document is a tree whose objects keep every member in order, repeated keys included.

A text may be well-formed JSON and yet hold a part that stands for no value: a number beyond the
binary64 range, a string with an unpaired surrogate, arrays and objects nested 128 deep. Such a part
becomes `unreadable`, so that it spoils only what looks at it.
-/
namespace FeatureFlags

/-- How deep arrays and objects may be nested in a readable document. -/
def Json.maxDepth : Nat := 127

/-- A JSON number: an integer between -2^63 and 2^64 - 1, or a binary64 number. -/
inductive Json.Number where
  | integer (value : Int)
  | real (value : Binary64)
  deriving DecidableEq, Repr

/-- A JSON document. -/
inductive Json where
  | null
  | bool (value : Bool)
  | number (value : Json.Number)
  | string (value : String)
  | array (items : List Json)
  | object (members : List (String × Json))
  | unreadable
  deriving BEq, Repr, Inhabited

namespace Json

def int (i : Int) : Json := .number (.integer i)

mutual

/-- Whether every part of the document stands for a value. -/
def readable : Json → Bool
  | array items => readableItems items
  | object members => readableMembers members
  | unreadable => false
  | _ => true

def readableItems : List Json → Bool
  | [] => true
  | item :: rest => item.readable && readableItems rest

def readableMembers : List (String × Json) → Bool
  | [] => true
  | (_, value) :: rest => value.readable && readableMembers rest

end

/-- Sets a member: the value of a key that is there already is replaced where it stands. -/
def setMember (key : String) (value : Json) : List (String × Json) → List (String × Json)
  | [] => [(key, value)]
  | m :: rest => if m.1 = key then (key, value) :: rest else m :: setMember key value rest

mutual

/-- The document with one member for each key of an object, the last value given winning. -/
def lastWins : Json → Json
  | array items => array (lastWinsItems items)
  | object members => object (lastWinsMembers [] members)
  | json => json

def lastWinsItems : List Json → List Json
  | [] => []
  | item :: rest => item.lastWins :: lastWinsItems rest

/-- Members after those already `kept`. -/
def lastWinsMembers (kept : List (String × Json)) : List (String × Json) → List (String × Json)
  | [] => kept
  | (key, value) :: rest => lastWinsMembers (setMember key value.lastWins kept) rest

end

end Json
end FeatureFlags
