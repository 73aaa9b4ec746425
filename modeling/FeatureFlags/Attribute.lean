import FeatureFlags.Number.Shortest

/-!
# Attribute values

The value of an attribute of a target is a truth value, an integer, a number, a text or a list of
values. Clauses and bucketing see only its text.

Mirrors the engine's `AttributeValue` with its `to_text`.
-/
namespace FeatureFlags

/-- The value of a custom attribute. -/
inductive AttributeValue where
  | bool (value : Bool)
  | int (value : Int64)
  | number (value : Binary64)
  | string (value : String)
  | list (items : List AttributeValue)
  deriving Repr, Inhabited

namespace AttributeValue

mutual

/-- The text of a value; the texts of a list's items are joined with commas. -/
def toText : AttributeValue → String
  | bool true => "true"
  | bool false => "false"
  | int i => i.toInt.repr
  | number x => x.toText
  | string s => s
  | list items => String.intercalate "," (itemTexts items)

def itemTexts : List AttributeValue → List String
  | [] => []
  | item :: rest => item.toText :: itemTexts rest

end

/-- The name of the kind of value. -/
def kindName : AttributeValue → String
  | bool _ => "bool"
  | int _ => "int"
  | number _ => "number"
  | string _ => "string"
  | list _ => "list"

end AttributeValue
end FeatureFlags
