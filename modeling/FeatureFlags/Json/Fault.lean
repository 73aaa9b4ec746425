import FeatureFlags.Json.Basic
import FeatureFlags.Number.Shortest
import FeatureFlags.Text.Quoted

/-!
# Why a document is refused

A `Fault` names the first thing that is wrong with a document; `Fault.message` is its wording.
-/
namespace FeatureFlags.Json

/-- What was found where something else was expected. -/
inductive Found where
  | null
  | bool (value : Bool)
  | integer (value : Int)
  | real (value : Binary64)
  | string (value : String)
  | sequence
  | map
  deriving DecidableEq, Repr

def Found.describe : Found → String
  | .null => "null"
  | .bool b => "boolean `" ++ toString b ++ "`"
  | .integer i => "integer `" ++ i.repr ++ "`"
  | .real x => "floating point `" ++ x.toPointedText ++ "`"
  | .string s => "string " ++ Text.quoted s
  | .sequence => "sequence"
  | .map => "map"

/-- Why a document does not hold a value of the expected type. -/
inductive Fault where
  /-- The text is no JSON, or holds a part that stands for no value. -/
  | malformed
  | wrongType (found : Found) (expected : String)
  | outOfRange (value : Int) (expected : String)
  | missingField (name : String)
  | duplicateField (name : String)
  | unknownVariant (name : String) (known : List String)
  /-- A record written as an array ends before its field number `length`. -/
  | tooShort (length : Nat) (record : String) (fields : Nat)
  | tooLong
  /-- A name of a list of alternatives was expected. -/
  | noName
  /-- The document fits none of the alternatives of the type. -/
  | noAlternative (type : String)
  deriving DecidableEq, Repr

/-- The known names, as an error lists them. -/
def expectedNames : List String → String
  | [] => "there are no variants"
  | [a] => "expected `" ++ a ++ "`"
  | [a, b] => "expected `" ++ a ++ "` or `" ++ b ++ "`"
  | names => "expected one of " ++ String.intercalate ", " (names.map fun n => "`" ++ n ++ "`")

def Fault.message : Fault → String
  | .malformed => "malformed document"
  | .wrongType found expected => "invalid type: " ++ found.describe ++ ", expected " ++ expected
  | .outOfRange value expected =>
    "invalid value: integer `" ++ value.repr ++ "`, expected " ++ expected
  | .missingField name => "missing field `" ++ name ++ "`"
  | .duplicateField name => "duplicate field `" ++ name ++ "`"
  | .unknownVariant name known => "unknown variant `" ++ name ++ "`, " ++ expectedNames known
  | .tooShort length record fields =>
    "invalid length " ++ toString length ++ ", expected struct " ++ record ++ " with " ++
      toString fields ++ (if fields = 1 then " element" else " elements")
  | .tooLong => "trailing characters"
  | .noName => "expected value"
  | .noAlternative type => "data did not match any variant of untagged enum " ++ type

/-- The fault of finding this document where `expected` should be. -/
def mismatch (expected : String) : Json → Fault
  | .null => .wrongType .null expected
  | .bool b => .wrongType (.bool b) expected
  | .number (.integer i) => .wrongType (.integer i) expected
  | .number (.real x) => .wrongType (.real x) expected
  | .string s => .wrongType (.string s) expected
  | .array _ => .wrongType .sequence expected
  | .object _ => .wrongType .map expected
  | .unreadable => .malformed

end FeatureFlags.Json
