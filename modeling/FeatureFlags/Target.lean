import FeatureFlags.Attribute
import FeatureFlags.Table
import FeatureFlags.Text.Ascii

/-!
# Targets

A target is what a flag is evaluated for. Three attribute names stand for its own fields, in any
ASCII letter case, and hide custom attributes with such names; other names match exactly.

Mirrors the engine's `Target` with its `attribute` and `attribute_text`.

**Results.**
* `attribute?_custom`: a name that is not built in finds the custom attribute.
-/
namespace FeatureFlags

/-- The entity that a flag is evaluated for. -/
structure Target where
  identifier : String
  name : String
  /-- Nothing when it is not known whether the target is anonymous. -/
  anonymous : Option Bool
  attributes : Table AttributeValue
  deriving Inhabited

namespace Target

/-- The attribute names that stand for fields of the target. -/
inductive BuiltIn where
  | identifier
  | name
  | anonymous
  deriving DecidableEq, Repr

/-- The field that an attribute name stands for. -/
def builtIn? (attr : String) : Option BuiltIn :=
  if Text.equalIgnoringAsciiCase attr "identifier" then some .identifier
  else if Text.equalIgnoringAsciiCase attr "name" then some .name
  else if Text.equalIgnoringAsciiCase attr "anonymous" then some .anonymous
  else none

/-- The value of an attribute, if the target carries it. -/
def attribute? (t : Target) (attr : String) : Option AttributeValue :=
  match builtIn? attr with
  | some .identifier => some (.string t.identifier)
  | some .name => some (.string t.name)
  | some .anonymous => t.anonymous.map .bool
  | none => t.attributes.get? attr

/-- The text of an attribute, if the target carries it. -/
def attributeText? (t : Target) (attr : String) : Option String :=
  (t.attribute? attr).map AttributeValue.toText

theorem attribute?_custom {t : Target} {a : String} (h : builtIn? a = none) :
    t.attribute? a = t.attributes.get? a := by
  rw [attribute?, h]

/-! ## Building targets -/

/-- The target with this identifier, which is also its name. -/
def new (identifier : String) : Target := ⟨identifier, identifier, none, .empty⟩

def withName (t : Target) (name : String) : Target := { t with name }

def withAnonymous (t : Target) (anonymous : Bool) : Target := { t with anonymous := some anonymous }

def withAttribute (t : Target) (key : String) (value : AttributeValue) : Target :=
  { t with attributes := t.attributes.insert key value }

end Target
end FeatureFlags
