import FeatureFlags.Pattern.Ast
import FeatureFlags.Unicode.Age
import FeatureFlags.Unicode.Break
import FeatureFlags.Unicode.Category
import FeatureFlags.Unicode.Property
import FeatureFlags.Unicode.Script

/-!
# Classes by property

The name of a property is compared without regard to letter case, blanks, hyphens, underscores and
an `is` in front. A plain name is that of a yes-or-no property, a general category or a script, in
this order.
-/
namespace FeatureFlags.Pattern

open Unicode

/-- The form in which names of properties and of their values are compared. -/
def plainName (name : String) : String :=
  let cs := name.toList
  let (isPrefixed, body) : Bool × List Char := match cs with
    | a :: b :: rest => if a.toLower = 'i' ∧ b.toLower = 's' then (true, rest) else (false, cs)
    | _ => (false, cs)
  let plain := (body.filter fun c => c.toNat < 128 && c != ' ' && c != '_' && c != '-').map
    Char.toLower
  if isPrefixed ∧ plain = ['c'] then "isc" else String.ofList plain

/-- The code points of a general category, or of one of three sets named like one. -/
def generalCategory? (name : String) : Option CodeSet :=
  match name with
  | "any" => some (.range 0 maxCodePoint)
  | "assigned" => some assigned
  | "ascii" => some (.range 0 0x7f)
  | name => category? name

/-- The code points that a property names. -/
def PropertyName.set? : PropertyName → Option CodeSet
  | .plain name =>
    let name := plainName name
    (property? name).or ((generalCategory? name).or (scriptSet? name))
  | .valued name value =>
    match plainName name with
    | "gc" | "generalcategory" => generalCategory? (plainName value)
    | "sc" | "script" => scriptSet? (plainName value)
    | "scx" | "scriptextensions" => scriptUse? (plainName value)
    | "age" => age? (plainName value)
    | "gcb" | "graphemeclusterbreak" => breakSet? graphemeBreakTable (plainName value)
    | "wb" | "wordbreak" => breakSet? wordBreakTable (plainName value)
    | "sb" | "sentencebreak" => breakSet? sentenceBreakTable (plainName value)
    | _ => none

end FeatureFlags.Pattern
