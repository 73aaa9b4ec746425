import FeatureFlags.Pattern.Parser
import FeatureFlags.Pattern.Size

/-!
# Patterns as texts

A text is a pattern when it is well-formed, has a meaning, and is not too big. The operator `match`
reads its first value as such a pattern.
-/
namespace FeatureFlags.Pattern

/-- The regular expression that a text is. -/
def compile? (pattern : String) : Option Regex :=
  match (parse? pattern).bind (Ast.meaning? .initial) with
  | some (r, _) => if r.size ≤ sizeLimit then some r else none
  | none => none

/-- Whether the text is matched somewhere by the pattern; what is no pattern matches nothing. -/
def matchesIn (pattern text : String) : Bool :=
  match compile? pattern with
  | some r => r.matchesIn text
  | none => false

end FeatureFlags.Pattern
