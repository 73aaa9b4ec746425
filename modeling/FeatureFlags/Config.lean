import FeatureFlags.Text.Ascii
import FeatureFlags.Text.Blank
import FeatureFlags.Text.Quoted

/-!
# Evaluator configuration

Two settings, with defaults that environment variables may change.

Mirrors the engine's `EvaluatorConfig` with its `from_env`.
-/
namespace FeatureFlags

/-- What an evaluator may be told to do otherwise. -/
structure Config where
  /-- The attribute that is bucketed on when the target lacks the one of the distribution. -/
  bucketFallback : String
  /-- Whether a typed accessor that falls back to its default writes an error record. -/
  logAbsorbedErrors : Bool
  deriving DecidableEq, Repr

/-- The values of environment variables. -/
abbrev Environment := String → Option String

/-- Whether a variable's text says yes: `1`, or `true` in any ASCII letter case. -/
def saysYes (text : String) : Bool := text == "1" || Text.equalIgnoringAsciiCase text "true"

namespace Config

def default : Config := ⟨"identifier", true⟩

instance : Inhabited Config := ⟨default⟩

/-- The defaults, as the environment changes them. -/
def ofEnvironment (env : Environment) : Config where
  bucketFallback :=
    match (env "PENNANT_BUCKET_FALLBACK").map Text.trim with
    | some attr => if attr.isEmpty then default.bucketFallback else attr
    | none => default.bucketFallback
  logAbsorbedErrors :=
    match env "PENNANT_LOG_ABSORBED_ERRORS" with
    | some text => saysYes text
    | none => default.logAbsorbedErrors

/-- The settings by name, for a reader's eye. -/
def describe (c : Config) : String :=
  "EvaluatorConfig \x7b bucket_fallback_attribute: " ++ Text.quoted c.bucketFallback ++
    ", log_absorbed_errors: " ++ toString c.logAbsorbedErrors ++ " \x7d"

end Config
end FeatureFlags
