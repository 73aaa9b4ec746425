import FeatureFlags.Evaluation
import FeatureFlags.Json.Reader
import FeatureFlags.Text.Ascii

/-!
# Typed values

An accessor evaluates a flag of its kind and decodes the value that is served. It never fails: every
error is absorbed by a default that the caller gives, and may be logged.

Mirrors the engine's `bool_variation`, `string_variation`, `int_variation`, `number_variation` and
`json_variation`, with `decode` and `absorb`.
-/
namespace FeatureFlags

/-- The values of one type: the flag kind they are kept under, and how they are read. -/
structure Accessor (α : Type) where
  /-- What records call a flag that is read this way. -/
  name : String
  kind : Flag.Kind
  decode : String → Except DecodeFault α

namespace Accessor

/-- A value is true when it is `true` in any ASCII letter case. -/
def bool : Accessor Bool where
  name := "boolean"
  kind := .boolean
  decode text := .ok (Text.equalIgnoringAsciiCase text "true")

def string : Accessor String where
  name := "string"
  kind := .string
  decode := .ok

def int : Accessor Int64 where
  name := "int"
  kind := .int
  decode text := (Integer.read text).mapError .integer

def number : Accessor Binary64 where
  name := "number"
  kind := .int
  decode text := (Binary64.read text).mapError .number

/-- Reads a text as a JSON object with one member for each key. -/
def readObject (text : String) : Except Json.Fault (List (String × Json)) :=
  match Json.ofText? text with
  | none => .error .malformed
  | some json =>
    match json.readable, json.lastWins with
    | true, .object members => .ok members
    | true, json => .error (Json.mismatch "a map" json)
    | false, _ => .error .malformed

def json : Accessor (List (String × Json)) where
  name := "json"
  kind := .json
  decode text := (readObject text).mapError .json

end Accessor

namespace Evaluator

/-- The decoded value that a flag serves a target. -/
def decoded (e : Evaluator) (a : Accessor α) (flag : String) (target : Target) :
    Traced (Except EvaluationError α) := do
  return match ← e.evaluate flag target a.kind with
    | .error cause => .error cause
    | .ok variation => (a.decode variation.value).mapError (.decode flag)

/-- The record of an error that a default stands in for, if such errors are logged. -/
def absorbed? (c : Config) (a : Accessor α) (flag : String) (cause : EvaluationError) :
    Option Log.Record :=
  if c.logAbsorbedErrors then
    some (.plain .error logTarget
      ("Error while evaluating " ++ a.name ++ " flag '" ++ flag ++ "', err: " ++ cause.message))
  else none

/-- The decoded value that a flag serves a target, and the default when there is none. -/
def read (e : Evaluator) (a : Accessor α) (flag : String) (target : Target) (default : α) :
    Traced α := do
  match ← e.decoded a flag target with
  | .ok value => return value
  | .error cause =>
    e.announce? (absorbed? e.config a flag cause)
    return default

end Evaluator
end FeatureFlags
