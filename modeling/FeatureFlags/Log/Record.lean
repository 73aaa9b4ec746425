import FeatureFlags.Json.Writer
import FeatureFlags.Log.Level
import FeatureFlags.Table

/-!
# Log records

A record has a level, a target, a message and fields. It is written as one JSON object, as one line
of text, or handed on with its fields at the end of the message.

Mirrors the log's `log_json`, `log_compact` and `log_facade`.
-/
namespace FeatureFlags.Log

/-- One record of the log. -/
structure Record where
  level : Level
  target : String
  message : String
  fields : List (String × String)
  deriving DecidableEq, Repr, Inhabited

namespace Record

/-- A record without fields. -/
def plain (level : Level) (target message : String) : Record := ⟨level, target, message, []⟩

/-- The fields as `key=value`, with blanks between them. -/
def fieldsText (r : Record) : String :=
  String.intercalate " " (r.fields.map fun f => f.1 ++ "=" ++ f.2)

/-- The message with the fields at its end. -/
def fullMessage (r : Record) : String :=
  if r.fields.isEmpty then r.message else r.message ++ " " ++ r.fieldsText

/-- The level's name, filled up to five characters. -/
def paddedLevel (level : Level) : String :=
  level.name ++ String.ofList (List.replicate (5 - level.name.length) ' ')

/-- What stands before a line for the time of day, when times are written. -/
def stampText : Option String → String
  | some time => time ++ " "
  | none => ""

/-- What stands before the message for the target; nothing for the empty one. -/
def targetText (r : Record) : String := if r.target.isEmpty then "" else r.target ++ ": "

/-- The line for a reader's eye; `stamp` is the time of day, when times are written. -/
def compactLine (stamp : Option String) (r : Record) : String :=
  stampText stamp ++ paddedLevel r.level ++ " " ++ r.targetText ++ r.fullMessage

/-- The fields by key in rising order, the last value of a repeated key staying. -/
def sortedFields (r : Record) : List (String × String) :=
  (Table.ofList r.fields).entries.mergeSort fun a b => a.1 ≤ b.1

/-- The members of the JSON object of a record; `stamp` is the time, when times are written. -/
def members (stamp : Option String) (r : Record) : List (String × Json) :=
  (stamp.toList.map fun time => ("timestamp", .string time)) ++
  [("level", .string r.level.name), ("target", .string r.target), ("message", .string r.message)] ++
  (if r.fields.isEmpty then []
    else [("fields", .object (r.sortedFields.map fun f => (f.1, .string f.2)))])

/-- The record as a JSON object. -/
def toJson (stamp : Option String) (r : Record) : Json := .object (r.members stamp)

/-- The line with the JSON object. -/
def jsonLine (stamp : Option String) (r : Record) : String := (r.toJson stamp).toText

/-- What a format writes for a record; nothing when it hands the record on. -/
def line? (format : Format) (stamp : Option String) (r : Record) : Option String :=
  match format with
  | .json => some (r.jsonLine stamp)
  | .compact => some (r.compactLine stamp)
  | .facade => none

/-- The text that a format writes for a record: its line with a line break, if there is one. -/
def text (format : Format) (stamp : Option String) (r : Record) : String :=
  match r.line? format stamp with
  | some line => line ++ "\n"
  | none => ""

end Record
end FeatureFlags.Log
