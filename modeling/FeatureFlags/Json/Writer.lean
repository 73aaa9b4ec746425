import FeatureFlags.Json.Basic
import FeatureFlags.Number.Shortest

/-!
# Writing JSON

A document is written on one line without blanks. In a string, quotes, backslashes and the
characters below the blank are escaped and all others stand for themselves.
-/
namespace FeatureFlags.Json

def hexChar (n : Nat) : Char := (Nat.digitChar n)

/-- The written form of a character of a string. -/
def escapeChar (c : Char) : List Char :=
  match c with
  | '"' => ['\\', '"']
  | '\\' => ['\\', '\\']
  | '\x08' => ['\\', 'b']
  | '\x0c' => ['\\', 'f']
  | '\n' => ['\\', 'n']
  | '\r' => ['\\', 'r']
  | '\t' => ['\\', 't']
  | c =>
    if c.toNat < 0x20 then ['\\', 'u', '0', '0', hexChar (c.toNat / 16), hexChar (c.toNat % 16)]
    else [c]

/-- The written form of a string. -/
def writeString (s : String) : List Char := '"' :: s.toList.flatMap escapeChar ++ ['"']

/-- The written form of a number; what is not finite is written as null. -/
def writeNumber : Number → List Char
  | .integer i => i.repr.toList
  | .real (.finite s m e) => (Binary64.finite s m e).toPointedText.toList
  | .real _ => "null".toList

mutual

/-- The written form of a document. -/
def write : Json → List Char
  | null => "null".toList
  | bool true => "true".toList
  | bool false => "false".toList
  | number n => writeNumber n
  | string s => writeString s
  | array items => '[' :: writeItems items ++ [']']
  | object members => '\x7b' :: writeMembers members ++ ['\x7d']
  | unreadable => "null".toList

def writeItems : List Json → List Char
  | [] => []
  | [item] => write item
  | item :: rest => write item ++ ',' :: writeItems rest

def writeMembers : List (String × Json) → List Char
  | [] => []
  | [(key, value)] => writeString key ++ ':' :: write value
  | (key, value) :: rest => writeString key ++ ':' :: write value ++ ',' :: writeMembers rest

end

/-- The text of a document. -/
def toText (json : Json) : String := String.ofList json.write

end FeatureFlags.Json
