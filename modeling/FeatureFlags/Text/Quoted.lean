import FeatureFlags.Unicode.Category
import FeatureFlags.Unicode.Property

/-!
# Quoted texts

A text in double quotes for a reader's eye: quotes, backslashes and line breaks are escaped with a
backslash, and a character that cannot be seen, or that would join the one before it, is written by
its code point in hexadecimal.
-/
namespace FeatureFlags.Text

open Unicode

/-- Code points that are not shown: separators, controls, and those without a character. -/
def hiddenSet : CodeSet := categoriesSet ["zl", "zp", "zs", "cc", "cf", "cs", "co", "cn"]

/-- Code points that extend the character before them. -/
def extendingSet : CodeSet := (property? "graphemeextend").getD default

/-- Whether the character is written as itself. -/
def isShown (c : Char) : Bool :=
  c == ' ' || (0x20 < c.toNat && c.toNat < 0x7f) ||
    (!extendingSet.contains c.toNat && !hiddenSet.contains c.toNat)

/-- The escaped form of a character between double quotes. -/
def escapeChar (c : Char) : List Char :=
  match c with
  | '\x00' => ['\\', '0']
  | '\t' => ['\\', 't']
  | '\n' => ['\\', 'n']
  | '\r' => ['\\', 'r']
  | '"' => ['\\', '"']
  | '\\' => ['\\', '\\']
  | c =>
    if isShown c then [c]
    else ['\\', 'u', '\x7b'] ++ Nat.toDigits 16 c.toNat ++ ['\x7d']

/-- The text between double quotes, escaped. -/
def quoted (text : String) : String :=
  String.ofList ('"' :: text.toList.flatMap escapeChar ++ ['"'])

/-- The quoted texts between square brackets. -/
def quotedList (texts : List String) : String :=
  "[" ++ String.intercalate ", " (texts.map quoted) ++ "]"

end FeatureFlags.Text
