import FeatureFlags.Unicode.LowerCase

/-!
# Lower case

A text is put in lower case character by character, with two exceptions: a capital I with a dot
becomes two characters, and a capital sigma at the end of a word becomes the final form of the
letter. A sigma ends a word when, passing over ignorable characters, a cased one comes before it and
none comes after it.
-/
namespace FeatureFlags.Text

open Unicode

def isCased (c : Char) : Bool := casedRanges.any (·.contains c.toNat)

def isCaseIgnorable (c : Char) : Bool := caseIgnorableRanges.any (·.contains c.toNat)

/-- The lower-case form of a character on its own. -/
def lowerChar (c : Char) : List Char :=
  if c.toNat < 128 then [c.toLower]
  else if c = 'İ' then ['i', '\u0307']
  else [Char.ofNat (mapRuns lowerRuns c.toNat)]

/-- Whether the first character that is not ignorable is cased. -/
def meetsCased (cs : List Char) : Bool :=
  match cs.dropWhile isCaseIgnorable with
  | c :: _ => isCased c
  | [] => false

/-- The lower-case form of a capital sigma between these characters, the ones before it in
reverse. -/
def lowerSigma (before after : List Char) : Char :=
  if meetsCased before && !meetsCased after then 'ς' else 'σ'

/-- Lower case after the characters `before`, which are in reverse order. -/
def lowerFrom (before : List Char) : List Char → List Char
  | [] => []
  | c :: cs =>
    (if c = 'Σ' then [lowerSigma before cs] else lowerChar c) ++ lowerFrom (c :: before) cs

/-- The text in lower case. -/
def lowerCase (text : String) : String := String.ofList (lowerFrom [] text.toList)

end FeatureFlags.Text
