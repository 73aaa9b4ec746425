import FeatureFlags.Json.Numeral

/-!
# Tokens of JSON

A text is cut into brackets, commas, colons and atoms, with blanks between them. A string is first
read as a list of pieces, characters and sixteen-bit units; pairs of surrogate units are then
joined, and a string with a surrogate left alone has no value.

**Results.**
* `takeString_length`, `takeToken_length`: what follows a token is shorter than the text before it.
-/
namespace FeatureFlags.Json

/-- A part of a string as written: a character, or the four hexadecimal digits of a unit. -/
inductive Piece where
  | char (c : Char)
  | unit (value : Nat)
  deriving DecidableEq, Repr

def isHex (c : Char) : Bool := c.isDigit || ('a' ≤ c && c ≤ 'f') || ('A' ≤ c && c ≤ 'F')

def hexDigit (c : Char) : Nat :=
  if c.isDigit then c.toNat - '0'.toNat
  else if 'a' ≤ c then c.toNat - 'a'.toNat + 10 else c.toNat - 'A'.toNat + 10

/-- The value of hexadecimal digits. -/
def hexValue (cs : List Char) : Nat := cs.foldl (fun n c => n * 16 + hexDigit c) 0

/-- The character that a letter stands for after a backslash. -/
def escaped? (c : Char) : Option Char :=
  match c with
  | '"' => some '"'
  | '\\' => some '\\'
  | '/' => some '/'
  | 'b' => some '\x08'
  | 'f' => some '\x0c'
  | 'n' => some '\n'
  | 'r' => some '\r'
  | 't' => some '\t'
  | _ => none

/-- The pieces of a string up to its closing quote, and the text after it. -/
def takeString : List Char → Option (List Piece × List Char)
  | [] => none
  | '"' :: cs => some ([], cs)
  | '\\' :: 'u' :: a :: b :: c :: d :: cs =>
    if [a, b, c, d].all isHex then
      (takeString cs).map fun (ps, rest) => (.unit (hexValue [a, b, c, d]) :: ps, rest)
    else none
  | '\\' :: c :: cs =>
    match escaped? c with
    | some x => (takeString cs).map fun (ps, rest) => (.char x :: ps, rest)
    | none => none
  | c :: cs =>
    if c.toNat < 0x20 ∨ c = '\\' then none
    else (takeString cs).map fun (ps, rest) => (.char c :: ps, rest)

def isHighSurrogate (n : Nat) : Bool := 0xd800 ≤ n && n ≤ 0xdbff

def isLowSurrogate (n : Nat) : Bool := 0xdc00 ≤ n && n ≤ 0xdfff

/-- The characters of the pieces; none if a surrogate has no partner. -/
def joinPieces : List Piece → Option (List Char)
  | [] => some []
  | .char c :: ps => (joinPieces ps).map (c :: ·)
  | .unit n :: .unit m :: ps =>
    if isHighSurrogate n then
      if isLowSurrogate m then
        (joinPieces ps).map (Char.ofNat (0x10000 + (n - 0xd800) * 0x400 + (m - 0xdc00)) :: ·)
      else none
    else if isLowSurrogate n then none
    else (joinPieces (.unit m :: ps)).map (Char.ofNat n :: ·)
  | .unit n :: ps =>
    if isHighSurrogate n || isLowSurrogate n then none else (joinPieces ps).map (Char.ofNat n :: ·)

/-- A token; a string without a value is `none`. -/
inductive Token where
  | openArray
  | closeArray
  | openObject
  | closeObject
  | comma
  | colon
  | string (value : Option String)
  | atom (value : Json)

def isBlank (c : Char) : Bool := c == ' ' || c == '\n' || c == '\t' || c == '\r'

/-- The rest of the text after a word that it begins with. -/
def dropWord : List Char → List Char → Option (List Char)
  | [], cs => some cs
  | w :: ws, c :: cs => if c = w then dropWord ws cs else none
  | _ :: _, [] => none

/-- A token made of letters, or a numeral. -/
def takeAtom (cs : List Char) : Option (Token × List Char) :=
  match dropWord "null".toList cs with
  | some rest => some (.atom .null, rest)
  | none =>
    match dropWord "true".toList cs with
    | some rest => some (.atom (.bool true), rest)
    | none =>
      match dropWord "false".toList cs with
      | some rest => some (.atom (.bool false), rest)
      | none => (takeNumeral cs).map fun (n, rest) =>
        (.atom ((n.value?.map Json.number).getD .unreadable), rest)

/-- The token that the text begins with, and the text after it. -/
def takeToken : List Char → Option (Token × List Char)
  | [] => none
  | '[' :: cs => some (.openArray, cs)
  | ']' :: cs => some (.closeArray, cs)
  | '\x7b' :: cs => some (.openObject, cs)
  | '\x7d' :: cs => some (.closeObject, cs)
  | ',' :: cs => some (.comma, cs)
  | ':' :: cs => some (.colon, cs)
  | '"' :: cs =>
    (takeString cs).map fun (ps, rest) => (.string ((joinPieces ps).map String.ofList), rest)
  | cs => takeAtom cs

/-! ## What is left is shorter -/

theorem takeString_length {cs rest : List Char} {ps : List Piece}
    (h : takeString cs = some (ps, rest)) : rest.length < cs.length := by
  fun_induction takeString cs generalizing ps rest with
  | case1 => simp at h
  | case2 cs => simp at h; simp [h.2]
  | case3 a b c d cs _ ih =>
    obtain ⟨⟨qs, r⟩, hr, he⟩ := Option.map_eq_some_iff.1 h
    simp only [Prod.mk.injEq] at he
    have := ih hr
    simp only [List.length_cons, ← he.2]; omega
  | case4 => simp at h
  | case5 c cs _ x _ ih =>
    obtain ⟨⟨qs, r⟩, hr, he⟩ := Option.map_eq_some_iff.1 h
    simp only [Prod.mk.injEq] at he
    have := ih hr
    simp only [List.length_cons, ← he.2]; omega
  | case6 => simp at h
  | case7 => simp at h
  | case8 c cs _ _ _ _ ih =>
    obtain ⟨⟨qs, r⟩, hr, he⟩ := Option.map_eq_some_iff.1 h
    simp only [Prod.mk.injEq] at he
    have := ih hr
    simp only [List.length_cons, ← he.2]; omega

theorem dropWord_length {ws cs rest : List Char} (h : dropWord ws cs = some rest) :
    rest.length + ws.length = cs.length := by
  fun_induction dropWord ws cs with
  | case1 => simp at h; simp [h]
  | case2 _ _ _ ih => have := ih h; simp only [List.length_cons]; omega
  | case3 => simp at h
  | case4 => simp at h

theorem takeAtom_length {cs rest : List Char} {t : Token} (h : takeAtom cs = some (t, rest)) :
    rest.length < cs.length := by
  unfold takeAtom at h
  split at h
  · next hw =>
    simp only [Option.some.injEq, Prod.mk.injEq] at h
    have := dropWord_length hw
    simp [← h.2, ← this]
  · split at h
    · next hw =>
      simp only [Option.some.injEq, Prod.mk.injEq] at h
      have := dropWord_length hw
      simp [← h.2, ← this]
    · split at h
      · next hw =>
        simp only [Option.some.injEq, Prod.mk.injEq] at h
        have := dropWord_length hw
        simp [← h.2, ← this]
      · obtain ⟨⟨n, r⟩, hr, he⟩ := Option.map_eq_some_iff.1 h
        simp only [Prod.mk.injEq] at he
        exact he.2 ▸ takeNumeral_length hr

theorem takeToken_length {cs rest : List Char} {t : Token} (h : takeToken cs = some (t, rest)) :
    rest.length < cs.length := by
  unfold takeToken at h
  split at h
  case h_1 => simp at h
  case h_8 =>
    obtain ⟨⟨ps, r⟩, hr, he⟩ := Option.map_eq_some_iff.1 h
    simp only [Prod.mk.injEq] at he
    have := takeString_length hr
    simp only [List.length_cons, ← he.2]; omega
  case h_9 => exact takeAtom_length h
  all_goals
    simp only [Option.some.injEq, Prod.mk.injEq] at h
    simp [← h.2]

/-- The tokens of a text. -/
def tokens : List Char → Option (List Token)
  | [] => some []
  | c :: cs =>
    if isBlank c then tokens cs
    else
      match _h : takeToken (c :: cs) with
      | none => none
      | some (t, rest) => (tokens rest).map (t :: ·)
termination_by cs => cs.length
decreasing_by
  · simp
  · exact takeToken_length _h

end FeatureFlags.Json
