import FeatureFlags.Json.Token
import Mathlib.Data.List.TakeWhile

/-!
# How tokens are written

Each kind of token has a grammar: a numeral is a sign, digits, a fraction and an exponent, and a
string is its characters between quotes, each as itself or escaped. Relations between a token and
what it is written as state these grammars, and the tokenizer takes just what they say. The relation
for a whole text puts tokens one after the other with blanks around them.

A numeral is taken as far as it goes, so the relation says of the text after a numeral that no
numeral could go on with it. A token without a value is written in no text: a numeral beyond the
range of binary64, and a string with half of a surrogate pair.

**Results.**
* `takeNumeral_of_written`, `written_of_takeNumeral`: what is taken as a numeral.
* `value?_eq_integer_iff`: the numerals that are read as integers.
* `takeString_of_text`, `text_of_takeString`: what is taken as a string.
* `lexed_iff`: the texts that are cut into given tokens.
-/
namespace FeatureFlags.Json

open Integer (isDigit digitValue digitsValue le_digitsValue)

/-! ## Numerals -/

/-- At least one digit. -/
def Digits (ds : List Char) : Prop := ds ≠ [] ∧ ∀ c ∈ ds, isDigit c = true

/-- The digits before the point: a zero, or digits that do not begin with one. -/
def WholeDigits (ds : List Char) : Prop := Digits ds ∧ ∀ rest, ds = '0' :: rest → rest = []

/-- The digits after the point, and what they are written as. -/
inductive FractionText : List Char → List Char → Prop where
  | absent : FractionText [] []
  | point {ds} (h : Digits ds) : FractionText ds ('.' :: ds)

/-- The sign and digits of an exponent, and what they are written as. -/
inductive ExponentText : Option (Bool × List Char) → List Char → Prop where
  | absent : ExponentText none []
  | unsigned {c ds} (hc : c = 'e' ∨ c = 'E') (h : Digits ds) :
    ExponentText (some (false, ds)) (c :: ds)
  | plus {c ds} (hc : c = 'e' ∨ c = 'E') (h : Digits ds) :
    ExponentText (some (false, ds)) (c :: '+' :: ds)
  | minus {c ds} (hc : c = 'e' ∨ c = 'E') (h : Digits ds) :
    ExponentText (some (true, ds)) (c :: '-' :: ds)

/-- What a numeral is written as. -/
inductive Numeral.Written : Numeral → List Char → Prop where
  | mk {negative whole fraction exponent f e} (hw : WholeDigits whole)
    (hf : FractionText fraction f) (he : ExponentText exponent e) :
    Written ⟨negative, whole, fraction, exponent⟩
      ((if negative then ['-'] else []) ++ (whole ++ (f ++ e)))

/-- No numeral goes on with this text. -/
def Numeral.Ends (rest : List Char) : Prop :=
  ∀ c ∈ rest.head?, isDigit c = false ∧ c ≠ '.' ∧ c ≠ 'e' ∧ c ≠ 'E'

/-- No digit comes next. -/
def NoDigit (cs : List Char) : Prop := ∀ c ∈ cs.head?, isDigit c = false

theorem digits_ne {c d : Char} (hc : isDigit c = true) (hd : isDigit d = false) : c ≠ d := by
  rintro rfl
  exact Bool.false_ne_true (hd.symm.trans hc)

theorem takeWhile_digits {ds rest : List Char} (hds : ∀ c ∈ ds, isDigit c = true)
    (hrest : ∀ c ∈ rest.head?, isDigit c = false) :
    (ds ++ rest).takeWhile isDigit = ds ∧ (ds ++ rest).dropWhile isDigit = rest := by
  rw [List.takeWhile_append_of_pos hds, List.dropWhile_append_of_pos hds]
  cases rest with
  | nil => simp
  | cons c cs => simp [hrest c rfl]

/-- A run of digits that no further digit follows is taken as a whole. -/
theorem span_digits_iff {cs ds rest : List Char} :
    cs.takeWhile isDigit = ds ∧ cs.dropWhile isDigit = rest ↔
      cs = ds ++ rest ∧ (∀ c ∈ ds, isDigit c = true) ∧ NoDigit rest := by
  constructor
  · rintro ⟨rfl, rfl⟩
    refine ⟨List.takeWhile_append_dropWhile.symm, fun c hc => ?_, fun c hc => ?_⟩
    · exact List.mem_takeWhile_imp hc
    · have hhead := List.head?_dropWhile_not isDigit cs
      rw [hc] at hhead
      exact hhead
  · rintro ⟨rfl, hds, hrest⟩
    exact takeWhile_digits hds hrest

theorem takeWhole_eq_some_iff {cs ds rest : List Char} :
    takeWhole cs = some (ds, rest) ↔ cs = ds ++ rest ∧ WholeDigits ds ∧ NoDigit rest := by
  constructor
  · intro h
    unfold takeWhole at h
    split at h
    · cases h
    · split at h
      · cases h
      · cases h
      · next hnil hzero =>
        cases h
        obtain ⟨hcs, hds, hrest⟩ := span_digits_iff.1 ⟨rfl, rfl⟩
        refine ⟨hcs, ⟨⟨hnil, hds⟩, fun r hr => ?_⟩, hrest⟩
        cases r with
        | nil => rfl
        | cons c r => exact absurd hr (hzero c r)
  · rintro ⟨rfl, ⟨⟨hnil, hds⟩, hzero⟩, hrest⟩
    obtain ⟨htake, hdrop⟩ := takeWhile_digits hds hrest
    unfold takeWhole
    split
    · next cs hcs =>
      cases ds with
      | nil => exact absurd rfl hnil
      | cons c ds =>
        rw [List.cons_append, List.cons.injEq] at hcs
        obtain ⟨rfl, hcs⟩ := hcs
        rw [hzero ds rfl, List.nil_append] at hcs
        exact absurd (hrest '0' (by simp [hcs])) (by decide)
    · rw [htake, hdrop]
      split
      · exact absurd rfl hnil
      · cases hzero _ rfl
      · rfl

theorem takeFraction_of_text {ds f rest : List Char} (h : FractionText ds f)
    (hrest : ∀ c ∈ rest.head?, isDigit c = false ∧ c ≠ '.') :
    takeFraction (f ++ rest) = some (ds, rest) := by
  cases h with
  | absent =>
    unfold takeFraction
    split
    · next cs hcs => exact absurd rfl (hrest '.' (by rw [← List.nil_append rest, hcs]; rfl)).2
    · rfl
  | point h =>
    obtain ⟨htake, hdrop⟩ := takeWhile_digits h.2 fun c hc => (hrest c hc).1
    rw [List.cons_append, takeFraction, htake, hdrop]
    split
    · exact absurd rfl h.1
    · rfl

theorem text_of_takeFraction {cs ds rest : List Char} (h : takeFraction cs = some (ds, rest))
    (hcs : NoDigit cs) :
    ∃ f, FractionText ds f ∧ cs = f ++ rest ∧ NoDigit rest := by
  unfold takeFraction at h
  split at h
  · next cs =>
    split at h
    · cases h
    · next hnil =>
      cases h
      obtain ⟨hspan, hds, hrest⟩ := span_digits_iff.1 ⟨rfl, rfl⟩
      exact ⟨_, .point ⟨hnil, hds⟩, congrArg ('.' :: ·) hspan, hrest⟩
  · cases h
    exact ⟨[], .absent, rfl, hcs⟩

theorem takeExponent_of_ends {rest : List Char} (h : Numeral.Ends rest) :
    takeExponent rest = some (none, rest) := by
  unfold takeExponent
  split
  · next c cs =>
    obtain ⟨-, -, he, hE⟩ := h c rfl
    rw [if_neg (by simp [he, hE])]
  · rfl

/-- A run of digits begins with nothing but a digit. -/
theorem Digits.append_ne {ds : List Char} (h : Digits ds) {c : Char} (hc : isDigit c = false)
    (rest cs : List Char) : ds ++ rest ≠ c :: cs := by
  obtain ⟨hnil, hds⟩ := h
  cases ds with
  | nil => exact absurd rfl hnil
  | cons d ds =>
    intro heq
    exact digits_ne (hds d List.mem_cons_self) hc (List.cons.inj heq).1

theorem takeExponent_of_text {e : Option (Bool × List Char)} {w rest : List Char}
    (h : ExponentText e w) (hrest : Numeral.Ends rest) :
    takeExponent (w ++ rest) = some (e, rest) := by
  have hdigits : ∀ {ds}, Digits ds →
      (ds ++ rest).takeWhile isDigit = ds ∧ (ds ++ rest).dropWhile isDigit = rest := fun h =>
    takeWhile_digits h.2 fun c hc => (hrest c hc).1
  cases h with
  | absent => exact takeExponent_of_ends hrest
  | unsigned hc h =>
    obtain ⟨htake, hdrop⟩ := hdigits h
    rw [List.cons_append, takeExponent, if_pos hc, htake, hdrop]
    · split
      · exact absurd rfl h.1
      · rfl
    · exact h.append_ne (by decide) rest
    · exact h.append_ne (by decide) rest
  | plus hc h | minus hc h =>
    obtain ⟨htake, hdrop⟩ := hdigits h
    rw [List.cons_append, List.cons_append, takeExponent, if_pos hc, htake, hdrop]
    split
    · exact absurd rfl h.1
    · rfl

theorem text_of_takeExponent {cs rest : List Char} {e : Option (Bool × List Char)}
    (h : takeExponent cs = some (e, rest)) (hcs : NoDigit cs) :
    ∃ w, ExponentText e w ∧ cs = w ++ rest ∧ NoDigit rest := by
  unfold takeExponent at h
  split at h
  · next c cs =>
    split at h
    · next hc =>
      split at h
      next x negative ds hx =>
      split at h
      · cases h
      · next hnil =>
        cases h
        obtain ⟨hspan, hds, hrest⟩ := span_digits_iff.1 ⟨rfl, rfl⟩
        have hdigits : Digits (ds.takeWhile isDigit) := ⟨hnil, hds⟩
        split at hx
        · cases hx
          exact ⟨_, .minus hc hdigits, congrArg (c :: '-' :: ·) hspan, hrest⟩
        · cases hx
          exact ⟨_, .plus hc hdigits, congrArg (c :: '+' :: ·) hspan, hrest⟩
        · cases hx
          exact ⟨_, .unsigned hc hdigits, congrArg (c :: ·) hspan, hrest⟩
    · cases h
      exact ⟨[], .absent, rfl, hcs⟩
  · cases h
    exact ⟨[], .absent, rfl, hcs⟩

theorem FractionText.stops {ds f : List Char} (h : FractionText ds f) {rest : List Char}
    (hrest : NoDigit rest) :
    NoDigit (f ++ rest) := by
  cases h with
  | absent => exact hrest
  | point => exact fun c hc => by cases hc; rfl

theorem ExponentText.stops {e : Option (Bool × List Char)} {w : List Char} (h : ExponentText e w)
    {rest : List Char} (hrest : Numeral.Ends rest) :
    ∀ c ∈ (w ++ rest).head?, isDigit c = false ∧ c ≠ '.' := by
  have hletter : ∀ {c d : Char}, (d = 'e' ∨ d = 'E') → c = d → isDigit c = false ∧ c ≠ '.' := by
    rintro c d (rfl | rfl) rfl <;> exact ⟨rfl, by decide⟩
  intro c hc
  cases h with
  | absent => exact ⟨(hrest c hc).1, (hrest c hc).2.1⟩
  | unsigned hd | plus hd | minus hd => exact hletter hd (Option.some.inj hc).symm

/-- A numeral is taken as it is written when no numeral goes on with what comes next. -/
theorem takeNumeral_of_written {n : Numeral} {w rest : List Char} (h : n.Written w)
    (hrest : Numeral.Ends rest) :
    takeNumeral (w ++ rest) = some (n, rest) := by
  cases h with
  | @mk negative whole fraction exponent f e hw hf he =>
    have hexponent := he.stops hrest
    have hstop : NoDigit (f ++ (e ++ rest)) := hf.stops fun c hc => (hexponent c hc).1
    have hsign : takeSign ((if negative then ['-'] else []) ++ (whole ++ (f ++ (e ++ rest)))) =
        (negative, whole ++ (f ++ (e ++ rest))) := by
      cases negative with
      | true => rfl
      | false =>
        rw [if_neg Bool.false_ne_true, List.nil_append, takeSign]
        exact hw.1.append_ne (by decide) _
    have hwhole := takeWhole_eq_some_iff.2 ⟨rfl, hw, hstop⟩
    simp only [List.append_assoc, takeNumeral, hsign, hwhole, takeFraction_of_text hf hexponent,
      takeExponent_of_text he hrest, Option.bind_eq_bind, Option.bind_some, Option.pure_def]

/-- What is taken as a numeral is written as one, and no digit comes next. -/
theorem written_of_takeNumeral {n : Numeral} {cs rest : List Char}
    (h : takeNumeral cs = some (n, rest)) :
    ∃ w, n.Written w ∧ cs = w ++ rest ∧ NoDigit rest := by
  simp only [takeNumeral, Option.bind_eq_bind, Option.bind_eq_some_iff, Option.pure_def,
    Option.some.injEq, Prod.exists, Prod.mk.injEq] at h
  obtain ⟨whole, cs₁, hw, fraction, cs₂, hf, exponent, cs₃, he, rfl, rfl⟩ := h
  obtain ⟨hcs, hwhole, hstop₁⟩ := takeWhole_eq_some_iff.1 hw
  obtain ⟨f, hfraction, rfl, hstop₂⟩ := text_of_takeFraction hf hstop₁
  obtain ⟨e, hexponent, rfl, hstop₃⟩ := text_of_takeExponent he hstop₂
  have hsign : cs = (if (takeSign cs).1 then ['-'] else []) ++ (takeSign cs).2 := by
    unfold takeSign
    split <;> rfl
  refine ⟨_, .mk hwhole hfraction hexponent, ?_, hstop₃⟩
  rw [hcs] at hsign
  simpa only [List.append_assoc] using hsign

/-! ### Integers -/

/-- The numeral is an integer as it is written: digits alone, and not zero with a sign. -/
structure Numeral.Names (n : Numeral) (i : Int) : Prop where
  fraction : n.fraction = []
  exponent : n.exponent = none
  value : i = if n.negative then -(digitsValue 0 n.whole : Int) else digitsValue 0 n.whole
  signed : n.negative = true → i ≠ 0

/-- The integers that a document keeps as they are: those of 64 bits, with or without a sign. -/
def Exact (i : Int) : Prop := -(1 <<< 63) ≤ i ∧ i < 1 <<< 64

theorem takeFitting_eq {value : Nat} {cs : List Char} (h : digitsValue value cs < UInt64.size) :
    takeFitting value cs = (digitsValue value cs, []) := by
  induction cs generalizing value with
  | nil => rfl
  | cons c cs ih =>
    have hle : value * 10 + digitValue c ≤ digitsValue value (c :: cs) := le_digitsValue _ cs
    rw [takeFitting, if_pos (Nat.lt_of_le_of_lt hle h)]
    exact ih h

theorem takeFitting_all {value s : Nat} {cs : List Char} (h : takeFitting value cs = (s, []))
    (hv : value < UInt64.size) : s = digitsValue value cs ∧ s < UInt64.size := by
  induction cs generalizing value with
  | nil =>
    cases h
    exact ⟨rfl, hv⟩
  | cons c cs ih =>
    rw [takeFitting] at h
    split at h
    · next hnext => exact ih h hnext
    · cases h

/-- Just the integers of 64 bits are read as integers. -/
theorem value?_eq_integer_iff {n : Numeral} {i : Int} :
    n.value? = some (.integer i) ↔ n.Names i ∧ Exact i := by
  have hsize : UInt64.size = 1 <<< 64 := rfl
  constructor
  · intro h
    rcases hfit : takeFitting 0 n.whole with ⟨s, dropped⟩
    simp only [Numeral.value?, hfit] at h
    split at h
    · next hfraction hexponent =>
      obtain ⟨rfl, hs⟩ := takeFitting_all hfit (by decide)
      split at h
      · next hnegative =>
        split at h
        · cases h
        · next hin =>
          cases h
          refine ⟨⟨hfraction, hexponent, by rw [if_pos hnegative], fun _ => by omega⟩, ?_, ?_⟩ <;>
            omega
      · next hpositive =>
        cases h
        refine ⟨⟨hfraction, hexponent, by rw [if_neg hpositive], fun h => absurd h hpositive⟩, ?_,
          ?_⟩ <;> omega
    · obtain ⟨_, _, h⟩ := Option.map_eq_some_iff.1 h
      cases h
  · rintro ⟨⟨hfraction, hexponent, hvalue, hsigned⟩, hlow, hhigh⟩
    have hfits : digitsValue 0 n.whole < UInt64.size := by
      split at hvalue <;> omega
    simp only [Numeral.value?, takeFitting_eq hfits, hfraction, hexponent]
    split
    · next hnegative =>
      have hzero := hsigned hnegative
      rw [if_pos hnegative] at hvalue
      rw [if_neg (by omega), hvalue]
    · next hpositive => rw [hvalue, if_neg hpositive]

/-! ## Strings -/

/-- What a part of a string is written as: a character as itself or by a letter after a backslash,
or a unit by its hexadecimal digits. -/
inductive Piece.Written : Piece → List Char → Prop where
  | plain {c} (hcontrol : 0x20 ≤ c.toNat) (hquote : c ≠ '"') (hback : c ≠ '\\') :
    Written (.char c) [c]
  | letter {l c} (h : escaped? l = some c) : Written (.char c) ['\\', l]
  | unit {a b c d} (h : [a, b, c, d].all isHex = true) :
    Written (.unit (hexValue [a, b, c, d])) ['\\', 'u', a, b, c, d]

/-- What the characters of a string are written as between its quotes. A unit is the character with
this number, and two units that are surrogates of each other are one character. -/
inductive StringText : List Char → List Char → Prop where
  | nil : StringText [] []
  | char {c w cs text} (hw : (Piece.char c).Written w) (rest : StringText cs text) :
    StringText (c :: cs) (w ++ text)
  | unit {n w cs text} (hw : (Piece.unit n).Written w) (hhigh : isHighSurrogate n = false)
    (hlow : isLowSurrogate n = false) (rest : StringText cs text) :
    StringText (Char.ofNat n :: cs) (w ++ text)
  | pair {n m w w' cs text} (hw : (Piece.unit n).Written w) (hw' : (Piece.unit m).Written w')
    (hhigh : isHighSurrogate n = true) (hlow : isLowSurrogate m = true)
    (rest : StringText cs text) :
    StringText (Char.ofNat (0x10000 + (n - 0xd800) * 0x400 + (m - 0xdc00)) :: cs)
      (w ++ (w' ++ text))

/-- A unit that is no surrogate is a character, whatever comes after it. -/
theorem joinPieces_unit {n : Nat} (hhigh : isHighSurrogate n = false)
    (hlow : isLowSurrogate n = false) (ps : List Piece) :
    joinPieces (.unit n :: ps) = (joinPieces ps).map (Char.ofNat n :: ·) := by
  cases ps with
  | nil => simp [joinPieces, hhigh, hlow]
  | cons p ps => cases p <;> simp [joinPieces, hhigh, hlow]

theorem takeString_of_written {p : Piece} {w : List Char} (h : p.Written w) (cs : List Char) :
    takeString (w ++ cs) = (takeString cs).map fun (ps, rest) => (p :: ps, rest) := by
  cases h with
  | @plain c hcontrol hquote hback =>
    have hplain : ¬(c.toNat < 0x20 ∨ c = '\\') := fun h => h.elim (by omega) hback
    rw [List.singleton_append, takeString, if_neg hplain]
    · exact hquote
    · exact fun _ _ _ _ _ h _ => hback h
    · exact fun _ _ h _ => hback h
  | @letter l c h =>
    have hunit : l ≠ 'u' := by
      rintro rfl
      cases h
    simp only [List.cons_append, List.nil_append]
    rw [takeString, h]
    exact fun _ _ _ _ _ h _ => hunit h
  | unit h =>
    simp only [List.cons_append, List.nil_append]
    rw [takeString, if_pos h]

theorem written_of_takeString {cs rest : List Char} {p : Piece} {ps : List Piece}
    (h : takeString cs = some (p :: ps, rest)) :
    ∃ w cs', p.Written w ∧ cs = w ++ cs' ∧ takeString cs' = some (ps, rest) := by
  unfold takeString at h
  split at h
  · cases h
  · cases h
  · next a b c d cs =>
    split at h
    · next hhex =>
      obtain ⟨⟨ps', rest'⟩, hcs, he⟩ := Option.map_eq_some_iff.1 h
      cases he
      exact ⟨_, cs, .unit hhex, rfl, hcs⟩
    · cases h
  · next c cs _ =>
    split at h
    · next x hx =>
      obtain ⟨⟨ps', rest'⟩, hcs, he⟩ := Option.map_eq_some_iff.1 h
      cases he
      exact ⟨_, cs, .letter hx, rfl, hcs⟩
    · cases h
  · next c cs hquote _ _ =>
    split at h
    · cases h
    · next hplain =>
      obtain ⟨⟨ps', rest'⟩, hcs, he⟩ := Option.map_eq_some_iff.1 h
      cases he
      obtain ⟨hcontrol, hback⟩ := not_or.1 hplain
      exact ⟨_, cs, .plain (Nat.le_of_not_lt hcontrol) hquote hback, rfl, hcs⟩

theorem quote_of_takeString {cs rest : List Char} (h : takeString cs = some ([], rest)) :
    cs = '"' :: rest := by
  unfold takeString at h
  split at h
  · cases h
  · cases h
    rfl
  all_goals
    split at h
    · simp at h
    · simp at h

theorem takeString_of_text {cs text : List Char} (h : StringText cs text) (rest : List Char) :
    ∃ ps, takeString (text ++ '"' :: rest) = some (ps, rest) ∧ joinPieces ps = some cs := by
  induction h with
  | nil => exact ⟨[], rfl, rfl⟩
  | char hw _ ih =>
    obtain ⟨ps, htake, hjoin⟩ := ih
    refine ⟨_, by rw [List.append_assoc, takeString_of_written hw, htake]; rfl, ?_⟩
    rw [joinPieces, hjoin]
    rfl
  | unit hw hhigh hlow _ ih =>
    obtain ⟨ps, htake, hjoin⟩ := ih
    refine ⟨_, by rw [List.append_assoc, takeString_of_written hw, htake]; rfl, ?_⟩
    rw [joinPieces_unit hhigh hlow, hjoin]
    rfl
  | pair hw hw' hhigh hlow _ ih =>
    obtain ⟨ps, htake, hjoin⟩ := ih
    refine ⟨_, by
      rw [List.append_assoc, List.append_assoc, takeString_of_written hw, takeString_of_written hw',
        htake]; rfl, ?_⟩
    rw [joinPieces, if_pos hhigh, if_pos hlow, hjoin]
    rfl

/-- The induction takes the pieces as they are joined, two surrogates at a time. -/
theorem text_of_takeString {cs rest s : List Char} {ps : List Piece}
    (h : takeString cs = some (ps, rest)) (hs : joinPieces ps = some s) :
    ∃ text, StringText s text ∧ cs = text ++ '"' :: rest := by
  fun_induction joinPieces ps generalizing cs s with
  | case1 =>
    cases hs
    exact ⟨[], .nil, quote_of_takeString h⟩
  | case2 c ps ih =>
    obtain ⟨s', hs', rfl⟩ := Option.map_eq_some_iff.1 hs
    obtain ⟨w, cs', hw, rfl, h'⟩ := written_of_takeString h
    obtain ⟨text, htext, rfl⟩ := ih h' hs'
    exact ⟨w ++ text, .char hw htext, (List.append_assoc ..).symm⟩
  | case3 n m ps hhigh hlow ih =>
    obtain ⟨s', hs', rfl⟩ := Option.map_eq_some_iff.1 hs
    obtain ⟨w, cs', hw, rfl, h'⟩ := written_of_takeString h
    obtain ⟨w', cs'', hw', rfl, h''⟩ := written_of_takeString h'
    obtain ⟨text, htext, rfl⟩ := ih h'' hs'
    exact ⟨w ++ (w' ++ text), .pair hw hw' hhigh hlow htext, by simp⟩
  | case4 => cases hs
  | case5 => cases hs
  | case6 n m ps hhigh hlow ih =>
    obtain ⟨s', hs', rfl⟩ := Option.map_eq_some_iff.1 hs
    obtain ⟨w, cs', hw, rfl, h'⟩ := written_of_takeString h
    obtain ⟨text, htext, rfl⟩ := ih h' hs'
    rw [Bool.not_eq_true] at hhigh hlow
    exact ⟨w ++ text, .unit hw hhigh hlow htext, (List.append_assoc ..).symm⟩
  | case7 => cases hs
  | case8 n ps _ hsurrogate ih =>
    obtain ⟨s', hs', rfl⟩ := Option.map_eq_some_iff.1 hs
    obtain ⟨w, cs', hw, rfl, h'⟩ := written_of_takeString h
    obtain ⟨text, htext, rfl⟩ := ih h' hs'
    rw [Bool.or_eq_true, not_or, Bool.not_eq_true, Bool.not_eq_true] at hsurrogate
    exact ⟨w ++ text, .unit hw hsurrogate.1 hsurrogate.2 htext, (List.append_assoc ..).symm⟩

/-! ## Tokens -/

/-- What a token that has a value is written as. -/
inductive Token.Written : Token → List Char → Prop where
  | openArray : Written .openArray ['[']
  | closeArray : Written .closeArray [']']
  | openObject : Written .openObject ['\x7b']
  | closeObject : Written .closeObject ['\x7d']
  | comma : Written .comma [',']
  | colon : Written .colon [':']
  | null : Written (.atom .null) "null".toList
  | trueWord : Written (.atom (.bool true)) "true".toList
  | falseWord : Written (.atom (.bool false)) "false".toList
  | number {n : Numeral} {v w} (hw : n.Written w) (hv : n.value? = some v) :
    Written (.atom (.number v)) w
  | string {cs text} (h : StringText cs text) :
    Written (.string (some (String.ofList cs))) ('"' :: (text ++ ['"']))

/-- The token is a string with a value, a word, a number or punctuation. -/
def Token.Valued (t : Token) : Prop := t ≠ .string none ∧ t ≠ .atom .unreadable

/-- A text is the tokens one after the other, with blanks before, between and after them. No numeral
could go on with what comes after it. -/
inductive Lexed : List Token → List Char → Prop where
  | done : Lexed [] []
  | blank {c ts cs} (hc : isBlank c = true) (rest : Lexed ts cs) : Lexed ts (c :: cs)
  | token {t w ts cs} (hw : t.Written w) (hends : ∀ v, t = .atom (.number v) → Numeral.Ends cs)
    (rest : Lexed ts cs) : Lexed (t :: ts) (w ++ cs)

theorem Token.Written.valued {t : Token} {w : List Char} (h : t.Written w) : t.Valued := by
  cases h <;> constructor <;> simp

theorem Numeral.Written.exists_cons {n : Numeral} {w : List Char} (h : n.Written w) :
    ∃ c cs, w = c :: cs ∧ (c = '-' ∨ isDigit c = true) := by
  cases h with
  | @mk negative whole fraction exponent f e hw =>
    cases negative with
    | true => exact ⟨'-', _, rfl, .inl rfl⟩
    | false =>
      cases whole with
      | nil => exact absurd rfl hw.1.1
      | cons c whole => exact ⟨c, _, rfl, .inr (hw.1.2 c List.mem_cons_self)⟩

theorem takeToken_blank {c : Char} (hc : isBlank c = true) (cs : List Char) :
    takeToken (c :: cs) = none := by
  simp only [isBlank, Bool.or_eq_true, beq_iff_eq] at hc
  rcases hc with ((rfl | rfl) | rfl) | rfl <;> rfl

/-- A text that begins with a token has the tokens of what comes after it. No token begins with a
blank. -/
theorem tokens_of_takeToken {cs rest : List Char} {t : Token} (h : takeToken cs = some (t, rest)) :
    tokens cs = (tokens rest).map (t :: ·) := by
  cases cs with
  | nil => cases h
  | cons c cs =>
    have hblank : isBlank c = false := by
      cases hc : isBlank c with
      | false => rfl
      | true =>
        rw [takeToken_blank hc] at h
        cases h
    rw [tokens, hblank]
    simp only [Bool.false_eq_true, if_false]
    split
    · next hnone =>
      rw [h] at hnone
      cases hnone
    · next hsome =>
      rw [h] at hsome
      cases hsome
      rfl

/-- The characters that brackets, separators, strings and words begin with. -/
def opening : List Char := ['[', ']', '\x7b', '\x7d', ',', ':', '"', 'n', 't', 'f']

/-- A sign or a digit begins a numeral and no other token. -/
theorem takeToken_numeral {c : Char} {cs rest : List Char} {n : Numeral}
    (hc : c = '-' ∨ isDigit c = true) (h : takeNumeral (c :: cs) = some (n, rest)) :
    takeToken (c :: cs) = some (.atom ((n.value?.map Json.number).getD .unreadable), rest) := by
  have hopening : opening.all (fun d => d != '-' && !isDigit d) = true := by decide
  have hother : ∀ d ∈ opening, c ≠ d := by
    rintro d hd rfl
    have hd' := List.all_eq_true.1 hopening c hd
    rcases hc with rfl | hc
    · cases hd'
    · simp [hc] at hd'
  have hnull : dropWord "null".toList (c :: cs) = none := if_neg (hother 'n' (by decide))
  have htrue : dropWord "true".toList (c :: cs) = none := if_neg (hother 't' (by decide))
  have hfalse : dropWord "false".toList (c :: cs) = none := if_neg (hother 'f' (by decide))
  unfold takeToken
  split
  case h_1 heq => cases heq
  case h_9 => simp only [takeAtom, hnull, htrue, hfalse, h, Option.map_some]
  all_goals
    next heq =>
    cases heq
    exact absurd rfl (hother _ (by decide))

theorem takeToken_of_written {t : Token} {w rest : List Char} (h : t.Written w)
    (hends : ∀ v, t = .atom (.number v) → Numeral.Ends rest) :
    takeToken (w ++ rest) = some (t, rest) := by
  cases h with
  | @number n v w hw hv =>
    have hnumeral := takeNumeral_of_written hw (hends v rfl)
    obtain ⟨c, cs, rfl, hc⟩ := hw.exists_cons
    rw [List.cons_append] at hnumeral ⊢
    rw [takeToken_numeral hc hnumeral, hv]
    rfl
  | @string cs text h =>
    obtain ⟨ps, htake, hjoin⟩ := takeString_of_text h rest
    rw [List.cons_append, List.append_assoc, List.singleton_append, takeToken, htake]
    simp [hjoin]
  | _ => rfl

theorem eq_of_dropWord {ws cs rest : List Char} (h : dropWord ws cs = some rest) :
    cs = ws ++ rest := by
  fun_induction dropWord ws cs with
  | case1 =>
    cases h
    rfl
  | case2 w ws cs ih => rw [ih h]; rfl
  | case3 => cases h
  | case4 => cases h

theorem written_of_takeAtom {t : Token} {cs rest : List Char} (h : takeAtom cs = some (t, rest))
    (hv : t.Valued) :
    ∃ w, t.Written w ∧ cs = w ++ rest ∧ ∀ v, t = .atom (.number v) → NoDigit rest := by
  unfold takeAtom at h
  split at h
  · next hw =>
    cases h
    exact ⟨_, .null, eq_of_dropWord hw, fun _ h => by cases h⟩
  · split at h
    · next hw =>
      cases h
      exact ⟨_, .trueWord, eq_of_dropWord hw, fun _ h => by cases h⟩
    · split at h
      · next hw =>
        cases h
        exact ⟨_, .falseWord, eq_of_dropWord hw, fun _ h => by cases h⟩
      · obtain ⟨⟨n, rest'⟩, hnumeral, he⟩ := Option.map_eq_some_iff.1 h
        obtain ⟨w, hw, rfl, hstop⟩ := written_of_takeNumeral hnumeral
        dsimp only at he
        cases hvalue : n.value? with
        | none =>
          rw [hvalue] at he
          cases he
          exact absurd rfl hv.2
        | some v =>
          rw [hvalue] at he
          cases he
          exact ⟨w, .number hw hvalue, rfl, fun _ _ => hstop⟩

theorem written_of_takeToken {t : Token} {cs rest : List Char} (h : takeToken cs = some (t, rest))
    (hv : t.Valued) :
    ∃ w, t.Written w ∧ cs = w ++ rest ∧ ∀ v, t = .atom (.number v) → NoDigit rest := by
  unfold takeToken at h
  split at h
  case h_1 => cases h
  case h_8 cs =>
    obtain ⟨⟨ps, rest'⟩, htake, he⟩ := Option.map_eq_some_iff.1 h
    dsimp only at he
    cases hjoin : joinPieces ps with
    | none =>
      rw [hjoin] at he
      cases he
      exact absurd rfl hv.1
    | some s =>
      rw [hjoin] at he
      cases he
      obtain ⟨text, htext, rfl⟩ := text_of_takeString htake hjoin
      exact ⟨_, .string htext, by simp, fun _ h => by cases h⟩
  case h_9 => exact written_of_takeAtom h hv
  all_goals
    cases h
    exact ⟨_, by constructor, rfl, fun _ h => by cases h⟩

/-- No token begins with a point or with the letter of an exponent. -/
theorem takeToken_eq_none {c : Char} (hc : c = '.' ∨ c = 'e' ∨ c = 'E') (cs : List Char) :
    takeToken (c :: cs) = none := by
  rcases hc with rfl | rfl | rfl <;> rfl

theorem ends_of_tokens {cs : List Char} {ts : List Token} (h : tokens cs = some ts)
    (hstop : NoDigit cs) :
    Numeral.Ends cs := by
  intro c hc
  cases cs with
  | nil => cases hc
  | cons d cs =>
    cases hc
    have hletter : ¬(c = '.' ∨ c = 'e' ∨ c = 'E') := by
      intro hletter
      have hblank : isBlank c = false := by rcases hletter with rfl | rfl | rfl <;> rfl
      rw [tokens, hblank, if_neg Bool.false_ne_true] at h
      split at h
      · cases h
      · next htake =>
        rw [takeToken_eq_none hletter] at htake
        cases htake
    obtain ⟨hpoint, hexponent⟩ := not_or.1 hletter
    exact ⟨hstop c rfl, hpoint, not_or.1 hexponent⟩

theorem tokens_of_lexed {ts : List Token} {cs : List Char} (h : Lexed ts cs) :
    tokens cs = some ts := by
  induction h with
  | done => rw [tokens]
  | blank hc _ ih => rw [tokens, if_pos hc, ih]
  | token hw hends _ ih => rw [tokens_of_takeToken (takeToken_of_written hw hends), ih]; rfl

theorem lexed_of_tokens {cs : List Char} {ts : List Token} (h : tokens cs = some ts)
    (hv : ∀ t ∈ ts, t.Valued) : Lexed ts cs := by
  fun_induction tokens cs generalizing ts with
  | case1 =>
    cases h
    exact .done
  | case2 c cs hc ih => exact .blank hc (ih h hv)
  | case3 => cases h
  | case4 c cs _ t rest htake ih =>
    obtain ⟨ts', hts', rfl⟩ := Option.map_eq_some_iff.1 h
    obtain ⟨ht, hv'⟩ := List.forall_mem_cons.1 hv
    obtain ⟨w, hw, hcs, hstop⟩ := written_of_takeToken htake ht
    rw [hcs]
    exact .token hw (fun v hv => ends_of_tokens hts' (hstop v hv)) (ih hts' hv')

/-- A text is cut into tokens with values just when these are written in it. -/
theorem lexed_iff {ts : List Token} {cs : List Char} :
    Lexed ts cs ↔ tokens cs = some ts ∧ ∀ t ∈ ts, t.Valued := by
  refine ⟨fun h => ⟨tokens_of_lexed h, ?_⟩, fun ⟨h, hv⟩ => lexed_of_tokens h hv⟩
  induction h with
  | done => exact fun _ ht => by cases ht
  | blank _ _ ih => exact ih
  | token hw _ _ ih => exact List.forall_mem_cons.2 ⟨hw.valued, ih⟩

end FeatureFlags.Json
