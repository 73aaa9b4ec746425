import FeatureFlags.Pattern.Compile
import Mathlib.Logic.Basic
import Mathlib.Tactic.SplitIfs

/-!
# What it means to match

An expression spans parts of a text, each from one place to another. The matcher follows all
places at once as the bits of a number, stops a repetition when nothing changes and takes no more
steps than there are places. It finds a match exactly when the expression spans some part of the
text, because matching only goes forward.

**Results.**
* `reaches_iterate`, `testBit_within`: what a step reaches when it is repeated.
* `reaches_ends`: from a set of places an expression reaches the ends of the parts that it spans.
* `matchesIn_eq_true_iff`: a pattern matches a text when it spans some part of it.
* `contains_set?`: the operators between sets of characters are those of logic.
* `matchesIn_of_plain`: a pattern without signs matches the texts that it is a part of.
-/
namespace FeatureFlags.Pattern

open Unicode CodeSet

/-! ## Parts of a text -/

/-- So many steps of a relation in a row. -/
def Times (R : Nat → Nat → Prop) : Nat → Nat → Nat → Prop
  | 0 => fun i j => i = j
  | n + 1 => fun i k => ∃ j, R i j ∧ Times R n j k

/-- The character in front of a place, `first` being in front of the whole text. -/
def charBefore (first : Option Char) (text : List Char) : Nat → Option Char
  | 0 => first
  | i + 1 => text[i]?

mutual

/-- The expression matches the part of a text from one place to another. -/
def Regex.Spans (text : List Char) : Regex → Nat → Nat → Prop
  | .empty => fun i j => i = j
  | .chars set => fun i j => j = i + 1 ∧ ∃ c, text[i]? = some c ∧ set.contains c.toNat = true
  | .look l => fun i j =>
    j = i ∧ i ≤ text.length ∧ l.holds (charBefore none text i) text[i]? = true
  | .concat items => Regex.SpansAll text items
  | .alternation branches => Regex.SpansAny text branches
  | .repetition min max inner => fun i j =>
    ∃ n, min ≤ n ∧ (∀ m, max = some m → n ≤ m ∨ n = min) ∧ Times (inner.Spans text) n i j
  | .capture inner => inner.Spans text

/-- The items match one after the other. -/
def Regex.SpansAll (text : List Char) : List Regex → Nat → Nat → Prop
  | [] => fun i j => i = j
  | r :: rest => fun i k => ∃ j, r.Spans text i j ∧ Regex.SpansAll text rest j k

/-- One of the branches matches. -/
def Regex.SpansAny (text : List Char) : List Regex → Nat → Nat → Prop
  | [] => fun _ _ => False
  | r :: rest => fun i j => r.Spans text i j ∨ Regex.SpansAny text rest i j

end

/-! ## Matching goes forward -/

variable {R : Nat → Nat → Prop}

theorem times_add {m n i k : Nat} :
    Times R (m + n) i k ↔ ∃ j, Times R m i j ∧ Times R n j k := by
  induction m generalizing i with
  | zero => simp [Times]
  | succ m ih =>
    rw [Nat.succ_add]
    simp only [Times, ih]
    constructor
    · rintro ⟨a, hia, j, haj, hjk⟩
      exact ⟨j, ⟨a, hia, haj⟩, hjk⟩
    · rintro ⟨j, ⟨a, hia, haj⟩, hjk⟩
      exact ⟨a, hia, j, haj, hjk⟩

/-- The relation leads from a place to itself or to a later one up to the last. -/
def Forward (last : Nat) (R : Nat → Nat → Prop) : Prop :=
  ∀ i j, R i j → i ≤ j ∧ (i < j → j ≤ last)

theorem Forward.times {last : Nat} (h : Forward last R) (n : Nat) : Forward last (Times R n) := by
  induction n with
  | zero =>
    intro i j hij
    have : i = j := hij
    omega
  | succ n ih =>
    rintro i k ⟨j, hij, hjk⟩
    have := h i j hij
    have := ih j k hjk
    omega

/-- Steps that lead nowhere may be left out. -/
theorem Forward.shorten {last : Nat} (h : Forward last R) {n i j : Nat} (hn : Times R n i j) :
    ∃ k ≤ j - i, Times R k i j := by
  induction n generalizing i with
  | zero => exact ⟨0, Nat.zero_le _, hn⟩
  | succ n ih =>
    obtain ⟨m, him, hmj⟩ := hn
    obtain ⟨k, hk, hkj⟩ := ih hmj
    have hle := (h i m him).1
    have hle' := (h.times n m j hmj).1
    rcases Nat.eq_or_lt_of_le hle with rfl | hlt
    · exact ⟨k, hk, hkj⟩
    · exact ⟨k + 1, by omega, m, him, hkj⟩

mutual

theorem forward_spans (text : List Char) : ∀ r : Regex, Forward text.length (r.Spans text)
  | .empty => by
    intro i j hij
    have : i = j := hij
    omega
  | .chars set => by
    rintro i j ⟨rfl, c, hc, -⟩
    have := (List.getElem?_eq_some_iff.1 hc).1
    omega
  | .look l => by
    rintro i j ⟨rfl, -, -⟩
    omega
  | .concat items => forward_spansAll text items
  | .alternation branches => forward_spansAny text branches
  | .repetition min max inner => by
    rintro i j ⟨n, -, -, hn⟩
    exact (forward_spans text inner).times n i j hn
  | .capture inner => forward_spans text inner

theorem forward_spansAll (text : List Char) :
    ∀ items : List Regex, Forward text.length (Regex.SpansAll text items)
  | [] => by
    intro i j hij
    have : i = j := hij
    omega
  | r :: rest => by
    rintro i k ⟨j, hij, hjk⟩
    have := forward_spans text r i j hij
    have := forward_spansAll text rest j k hjk
    omega

theorem forward_spansAny (text : List Char) :
    ∀ branches : List Regex, Forward text.length (Regex.SpansAny text branches)
  | [] => nofun
  | r :: rest => by
    rintro i j (h | h)
    · exact forward_spans text r i j h
    · exact forward_spansAny text rest i j h

end

/-! ## Places as bits -/

theorem testBit_place {p : Bool} {place i : Nat} :
    (if p then 1 <<< place else 0).testBit i = true ↔ i = place ∧ p = true := by
  cases p
  · simp
  · rw [if_pos rfl, Nat.one_shiftLeft, Nat.testBit_two_pow]
    simp [eq_comm]

theorem testBit_placesBefore {test : Char → Bool} {cs : List Char} {place i : Nat} :
    (placesBefore test place cs).testBit i = true ↔
      ∃ d c, i = place + d ∧ cs[d]? = some c ∧ test c = true := by
  induction cs generalizing place with
  | nil => simp [placesBefore]
  | cons a cs ih =>
    rw [placesBefore, Nat.testBit_or, Bool.or_eq_true, testBit_place, ih]
    constructor
    · rintro (⟨rfl, ha⟩ | ⟨d, c, rfl, hd, hc⟩)
      · exact ⟨0, a, rfl, rfl, ha⟩
      · exact ⟨d + 1, c, by omega, hd, hc⟩
    · rintro ⟨_ | d, c, rfl, hd, hc⟩
      · cases hd
        exact .inl ⟨rfl, hc⟩
      · exact .inr ⟨d, c, by omega, hd, hc⟩

theorem testBit_placesWhere {l : Look} {first : Option Char} {cs : List Char} {place i : Nat} :
    (placesWhere l first place cs).testBit i = true ↔
      ∃ d, i = place + d ∧ d ≤ cs.length ∧ l.holds (charBefore first cs d) cs[d]? = true := by
  induction cs generalizing first place with
  | nil =>
    rw [placesWhere, testBit_place]
    constructor
    · rintro ⟨rfl, h⟩
      exact ⟨0, rfl, Nat.le_refl 0, h⟩
    · rintro ⟨d, rfl, hd, h⟩
      obtain rfl : d = 0 := Nat.le_zero.1 hd
      exact ⟨rfl, h⟩
  | cons c cs ih =>
    have hbefore (d : Nat) : charBefore (some c) cs d = charBefore first (c :: cs) (d + 1) := by
      cases d <;> rfl
    rw [placesWhere, Nat.testBit_or, Bool.or_eq_true, testBit_place, ih]
    constructor
    · rintro (⟨rfl, h⟩ | ⟨d, rfl, hd, h⟩)
      · exact ⟨0, rfl, Nat.zero_le _, h⟩
      · exact ⟨d + 1, by omega, Nat.succ_le_succ hd, hbefore d ▸ h⟩
    · rintro ⟨_ | d, rfl, hd, h⟩
      · exact .inl ⟨rfl, h⟩
      · exact .inr ⟨d, by omega, Nat.le_of_succ_le_succ hd, (hbefore d).symm ▸ h⟩

/-! ## What a step reaches -/

/-- From a set of places the step gives the places that the relation leads to. -/
def Reaches (step : Nat → Nat) (R : Nat → Nat → Prop) : Prop :=
  ∀ places j, (step places).testBit j = true ↔ ∃ i, places.testBit i = true ∧ R i j

variable {step : Nat → Nat}

theorem iterate_succ (n places : Nat) :
    iterate step (n + 1) places = iterate step n (step places) := by
  have hstay (h : step places = places) : ∀ n, iterate step n places = places
    | 0 => rfl
    | n + 1 => by rw [iterate, if_pos h]
  rw [iterate]
  split
  · next h => rw [h, hstay h]
  · rfl

/-- The places within so many steps are reached by as many steps that keep what they start from. -/
theorem within_eq_iterate (n places : Nat) :
    within step n places = iterate (fun places => places ||| step places) n places := by
  induction n generalizing places with
  | zero => rfl
  | succ n ih => simp only [within, iterate, ih]

theorem within_succ (n places : Nat) :
    within step (n + 1) places = within step n (places ||| step places) := by
  rw [within_eq_iterate, within_eq_iterate, iterate_succ]

theorem reaches_iterate (h : Reaches step R) (n : Nat) : Reaches (iterate step n) (Times R n) := by
  intro places j
  induction n generalizing places with
  | zero => simp [iterate, Times]
  | succ n ih =>
    rw [iterate_succ, ih]
    simp only [h places, Times]
    constructor
    · rintro ⟨m, ⟨i, hi, him⟩, hmj⟩
      exact ⟨i, hi, m, him, hmj⟩
    · rintro ⟨i, hi, m, him, hmj⟩
      exact ⟨m, ⟨i, hi, him⟩, hmj⟩

theorem testBit_within (h : Reaches step R) {n places j : Nat} :
    (within step n places).testBit j = true ↔
      ∃ i, places.testBit i = true ∧ ∃ k ≤ n, Times R k i j := by
  induction n generalizing places with
  | zero => simp [within, Times]
  | succ n ih =>
    rw [within_succ, ih]
    simp only [Nat.testBit_or, Bool.or_eq_true, h places]
    constructor
    · rintro ⟨i, hi | ⟨m, hm, hmi⟩, k, hk, hij⟩
      · exact ⟨i, hi, k, by omega, hij⟩
      · exact ⟨m, hm, k + 1, by omega, i, hmi, hij⟩
    · rintro ⟨i, hi, _ | k, hk, hij⟩
      · exact ⟨i, .inl hi, 0, Nat.zero_le n, hij⟩
      · obtain ⟨m, him, hmj⟩ := hij
        exact ⟨m, .inr ⟨i, hi, him⟩, k, by omega, hmj⟩

/-- Without an upper bound as many further steps are enough as there are places. -/
theorem reaches_repetition {last : Nat} (hstep : Reaches step R) (hforward : Forward last R)
    (min : Nat) (max : Option Nat) :
    Reaches
      (fun places => within step
        (match max with
        | some max => max - min
        | none => last + 1) (iterate step min places))
      fun i j => ∃ n, min ≤ n ∧ (∀ m, max = some m → n ≤ m ∨ n = min) ∧ Times R n i j := by
  intro places j
  rw [testBit_within hstep]
  simp only [reaches_iterate hstep min places]
  constructor
  · rintro ⟨a, ⟨i, hi, hia⟩, k, hk, haj⟩
    refine ⟨i, hi, min + k, by omega, ?_, times_add.2 ⟨a, hia, haj⟩⟩
    rintro m rfl
    have : k ≤ m - min := hk
    omega
  · rintro ⟨i, hi, n, hmin, hmax, hij⟩
    obtain ⟨d, rfl⟩ := Nat.exists_eq_add_of_le hmin
    obtain ⟨a, hia, haj⟩ := times_add.1 hij
    refine ⟨a, ⟨i, hi, hia⟩, ?_⟩
    cases max with
    | some m =>
      have := hmax m rfl
      exact ⟨d, show d ≤ m - min by omega, haj⟩
    | none =>
      obtain ⟨k, hk, hkj⟩ := hforward.shorten haj
      have := hforward.times k a j hkj
      exact ⟨k, show k ≤ last + 1 by omega, hkj⟩

/-! ## What an expression reaches -/

mutual

theorem reaches_ends (text : List Char) :
    ∀ r : Regex, Reaches ((r.over text).ends text.length) (r.Spans text)
  | .empty => by
    intro places j
    simp [Regex.over, Course.ends, Regex.Spans]
  | .chars set => by
    intro places j
    rw [Regex.over, Course.ends, Nat.testBit_shiftLeft, Nat.testBit_and]
    simp only [Bool.and_eq_true, decide_eq_true_iff, testBit_placesBefore, Regex.Spans]
    constructor
    · rintro ⟨hj, hplace, d, c, hd, hc, htest⟩
      exact ⟨j - 1, hplace, by omega, c, by rwa [hd, Nat.zero_add], htest⟩
    · rintro ⟨i, hi, rfl, c, hc, htest⟩
      exact ⟨Nat.le_add_left 1 i, hi, i, c, by omega, hc, htest⟩
  | .look l => by
    intro places j
    rw [Regex.over, Course.ends, Nat.testBit_and, Bool.and_eq_true, testBit_placesWhere]
    constructor
    · rintro ⟨hplace, d, hd, hle, hl⟩
      obtain rfl : j = d := by omega
      exact ⟨j, hplace, rfl, hle, hl⟩
    · rintro ⟨i, hi, rfl, hle, hl⟩
      exact ⟨hi, j, (Nat.zero_add j).symm, hle, hl⟩
  | .concat items => reaches_endsAll text items
  | .alternation branches => reaches_endsAny text branches
  | .repetition min max inner =>
    reaches_repetition (reaches_ends text inner) (forward_spans text inner) min max
  | .capture inner => reaches_ends text inner

theorem reaches_endsAll (text : List Char) : ∀ items : List Regex,
    Reaches (Course.endsAll text.length (Regex.overAll text items)) (Regex.SpansAll text items)
  | [] => by
    intro places j
    simp [Regex.overAll, Course.endsAll, Regex.SpansAll]
  | r :: rest => by
    intro places k
    rw [Regex.overAll, Course.endsAll, reaches_endsAll text rest]
    simp only [reaches_ends text r places, Regex.SpansAll]
    constructor
    · rintro ⟨j, ⟨i, hi, hij⟩, hjk⟩
      exact ⟨i, hi, j, hij, hjk⟩
    · rintro ⟨i, hi, j, hij, hjk⟩
      exact ⟨j, ⟨i, hi, hij⟩, hjk⟩

theorem reaches_endsAny (text : List Char) : ∀ branches : List Regex,
    Reaches (Course.endsAny text.length (Regex.overAll text branches))
      (Regex.SpansAny text branches)
  | [] => by
    intro places j
    simp [Regex.overAll, Course.endsAny, Regex.SpansAny]
  | r :: rest => by
    intro places j
    rw [Regex.overAll, Course.endsAny, Nat.testBit_or, Bool.or_eq_true, reaches_ends text r,
      reaches_endsAny text rest]
    simp only [Regex.SpansAny]
    constructor
    · rintro (⟨i, hi, h⟩ | ⟨i, hi, h⟩)
      · exact ⟨i, hi, .inl h⟩
      · exact ⟨i, hi, .inr h⟩
    · rintro ⟨i, hi, h | h⟩
      · exact .inl ⟨i, hi, h⟩
      · exact .inr ⟨i, hi, h⟩

end

/-! ## Patterns -/

theorem regex_matchesIn_iff {r : Regex} {text : String} :
    r.matchesIn text = true ↔ ∃ i j, i ≤ text.toList.length ∧ r.Spans text.toList i j := by
  have hplaces (i : Nat) : (1 <<< (text.toList.length + 1) - 1).testBit i = true ↔
      i ≤ text.toList.length := by
    rw [Nat.one_shiftLeft, Nat.testBit_two_pow_sub_one, decide_eq_true_iff, Nat.lt_succ_iff]
  have hends (j : Nat) := reaches_ends text.toList r (1 <<< (text.toList.length + 1) - 1) j
  simp only [hplaces] at hends
  rw [Regex.matchesIn, bne_iff_ne]
  constructor
  · intro h
    obtain ⟨j, hj⟩ := Nat.exists_testBit_of_ne_zero h
    obtain ⟨i, hi, hij⟩ := (hends j).1 hj
    exact ⟨i, j, hi, hij⟩
  · rintro ⟨i, j, hi, hij⟩ hzero
    have := (hends j).2 ⟨i, hi, hij⟩
    rw [hzero, Nat.zero_testBit] at this
    exact Bool.false_ne_true this

/-- A pattern matches a text exactly when its expression spans some part of it. -/
theorem matchesIn_eq_true_iff {pattern text : String} :
    matchesIn pattern text = true ↔
      ∃ r, compile? pattern = some r ∧
        ∃ i j, i ≤ text.toList.length ∧ r.Spans text.toList i j := by
  rw [matchesIn]
  split
  · next r hr => simp [hr, regex_matchesIn_iff]
  · next hr => simp [hr]

/-! ## Sets of characters -/

/-- The code points that there are where a set is complemented. -/
def Modes.top (m : Modes) : Nat := if m.unicode then maxCodePoint else 0xff

mutual

/-- The code point is one of those that are written between square brackets. -/
def SetExpr.Has (m : Modes) (c : Nat) : SetExpr → Prop
  | .literal l => c = l.char.toNat
  | .range first last => first.char.toNat ≤ c ∧ c ≤ last.char.toNat
  | .named k => ∃ s, k.set? m = some s ∧ s.contains c = true
  | .bracketed negated inner => if negated then c ≤ m.top ∧ ¬ inner.Has m c else inner.Has m c
  | .union items => SetExpr.AnyHas m c items
  | .operation .inter left right => left.Has m c ∧ right.Has m c
  | .operation .diff left right => left.Has m c ∧ ¬ right.Has m c
  | .operation .symmDiff left right => Xor (left.Has m c) (right.Has m c)

def SetExpr.AnyHas (m : Modes) (c : Nat) : List SetExpr → Prop
  | [] => False
  | item :: rest => item.Has m c ∨ SetExpr.AnyHas m c rest

end

theorem code?_eq_some {m : Modes} {l : Literal} {n : Nat} (h : m.code? l = some n) :
    n = l.char.toNat := by
  rw [Modes.code?] at h
  split at h
  · exact (Option.some.inj h).symm
  · cases h

theorem contains_negate {m : Modes} {negated : Bool} {s t : CodeSet}
    (h : m.negate negated s = some t) (c : Nat) :
    t.contains c = true ↔
      if negated then c ≤ m.top ∧ ¬ s.contains c = true else s.contains c = true := by
  have ht : t = if negated then s.complement m.top else s := by
    simp only [Modes.negate] at h
    rw [Modes.top]
    split at h
    · next hu => rw [if_pos hu]; exact (Option.some.inj h).symm
    · next hu =>
      rw [if_neg hu]
      exact (Option.some.inj (Option.ite_none_right_eq_some.1 h).2).symm
  subst ht
  cases negated
  · rfl
  · simp [contains_complement]

theorem fold_of_case {m : Modes} (h : m.ignoreCase = false) (s : CodeSet) : m.fold s = s := by
  rw [Modes.fold, h]; rfl

mutual

/-- Where letter case counts, the operators between sets are those of logic. -/
theorem contains_set? {m : Modes} (hcase : m.ignoreCase = false) {c : Nat}
    (hc : c ≤ maxCodePoint) :
    ∀ {e : SetExpr} {s : CodeSet}, e.set? m = some s → (s.contains c = true ↔ e.Has m c)
  | .literal l, s, h => by
    rw [SetExpr.set?, Option.map_eq_some_iff] at h
    obtain ⟨n, hn, rfl⟩ := h
    rw [contains_single, decide_eq_true_iff, code?_eq_some hn, SetExpr.Has]
  | .range first last, s, h => by
    simp only [SetExpr.set?, Option.bind_eq_bind, Option.bind_eq_some_iff, Option.pure_def,
      Option.some.injEq] at h
    obtain ⟨a, ha, b, hb, rfl⟩ := h
    rw [contains_range, code?_eq_some ha, code?_eq_some hb, SetExpr.Has]
    simp
  | .named k, s, h => by
    rw [SetExpr.set?] at h
    simp [SetExpr.Has, h]
  | .bracketed negated inner, s, h => by
    rw [SetExpr.set?, Option.bind_eq_some_iff] at h
    obtain ⟨t, ht, h⟩ := h
    rw [fold_of_case hcase] at h
    rw [contains_negate h, contains_set? hcase hc ht, SetExpr.Has]
  | .union items, s, h => by
    rw [SetExpr.set?, Option.map_eq_some_iff] at h
    obtain ⟨rs, hrs, rfl⟩ := h
    rw [contains_ofRanges, any_sets? hcase hc hrs, SetExpr.Has]
  | .operation op left right, s, h => by
    simp only [SetExpr.set?, Option.bind_eq_bind, Option.bind_eq_some_iff, Option.pure_def,
      Option.some.injEq, fold_of_case hcase] at h
    obtain ⟨a, ha, b, hb, rfl⟩ := h
    have hleft := contains_set? hcase hc ha
    have hright := contains_set? hcase hc hb
    cases op with
    | inter => rw [contains_inter, Bool.and_eq_true, hleft, hright, SetExpr.Has]
    | diff => simp [contains_diff a b hc, SetExpr.Has, ← hleft, ← hright]
    | symmDiff =>
      rw [contains_symmDiff a b hc, SetExpr.Has, ← hleft, ← hright]
      cases a.contains c <;> cases b.contains c <;> simp

theorem any_sets? {m : Modes} (hcase : m.ignoreCase = false) {c : Nat}
    (hc : c ≤ maxCodePoint) : ∀ {items : List SetExpr} {rs : List CodeRange},
      SetExpr.sets? m items = some rs →
        (rs.any (·.contains c) = true ↔ SetExpr.AnyHas m c items)
  | [], rs, h => by
    obtain rfl : [] = rs := Option.some.inj h
    simp [SetExpr.AnyHas]
  | item :: rest, rs, h => by
    simp only [SetExpr.sets?, Option.bind_eq_bind, Option.bind_eq_some_iff, Option.pure_def,
      Option.some.injEq] at h
    obtain ⟨s, hs, ranges, hranges, rfl⟩ := h
    rw [List.any_append, Bool.or_eq_true, any_sets? hcase hc hranges, SetExpr.AnyHas,
      ← contains_set? hcase hc hs]
    rfl

end

/-! ## Patterns without signs -/

/-- The characters that mean something other than themselves in a pattern. -/
def signs : List Char := ['(', ')', '|', '[', '?', '*', '+', '\x7b', '\\', '.', '^', '$']

def Ast.ofChar (c : Char) : Ast := .literal ⟨c, false⟩

def Regex.ofChar (c : Char) : Regex := .chars (.single c.toNat)

theorem next_of_plain (r : Reading) {c : Char} (hc : c ∉ signs) (cs : List Char) :
    r.next (c :: cs) = some { r with branches := r.branches.add (.ofChar c), rest := cs } := by
  unfold Reading.next
  split <;> simp_all [signs, Ast.ofChar]

theorem run_of_plain {cs : List Char} (hcs : ∀ c ∈ cs, c ∉ signs) {room : Nat}
    (hroom : cs.length < room) (names : List (List Char)) (items : List Ast) :
    Reading.run room ⟨[], ⟨[], items⟩, false, names, cs⟩ =
      some (Branches.current ⟨[], (cs.map Ast.ofChar).reverse ++ items⟩) := by
  induction cs generalizing room items with
  | nil =>
    obtain ⟨room, rfl⟩ := Nat.exists_eq_succ_of_ne_zero (Nat.ne_of_gt hroom)
    rfl
  | cons c cs ih =>
    obtain ⟨room, rfl⟩ := Nat.exists_eq_succ_of_ne_zero (Nat.ne_zero_of_lt hroom)
    rw [List.forall_mem_cons] at hcs
    simp only [Reading.run, skipSpace, Bool.false_eq_true, if_false, next_of_plain _ hcs.1]
    rw [Branches.add, ih hcs.2 (Nat.lt_of_succ_lt_succ hroom)]
    simp

/-- The expression of characters that stand for themselves. -/
def Regex.ofChars : List Char → Regex
  | [] => .empty
  | [c] => .ofChar c
  | cs => .concat (cs.map .ofChar)

theorem meanings?_ofChars (cs : List Char) :
    Ast.meanings? .initial (cs.map .ofChar) = some (cs.map .ofChar, .initial) := by
  induction cs with
  | nil => rfl
  | cons c cs ih =>
    have hc : Ast.meaning? .initial (.ofChar c) = some (.ofChar c, .initial) := rfl
    simp [Ast.meanings?, hc, ih]

/-- Two items or more in a row stay as they are. -/
theorem current_of_two {items : List Ast} (h : 2 ≤ items.length) :
    Branches.current ⟨[], items.reverse⟩ = .concat items := by
  unfold Branches.current
  split
  · next hnil => simp_all
  · next hone =>
    have := congrArg List.length hone
    rw [List.length_reverse, List.length_singleton] at this
    omega
  · rw [List.reverse_reverse]

theorem meaning?_of_plain {pattern : String} (h : ∀ c ∈ pattern.toList, c ∉ signs) :
    (parse? pattern).bind (Ast.meaning? .initial) =
      some (.ofChars pattern.toList, .initial) := by
  have hrun := run_of_plain h (Nat.lt_succ_self _) [] []
  rw [List.append_nil] at hrun
  have hdepths (cs : List Char) : Ast.depths (cs.map Ast.ofChar) = 0 := by
    induction cs with
    | nil => rfl
    | cons c cs ih => rw [List.map_cons, Ast.depths, ih]; rfl
  simp only [parse?, Branches.none]
  rw [hrun]
  match hcs : pattern.toList with
  | [] => rfl
  | [c] => rfl
  | a :: b :: cs =>
    have hcurrent : Branches.current ⟨[], ((a :: b :: cs).map Ast.ofChar).reverse⟩ =
        .concat ((a :: b :: cs).map Ast.ofChar) :=
      current_of_two (by simp)
    have hdepth : (Ast.concat ((a :: b :: cs).map Ast.ofChar)).depth ≤ maxDepth := by
      rw [Ast.depth, hdepths]
      decide
    simp only [hcurrent, if_pos hdepth, Option.bind_some]
    rw [Ast.meaning?, meanings?_ofChars]
    rfl

theorem sizes_ofChars (cs : List Char) :
    Regex.sizes (cs.map .ofChar) ≤ 4 * stateSize * cs.length := by
  induction cs with
  | nil => exact Nat.le_refl 0
  | cons c cs ih =>
    have hbytes : (utf8Bytes c.toNat).length ≤ 4 := by
      rw [utf8Bytes]
      split_ifs <;> simp
    have hc : (Regex.ofChar c).size = (utf8Bytes c.toNat).length * stateSize := if_pos rfl
    rw [List.map_cons, Regex.sizes, hc, List.length_cons, Nat.mul_succ]
    have := Nat.mul_le_mul_right stateSize hbytes
    omega

theorem compile?_of_plain {pattern : String} (h : ∀ c ∈ pattern.toList, c ∉ signs)
    (hsize : 4 * stateSize * pattern.toList.length ≤ sizeLimit) :
    compile? pattern = some (.ofChars pattern.toList) := by
  have hsizes := sizes_ofChars pattern.toList
  simp only [compile?, meaning?_of_plain h]
  refine if_pos ?_
  match hcs : pattern.toList with
  | [] => decide
  | [c] =>
    rw [hcs] at hsizes hsize
    exact Nat.le_trans hsizes hsize
  | a :: b :: cs =>
    rw [hcs] at hsizes hsize
    exact Nat.le_trans hsizes hsize

theorem spansAll_ofChars {text cs : List Char} {i j : Nat} :
    Regex.SpansAll text (cs.map .ofChar) i j ↔ j = i + cs.length ∧ cs <+: text.drop i := by
  induction cs generalizing i with
  | nil => simp [Regex.SpansAll, eq_comm]
  | cons c cs ih =>
    simp only [List.map_cons, Regex.SpansAll, Regex.ofChar, Regex.Spans, ih, contains_single,
      decide_eq_true_iff, Char.toNat_inj, List.length_cons]
    constructor
    · rintro ⟨_, ⟨rfl, a, hi, rfl⟩, rfl, hcs⟩
      obtain ⟨hlt, rfl⟩ := List.getElem?_eq_some_iff.1 hi
      rw [List.drop_eq_getElem_cons hlt]
      exact ⟨by omega, List.cons_prefix_cons.2 ⟨rfl, hcs⟩⟩
    · rintro ⟨rfl, hcs⟩
      have hlt : i < text.length := by
        have := hcs.length_le
        rw [List.length_cons, List.length_drop] at this
        omega
      rw [List.drop_eq_getElem_cons hlt, List.cons_prefix_cons] at hcs
      exact ⟨i + 1, ⟨rfl, c, List.getElem?_eq_some_iff.2 ⟨hlt, hcs.1.symm⟩, rfl⟩, by omega, hcs.2⟩

theorem spans_ofChars {text cs : List Char} {i j : Nat} :
    (Regex.ofChars cs).Spans text i j ↔ j = i + cs.length ∧ cs <+: text.drop i := by
  rw [← spansAll_ofChars]
  match cs with
  | [] => rfl
  | [c] => simp [Regex.ofChars, Regex.SpansAll]
  | _ :: _ :: _ => rfl

/-- A pattern without signs matches the texts that it is a part of. -/
theorem matchesIn_of_plain {pattern text : String} (h : ∀ c ∈ pattern.toList, c ∉ signs)
    (hsize : 4 * stateSize * pattern.toList.length ≤ sizeLimit) :
    matchesIn pattern text = true ↔ pattern.toList <:+: text.toList := by
  rw [matchesIn_eq_true_iff, compile?_of_plain h hsize]
  simp only [Option.some.injEq, exists_eq_left', spans_ofChars]
  constructor
  · rintro ⟨i, j, -, -, hdrop⟩
    exact hdrop.isInfix.trans (List.drop_suffix i _).isInfix
  · rintro ⟨before, after, htext⟩
    refine ⟨before.length, _, ?_, rfl, ?_⟩
    · simp [← htext]
    · simp [← htext]

end FeatureFlags.Pattern
