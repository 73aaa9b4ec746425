/-!
# Sets of code points

A set is a list of ranges in rising order that do not overlap. Every operation sorts and merges the
ranges that it is given.

**Results.**
* `contains_ofRanges`: building a set keeps exactly the code points of the ranges.
* `contains_union`, `contains_inter`, `contains_complement`, `contains_diff`,
  `contains_symmDiff`: the operations do what they are called.
-/
namespace FeatureFlags.Unicode

/-- The code points from `first` to `last`. -/
structure CodeRange where
  first : Nat
  last : Nat
  deriving DecidableEq, Repr

/-- The greatest code point. -/
def maxCodePoint : Nat := 0x10ffff

def CodeRange.contains (r : CodeRange) (c : Nat) : Bool := r.first ≤ c && c ≤ r.last

@[simp]
theorem CodeRange.contains_eq_true_iff {r : CodeRange} {c : Nat} :
    r.contains c = true ↔ r.first ≤ c ∧ c ≤ r.last := by
  simp [CodeRange.contains]

/-- The ranges rise without overlap, and none is empty. -/
structure Ordered (rs : List CodeRange) : Prop where
  rising : rs.Pairwise fun a b => a.last < b.first
  nonempty : ∀ r ∈ rs, r.first ≤ r.last

theorem Ordered.nil : Ordered [] := ⟨.nil, nofun⟩

theorem Ordered.cons {r : CodeRange} {rs : List CodeRange} (h : Ordered rs)
    (hr : r.first ≤ r.last) (hrs : ∀ s ∈ rs, r.last < s.first) : Ordered (r :: rs) :=
  ⟨.cons hrs h.rising, List.forall_mem_cons.2 ⟨hr, h.nonempty⟩⟩

theorem Ordered.tail {r : CodeRange} {rs : List CodeRange} (h : Ordered (r :: rs)) : Ordered rs :=
  ⟨h.rising.tail, fun s hs => h.nonempty s (List.mem_cons_of_mem r hs)⟩

theorem Ordered.lt {r s : CodeRange} {rs : List CodeRange} (h : Ordered (r :: rs)) (hs : s ∈ rs) :
    r.last < s.first :=
  List.rel_of_pairwise_cons h.rising hs

/-- A set of code points. -/
structure CodeSet where
  ranges : List CodeRange
  ordered : Ordered ranges
  deriving DecidableEq, Repr

namespace CodeSet

instance : Inhabited CodeSet := ⟨⟨[], .nil⟩⟩

def contains (s : CodeSet) (c : Nat) : Bool := s.ranges.any (·.contains c)

/-! ## Building sets -/

/-- Puts a range in front of ranges that begin no earlier, merging what touches. -/
def join (r : CodeRange) : List CodeRange → List CodeRange
  | [] => [r]
  | s :: rest =>
    if s.first ≤ r.last + 1 then join ⟨r.first, max r.last s.last⟩ rest else r :: s :: rest

theorem ordered_join {r : CodeRange} {rs : List CodeRange} (h : Ordered rs)
    (hr : r.first ≤ r.last) : Ordered (join r rs) := by
  induction rs generalizing r with
  | nil => exact Ordered.nil.cons hr nofun
  | cons s rest ih =>
    rw [join]
    split
    · exact ih h.tail (show r.first ≤ max r.last s.last by omega)
    · next hs =>
      have hnonempty := h.nonempty s List.mem_cons_self
      refine h.cons hr (List.forall_mem_cons.2 ⟨by omega, fun t ht => ?_⟩)
      have := h.lt ht
      omega

/-- Merges ranges that are in rising order of their first code point. -/
def merge : List CodeRange → List CodeRange
  | [] => []
  | r :: rest => join r (merge rest)

theorem ordered_merge {rs : List CodeRange} (h : ∀ r ∈ rs, r.first ≤ r.last) :
    Ordered (merge rs) := by
  induction rs with
  | nil => exact .nil
  | cons r rest ih =>
    rw [List.forall_mem_cons] at h
    exact ordered_join (ih h.2) h.1

/-- The ranges that are not empty, in rising order of their first code point. -/
def sorted (rs : List CodeRange) : List CodeRange :=
  (rs.filter fun r => r.first ≤ r.last).mergeSort fun a b => a.first ≤ b.first

@[simp]
theorem mem_sorted {rs : List CodeRange} {r : CodeRange} :
    r ∈ sorted rs ↔ r ∈ rs ∧ r.first ≤ r.last := by
  rw [sorted, List.mem_mergeSort, List.mem_filter, decide_eq_true_iff]

/-- The code points of the ranges, given in any order. -/
def ofRanges (rs : List CodeRange) : CodeSet :=
  ⟨merge (sorted rs), ordered_merge fun _ hr => (mem_sorted.1 hr).2⟩

def single (c : Nat) : CodeSet := ⟨[⟨c, c⟩], Ordered.nil.cons (Nat.le_refl c) nofun⟩

def range (first last : Nat) : CodeSet := ofRanges [⟨first, last⟩]

def union (s t : CodeSet) : CodeSet := ofRanges (s.ranges ++ t.ranges)

/-- The gaps between ranges, from `next` on and up to `top`. -/
def gaps (top next : Nat) : List CodeRange → List CodeRange
  | [] => if next ≤ top then [⟨next, top⟩] else []
  | r :: rest =>
    if top < r.first then if next ≤ top then [⟨next, top⟩] else []
    else if next < r.first then ⟨next, r.first - 1⟩ :: gaps top (r.last + 1) rest
    else gaps top (r.last + 1) rest

theorem gaps_first {top next : Nat} {rs : List CodeRange} (h : Ordered rs)
    (hnext : ∀ r ∈ rs, next ≤ r.first) : ∀ g ∈ gaps top next rs, next ≤ g.first := by
  have hlast : ∀ g ∈ (if next ≤ top then [⟨next, top⟩] else [] : List CodeRange),
      next ≤ g.first := by
    split <;> simp
  induction rs generalizing next with
  | nil => exact hlast
  | cons r rest ih =>
    have hr := hnext r List.mem_cons_self
    have hle := h.nonempty r List.mem_cons_self
    have hrest : ∀ g ∈ gaps top (r.last + 1) rest, r.last + 1 ≤ g.first :=
      ih h.tail (fun s hs => h.lt hs) (by split <;> simp)
    rw [gaps]
    split
    · exact hlast
    · split
      · exact List.forall_mem_cons.2 ⟨Nat.le_refl next, fun g hg => by have := hrest g hg; omega⟩
      · exact fun g hg => by have := hrest g hg; omega

theorem ordered_gaps {top next : Nat} {rs : List CodeRange} (h : Ordered rs) :
    Ordered (gaps top next rs) := by
  have hlast (next : Nat) :
      Ordered (if next ≤ top then [⟨next, top⟩] else [] : List CodeRange) := by
    split
    · next hle => exact Ordered.nil.cons hle nofun
    · exact .nil
  induction rs generalizing next with
  | nil => exact hlast next
  | cons r rest ih =>
    have hle := h.nonempty r List.mem_cons_self
    rw [gaps]
    split
    · exact hlast next
    · split
      · next hlt =>
        refine (ih h.tail).cons (show next ≤ r.first - 1 by omega) fun g hg => ?_
        have := gaps_first h.tail (fun s hs => h.lt hs) g hg
        show r.first - 1 < g.first
        omega
      · exact ih h.tail

/-- The code points up to `top` that are not in the set. -/
def complement (top : Nat) (s : CodeSet) : CodeSet :=
  ⟨gaps top 0 s.ranges, ordered_gaps s.ordered⟩

/-- The parts of a range that lie in the set. -/
def clip (r : CodeRange) (s : CodeSet) : List CodeRange :=
  s.ranges.filterMap fun t =>
    let first := max r.first t.first
    let last := min r.last t.last
    if first ≤ last then some ⟨first, last⟩ else none

def inter (s t : CodeSet) : CodeSet := ofRanges (s.ranges.flatMap (clip · t))

def diff (s t : CodeSet) : CodeSet := s.inter (t.complement maxCodePoint)

/-- The code points in one of the sets and not in both. -/
def symmDiff (s t : CodeSet) : CodeSet := (s.diff t).union (t.diff s)

/-! ## Sets written as text -/

def hexValue (cs : List Char) : Nat :=
  cs.foldl (fun n c => n * 16 +
    (if c.isDigit then c.toNat - '0'.toNat else c.toNat - 'a'.toNat + 10)) 0

/-- The ranges of one word: `a`, `a-b`, or `a/b` for every second code point from `a` to `b`. -/
def rangesOfWord (word : List Char) : List CodeRange :=
  let first := hexValue (word.takeWhile fun c => c != '-' && c != '/')
  match word.dropWhile fun c => c != '-' && c != '/' with
  | '-' :: last => [⟨first, hexValue last⟩]
  | '/' :: last =>
    (List.range ((hexValue last - first) / 2 + 1)).map fun i => ⟨first + 2 * i, first + 2 * i⟩
  | _ => [⟨first, first⟩]

/-- Splits at blanks. -/
def words (word : List Char) : List Char → List (List Char)
  | [] => [word.reverse]
  | ' ' :: cs => word.reverse :: words [] cs
  | c :: cs => words (c :: word) cs

/-- The set that lines of words in hexadecimal list. -/
def ofLines (lines : List String) : CodeSet :=
  ofRanges (lines.flatMap fun line =>
    ((words [] line.toList).filter (!·.isEmpty)).flatMap rangesOfWord)

/-! ## What the sets contain -/

theorem any_join (r : CodeRange) (rs : List CodeRange) (c : Nat) (h : ∀ s ∈ rs, r.first ≤ s.first) :
    (join r rs).any (·.contains c) = (r.contains c || rs.any (·.contains c)) := by
  induction rs generalizing r with
  | nil => rfl
  | cons s rest ih =>
    rw [join]
    split
    · next hs =>
      rw [ih ⟨r.first, max r.last s.last⟩ fun t ht => h t (List.mem_cons_of_mem s ht),
        List.any_cons, ← Bool.or_assoc]
      congr 1
      have := h s List.mem_cons_self
      rw [Bool.eq_iff_iff]
      simp only [Bool.or_eq_true, CodeRange.contains_eq_true_iff]
      omega
    · rfl

theorem mem_join_first {r s : CodeRange} {rs : List CodeRange} {low : Nat} (hr : low ≤ r.first)
    (hrs : ∀ t ∈ rs, low ≤ t.first) (h : s ∈ join r rs) : low ≤ s.first := by
  induction rs generalizing r with
  | nil => rw [join, List.mem_singleton] at h; exact h ▸ hr
  | cons t rest ih =>
    rw [join] at h
    split at h
    · exact ih (r := ⟨r.first, max r.last t.last⟩) hr
        (fun u hu => hrs u (List.mem_cons_of_mem t hu)) h
    · rcases List.mem_cons.1 h with rfl | h
      · exact hr
      · exact hrs s h

theorem merge_first {rs : List CodeRange} {low : Nat} (h : ∀ t ∈ rs, low ≤ t.first) :
    ∀ s ∈ merge rs, low ≤ s.first := by
  induction rs with
  | nil => simp [merge]
  | cons r rest ih =>
    intro s hs
    exact mem_join_first (h r List.mem_cons_self)
      (ih fun t ht => h t (List.mem_cons_of_mem r ht)) hs

theorem any_merge (rs : List CodeRange) (c : Nat) (h : rs.Pairwise fun a b => a.first ≤ b.first) :
    (merge rs).any (·.contains c) = rs.any (·.contains c) := by
  induction rs with
  | nil => rfl
  | cons r rest ih =>
    rw [List.pairwise_cons] at h
    rw [merge, any_join _ _ _ (merge_first h.1), ih h.2, List.any_cons]

theorem contains_ofRanges (rs : List CodeRange) (c : Nat) :
    (ofRanges rs).contains c = rs.any (·.contains c) := by
  have hsorted := @List.pairwise_mergeSort _ (fun a b : CodeRange => decide (a.first ≤ b.first))
    (fun a b d => by simp only [decide_eq_true_iff]; omega)
    (fun a b => by simp only [Bool.or_eq_true, decide_eq_true_iff]; omega)
    (rs.filter fun r => r.first ≤ r.last)
  have hmerge : (ofRanges rs).contains c = (sorted rs).any (·.contains c) :=
    any_merge _ _ (hsorted.imp fun h => by simpa using h)
  rw [hmerge, Bool.eq_iff_iff]
  simp only [List.any_eq_true, mem_sorted, CodeRange.contains_eq_true_iff]
  constructor
  · rintro ⟨r, ⟨hr, _⟩, hc⟩; exact ⟨r, hr, hc⟩
  · rintro ⟨r, hr, hc⟩; exact ⟨r, ⟨hr, by omega⟩, hc⟩

theorem contains_single (c d : Nat) : (single c).contains d = decide (d = c) := by
  rw [Bool.eq_iff_iff]
  simp [contains, single]
  omega

theorem contains_range (first last c : Nat) :
    (range first last).contains c = (first ≤ c && c ≤ last) := by
  rw [range, contains_ofRanges]
  simp [CodeRange.contains]

theorem contains_union (s t : CodeSet) (c : Nat) :
    (s.union t).contains c = (s.contains c || t.contains c) := by
  rw [union, contains_ofRanges, List.any_append]; rfl

theorem any_gaps {top next c : Nat} {rs : List CodeRange} (h : Ordered rs)
    (hnext : ∀ r ∈ rs, next ≤ r.first) :
    (gaps top next rs).any (·.contains c) = true ↔
      next ≤ c ∧ c ≤ top ∧ rs.any (·.contains c) = false := by
  have hlast (next : Nat) :
      (if next ≤ top then [⟨next, top⟩] else [] : List CodeRange).any (·.contains c) = true ↔
        next ≤ c ∧ c ≤ top := by
    split
    · simp
    · simp; omega
  induction rs generalizing next with
  | nil => rw [gaps, hlast]; simp
  | cons r rest ih =>
    have hr := hnext r List.mem_cons_self
    have hle := h.nonempty r List.mem_cons_self
    have hrest : (gaps top (r.last + 1) rest).any (·.contains c) = true ↔
        r.last + 1 ≤ c ∧ c ≤ top ∧ rest.any (·.contains c) = false :=
      ih h.tail fun s hs => h.lt hs
    -- what lies below the first range lies below the others too
    have hbelow (hc : c ≤ r.last) : rest.any (·.contains c) = false := by
      rw [List.any_eq_false]
      intro s hs
      have := h.lt hs
      simp
      omega
    rw [gaps, List.any_cons, Bool.or_eq_false_iff, ← Bool.not_eq_true (r.contains c),
      CodeRange.contains_eq_true_iff]
    split
    · rw [hlast]
      constructor
      · exact fun ⟨hc, htop⟩ => ⟨hc, htop, by omega, hbelow (by omega)⟩
      · exact fun ⟨hc, htop, _⟩ => ⟨hc, htop⟩
    · split
      · rw [List.any_cons, Bool.or_eq_true, CodeRange.contains_eq_true_iff, hrest]
        show next ≤ c ∧ c ≤ r.first - 1 ∨ _ ↔ _
        constructor
        · rintro (⟨hc, hlt⟩ | ⟨hc, htop, hany⟩)
          · exact ⟨hc, by omega, by omega, hbelow (by omega)⟩
          · exact ⟨by omega, htop, by omega, hany⟩
        · rintro ⟨hc, htop, hout, hany⟩
          rcases Nat.lt_or_ge c r.first with hlt | hge
          · exact .inl ⟨hc, by omega⟩
          · exact .inr ⟨by omega, htop, hany⟩
      · rw [hrest]
        constructor
        · exact fun ⟨hc, htop, hany⟩ => ⟨by omega, htop, by omega, hany⟩
        · exact fun ⟨hc, htop, hout, hany⟩ => ⟨by omega, htop, hany⟩

theorem contains_complement (top : Nat) (s : CodeSet) (c : Nat) :
    (s.complement top).contains c = (c ≤ top && !s.contains c) := by
  rw [Bool.eq_iff_iff, contains, complement, any_gaps s.ordered fun _ _ => Nat.zero_le _]
  simp [contains]

theorem contains_inter (s t : CodeSet) (c : Nat) :
    (s.inter t).contains c = (s.contains c && t.contains c) := by
  have hclip (r : CodeRange) :
      (clip r t).any (·.contains c) = true ↔ r.contains c = true ∧ t.contains c = true := by
    simp only [clip, contains, List.any_eq_true, List.mem_filterMap,
      CodeRange.contains_eq_true_iff]
    constructor
    · rintro ⟨u, ⟨v, hv, hu⟩, hc⟩
      split at hu
      · cases hu
        simp only [] at hc
        exact ⟨by omega, v, hv, by omega⟩
      · cases hu
    · rintro ⟨hr, v, hv, hc⟩
      exact ⟨⟨max r.first v.first, min r.last v.last⟩, ⟨v, hv, if_pos (by omega)⟩,
        show max r.first v.first ≤ c ∧ c ≤ min r.last v.last by omega⟩
  rw [inter, contains_ofRanges, List.any_flatMap, Bool.eq_iff_iff, Bool.and_eq_true]
  show s.ranges.any _ = true ↔ s.ranges.any _ = true ∧ _
  simp only [List.any_eq_true (l := s.ranges), hclip]
  exact ⟨fun ⟨r, hr, hrc, hc⟩ => ⟨⟨r, hr, hrc⟩, hc⟩, fun ⟨⟨r, hr, hrc⟩, hc⟩ => ⟨r, hr, hrc, hc⟩⟩

theorem contains_diff (s t : CodeSet) {c : Nat} (hc : c ≤ maxCodePoint) :
    (s.diff t).contains c = (s.contains c && !t.contains c) := by
  rw [diff, contains_inter, contains_complement, decide_eq_true hc, Bool.true_and]

theorem contains_symmDiff (s t : CodeSet) {c : Nat} (hc : c ≤ maxCodePoint) :
    (s.symmDiff t).contains c = (s.contains c ^^ t.contains c) := by
  rw [symmDiff, contains_union, contains_diff s t hc, contains_diff t s hc]
  cases s.contains c <;> cases t.contains c <;> rfl

end CodeSet
end FeatureFlags.Unicode
