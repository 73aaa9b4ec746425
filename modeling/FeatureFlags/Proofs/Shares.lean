import FeatureFlags.Bucket
import Mathlib.Data.Set.Card
import Mathlib.Order.Interval.Finset.Nat

/-!
# The share of each entry

A distribution is walked entry by entry, with a running total of the weights that is cut off where
32 bits end, up to the first total that exceeds the bucket. Without the cut, the totals are
boundaries between the entries: each entry owns the buckets from the sum of the weights before it up
to its own total, and the last one owns the rest as well. There are only a hundred buckets, so the
cut makes no difference.

What a walk finds is a variation, and one variation may stand in several entries. The entry where it
ends is told apart by calling the entries by other names.

**Results.**
* `pickShare_eq_getElem?`: the walk, from any running total, finds the owner of the bucket.
* `endsAt_iff_owns`, `servesAt_iff`: the entry where the walk ends is the owner of the bucket.
* `ncard_endsAt`: how many of the hundred buckets an entry owns.
* `shares_are_exact`: what every distribution hands out.
-/
namespace FeatureFlags

/-! ## Owners -/

/-- The bucket lies between the weights before position `i` and those up to it, or beyond all of
them and `i` is the last position. -/
def Owns (weights : List Nat) (bucket i : Nat) : Prop :=
  i < weights.length ∧ (weights.take i).sum ≤ bucket ∧
    (bucket < (weights.take (i + 1)).sum ∨ i + 1 = weights.length)

instance (weights : List Nat) (bucket i : Nat) : Decidable (Owns weights bucket i) := by
  unfold Owns; infer_instance

section Owns

variable {weights : List Nat} {w bucket i j : Nat}

theorem owns_cons_zero : Owns (w :: weights) bucket 0 ↔ bucket < w ∨ weights = [] := by
  simp [Owns, List.length_eq_zero_iff]

theorem owns_cons_succ :
    Owns (w :: weights) bucket (i + 1) ↔ w ≤ bucket ∧ Owns weights (bucket - w) i := by
  simp only [Owns, List.length_cons, List.take_succ_cons, List.sum_cons]
  omega

theorem exists_owner (h : weights ≠ []) (bucket : Nat) : ∃ i, Owns weights bucket i := by
  induction weights generalizing bucket with
  | nil => exact absurd rfl h
  | cons w rest ih =>
    by_cases hfirst : bucket < w ∨ rest = []
    · exact ⟨0, owns_cons_zero.2 hfirst⟩
    · rw [not_or, Nat.not_lt] at hfirst
      obtain ⟨i, hi⟩ := ih hfirst.2 (bucket - w)
      exact ⟨i + 1, owns_cons_succ.2 ⟨hfirst.1, hi⟩⟩

theorem sum_take_mono (weights : List Nat) (h : i ≤ j) :
    (weights.take i).sum ≤ (weights.take j).sum := by
  induction weights generalizing i j with
  | nil => simp
  | cons w rest ih =>
    cases i with
    | zero => simp
    | succ i =>
      cases j with
      | zero => omega
      | succ j =>
        have := ih (Nat.le_of_succ_le_succ h)
        simp only [List.take_succ_cons, List.sum_cons]
        omega

/-- The owners below a position are those of the buckets below its boundary. -/
theorem Owns.lt_iff (h : Owns weights bucket i) (hj : j < weights.length) :
    i < j ↔ bucket < (weights.take j).sum := by
  obtain ⟨-, hstart, hend⟩ := h
  constructor
  · intro hlt
    have : (weights.take (i + 1)).sum ≤ (weights.take j).sum := sum_take_mono weights hlt
    omega
  · intro hlt
    by_contra hge
    have := sum_take_mono weights (Nat.le_of_not_lt hge)
    omega

theorem Owns.unique (hi : Owns weights bucket i) (hj : Owns weights bucket j) : i = j := by
  have := hi.lt_iff hj.1
  have := hj.lt_iff hi.1
  have := hi.2.1
  have := hj.2.1
  omega

end Owns

/-! ## The walk -/

/-- A total that was cut off is cut off again at the same place, whatever is added to it. -/
theorem addWeight_min (total : Nat) (weight : UInt32) :
    addWeight (min total (UInt32.size - 1)) weight =
      min (total + weight.toNat) (UInt32.size - 1) := by
  unfold addWeight; omega

theorem lt_min_iff_of_lt_bucketCount {bucket : Nat} (hb : bucket < bucketCount) (total : Nat) :
    bucket < min total (UInt32.size - 1) ↔ bucket < total := by
  have : bucketCount ≤ UInt32.size - 1 := by decide
  omega

theorem pickShare_eq_none {bucket total : Nat} {shares : List Distribution.Share} :
    pickShare bucket total shares = none ↔ shares = [] := by
  cases shares with
  | nil => simp [pickShare]
  | cons share rest =>
    rw [pickShare]
    split <;> simp

/-- From a running total that does not exceed the bucket yet, the walk finds the owner of what is
left of the bucket. -/
theorem pickShare_eq_getElem? {bucket total i : Nat} {shares : List Distribution.Share}
    (hb : bucket < bucketCount) (htotal : total ≤ bucket)
    (howns : Owns (shares.map (·.weight.toNat)) (bucket - total) i) :
    pickShare bucket (min total (UInt32.size - 1)) shares = shares[i]? := by
  induction shares generalizing total i with
  | nil => exact absurd howns.1 (by simp)
  | cons share rest ih =>
    rw [List.map_cons] at howns
    have hexceeds := lt_min_iff_of_lt_bucketCount hb (total + share.weight.toNat)
    rw [pickShare, addWeight_min]
    cases i with
    | zero =>
      rcases owns_cons_zero.1 howns with hlt | hrest
      · rw [if_pos (hexceeds.2 (by omega)), List.getElem?_cons_zero]
      · rw [List.map_eq_nil_iff.1 hrest]
        simp [pickShare]
    | succ i =>
      obtain ⟨hle, howns⟩ := owns_cons_succ.1 howns
      have hlt : i < rest.length := by simpa using howns.1
      rw [Nat.sub_sub] at howns
      rw [if_neg (mt hexceeds.1 (by omega)), ih (by omega) howns, List.getElem?_cons_succ,
        List.getElem?_eq_getElem hlt]
      rfl

/-! ## Distributions -/

namespace Distribution

def weights (d : Distribution) : List Nat := d.variations.map (·.weight.toNat)

/-- The sum of the weights before position `i`, which is where the buckets of the entry there
begin. -/
def boundary (d : Distribution) (i : Nat) : Nat := (d.weights.take i).sum

/-- The bucket of a target: that of the attribute that the distribution asks for, and that of the
fallback where the target lacks it. -/
def bucket? (d : Distribution) (flag : String) (target : Target) (fallback : String) : Option Nat :=
  match target.attributeText? d.bucketBy with
  | some value => some (bucketOf flag d.bucketBy value)
  | none => (target.attributeText? fallback).map (bucketOf flag fallback)

/-- The distribution with other names for its entries, by position. -/
def named (d : Distribution) (name : Nat → String) : Distribution :=
  { d with variations := d.variations.mapIdx fun i share => { share with variation := name i } }

/-- The walk for the bucket ends at the entry at position `i`: it finds the name of that one,
whatever the entries are called. -/
def EndsAt (d : Distribution) (bucket i : Nat) : Prop :=
  i < d.variations.length ∧
    ∀ name, (pickShare bucket 0 (d.named name).variations).map (·.variation) = some (name i)

/-- The target is served the entry at position `i`, whatever the entries are called. -/
def ServesAt (d : Distribution) (flag : String) (target : Target) (fallback : String) (i : Nat) :
    Prop :=
  i < d.variations.length ∧ ∀ name, (d.named name).serve flag target fallback = some (name i)

variable {d : Distribution} {flag fallback : String} {target : Target} {bucket i j : Nat}

@[simp] theorem length_weights : d.weights.length = d.variations.length := List.length_map ..

theorem boundary_mono (d : Distribution) (h : i ≤ j) : d.boundary i ≤ d.boundary j :=
  sum_take_mono d.weights h

theorem boundary_succ (hi : i < d.variations.length) :
    d.boundary (i + 1) = d.boundary i + d.variations[i].weight.toNat := by
  have := List.sum_take_succ d.weights i (by simpa using hi)
  simpa [boundary, weights] using this

/-- Beyond the entries there are no further boundaries. -/
theorem lt_length_of_boundary_lt (h : d.boundary i < d.boundary (i + 1)) :
    i < d.variations.length := by
  by_contra hge
  have hall : ∀ k, d.variations.length ≤ k → d.boundary k = d.weights.sum := fun k hk => by
    rw [boundary, List.take_of_length_le (by simpa using hk)]
  rw [hall i (by omega), hall (i + 1) (by omega)] at h
  omega

theorem owns_iff : Owns d.weights bucket i ↔
    i < d.variations.length ∧ d.boundary i ≤ bucket ∧
      (bucket < d.boundary (i + 1) ∨ i + 1 = d.variations.length) := by
  rw [Owns, length_weights]
  rfl

/-! ### Names -/

@[simp] theorem weights_named (name : Nat → String) : (d.named name).weights = d.weights := by
  refine List.ext_getElem? fun i => ?_
  simp [weights, named, Function.comp_def]

@[simp] theorem bucket?_named (name : Nat → String) :
    (d.named name).bucket? flag target fallback = d.bucket? flag target fallback := rfl

/-- A distribution is its own entries under their own names. -/
theorem named_self (d : Distribution) :
    d.named (fun i => (d.variations[i]?.map (·.variation)).getD "") = d := by
  have hentries : d.variations.mapIdx
      (fun i share => { share with variation := (d.variations[i]?.map (·.variation)).getD "" }) =
        d.variations := by
    refine List.ext_getElem? fun i => ?_
    rw [List.getElem?_mapIdx]
    cases d.variations[i]? <;> rfl
  rw [named, hentries]

theorem serve_eq_bind (d : Distribution) (flag : String) (target : Target) (fallback : String) :
    d.serve flag target fallback =
      (d.bucket? flag target fallback).bind fun b =>
      (pickShare b 0 d.variations).map (·.variation) := by
  unfold serve key? bucket?
  cases target.attributeText? d.bucketBy with
  | some value => rfl
  | none => cases target.attributeText? fallback <;> rfl

theorem bucket?_lt (h : d.bucket? flag target fallback = some bucket) : bucket < bucketCount := by
  unfold bucket? at h
  split at h
  · cases h
    exact bucketOf_lt ..
  · obtain ⟨value, -, rfl⟩ := Option.map_eq_some_iff.1 h
    exact bucketOf_lt ..

/-! ### Where the walk ends -/

theorem endsAt_of_owns (hb : bucket < bucketCount) (h : Owns d.weights bucket i) :
    d.EndsAt bucket i := by
  have hi : i < d.variations.length := by simpa using h.1
  refine ⟨hi, fun name => ?_⟩
  have howns : Owns ((d.named name).variations.map (·.weight.toNat)) (bucket - 0) i := by
    have := weights_named (d := d) name
    rw [weights] at this
    rwa [this]
  have hwalk := pickShare_eq_getElem? hb (Nat.zero_le bucket) howns
  rw [Nat.zero_min] at hwalk
  rw [hwalk]
  simp [named, hi]

theorem EndsAt.unique (hi : d.EndsAt bucket i) (hj : d.EndsAt bucket j) : i = j := by
  -- a name that only the entry at `i` has
  have hnames := (hi.2 fun k => if k = i then "here" else "").symm.trans (hj.2 _)
  by_contra hne
  rw [if_pos rfl, if_neg (Ne.symm hne)] at hnames
  simp at hnames

theorem endsAt_iff_owns (hb : bucket < bucketCount) :
    d.EndsAt bucket i ↔ Owns d.weights bucket i := by
  refine ⟨fun h => ?_, endsAt_of_owns hb⟩
  have hne : d.weights ≠ [] :=
    List.ne_nil_of_length_pos (by rw [length_weights]; exact Nat.zero_lt_of_lt h.1)
  obtain ⟨j, hj⟩ := exists_owner hne bucket
  rwa [h.unique (endsAt_of_owns hb hj)]

theorem servesAt_iff : d.ServesAt flag target fallback i ↔
    ∃ b, d.bucket? flag target fallback = some b ∧ d.EndsAt b i := by
  unfold ServesAt
  simp only [serve_eq_bind, bucket?_named]
  cases d.bucket? flag target fallback with
  | none => simp
  | some b => simp [EndsAt]

theorem ServesAt.unique (hi : d.ServesAt flag target fallback i)
    (hj : d.ServesAt flag target fallback j) :
    i = j := by
  obtain ⟨b, hb, hi⟩ := servesAt_iff.1 hi
  obtain ⟨b', hb', hj⟩ := servesAt_iff.1 hj
  cases hb.symm.trans hb'
  exact hi.unique hj

theorem ServesAt.serve_eq (h : d.ServesAt flag target fallback i) :
    ∃ share, d.variations[i]? = some share ∧
      d.serve flag target fallback = some share.variation := by
  obtain ⟨hi, hserve⟩ := h
  refine ⟨d.variations[i], List.getElem?_eq_getElem hi, ?_⟩
  have := hserve fun i => (d.variations[i]?.map (·.variation)).getD ""
  rw [named_self] at this
  rw [this, List.getElem?_eq_getElem hi]
  rfl

theorem exists_servesAt (hne : d.variations ≠ []) {b : Nat}
    (hb : d.bucket? flag target fallback = some b) :
    ∃ i, d.ServesAt flag target fallback i := by
  have hweights : d.weights ≠ [] := mt List.map_eq_nil_iff.1 hne
  obtain ⟨i, hi⟩ := exists_owner hweights b
  exact ⟨i, servesAt_iff.2 ⟨b, hb, endsAt_of_owns (bucket?_lt hb) hi⟩⟩

theorem bucket?_eq_none : d.bucket? flag target fallback = none ↔
    target.attributeText? d.bucketBy = none ∧ target.attributeText? fallback = none := by
  unfold bucket?
  cases target.attributeText? d.bucketBy <;> simp

theorem serve_eq_none : d.serve flag target fallback = none ↔
    d.variations = [] ∨ d.bucket? flag target fallback = none := by
  rw [serve_eq_bind]
  cases d.bucket? flag target fallback with
  | none => simp
  | some b => simp [pickShare_eq_none]

theorem exists_servesAt_of_ne_none (h : d.serve flag target fallback ≠ none) :
    ∃ i, d.ServesAt flag target fallback i := by
  rw [Ne, serve_eq_none, not_or] at h
  obtain ⟨b, hb⟩ := Option.ne_none_iff_exists'.1 h.2
  exact exists_servesAt h.1 hb

/-! ### How many buckets an entry owns -/

/-- The buckets of an entry are an interval. -/
theorem endsAt_setOf (hi : i < d.variations.length) :
    {b | b < bucketCount ∧ d.EndsAt b i} =
      ↑(Finset.Ico (min bucketCount (d.boundary i))
        (if i + 1 = d.variations.length then bucketCount
          else min bucketCount (d.boundary (i + 1)))) := by
  ext b
  rw [Set.mem_ofPred_eq, Finset.coe_Ico, Set.mem_Ico]
  have hends : b < bucketCount ∧ d.EndsAt b i ↔ b < bucketCount ∧ Owns d.weights b i :=
    and_congr_right fun hb => endsAt_iff_owns hb
  rw [hends, owns_iff]
  split <;> omega

theorem ncard_endsAt (hi : i < d.variations.length) :
    {b | b < bucketCount ∧ d.EndsAt b i}.ncard =
      min bucketCount (d.boundary (i + 1)) - min bucketCount (d.boundary i) +
        if i + 1 = d.variations.length then
          bucketCount - min bucketCount (d.boundary d.variations.length)
        else 0 := by
  rw [endsAt_setOf hi, Set.ncard_coe_finset, Nat.card_Ico]
  have : d.boundary i ≤ d.boundary (i + 1) := d.boundary_mono (Nat.le_succ i)
  split
  · next hlast =>
    rw [← hlast]
    omega
  · omega

/-- With weights that add up to the number of buckets, each entry owns as many as its weight
says. -/
theorem ncard_endsAt_of_full (hfull : d.boundary d.variations.length = bucketCount)
    (hi : i < d.variations.length) :
    {b | b < bucketCount ∧ d.EndsAt b i}.ncard = d.variations[i].weight.toNat := by
  have hle : d.boundary (i + 1) ≤ d.boundary d.variations.length := d.boundary_mono hi
  have hsucc := boundary_succ hi
  rw [ncard_endsAt hi, hfull]
  split <;> omega

/-- **Shares are exact.** With the bucket of the attribute that the distribution asks for, or that
of the fallback where the target lacks it, a target is served the one entry between whose boundaries
the bucket lies, and the last entry when the bucket lies beyond all of them; no limit of the running
total is ever felt. So of the hundred buckets each entry owns those between its boundaries, as many
as its weight says where the weights add up to a hundred, and an entry without weight owns none
unless it is the last of weights that fall short. Nothing is served only when there is no entry or
the target has neither attribute. -/
theorem shares_are_exact (d : Distribution) (flag : String) (target : Target) (fallback : String) :
    (∀ b, d.bucket? flag target fallback = some b →
      (∀ i, d.boundary i ≤ b → b < d.boundary (i + 1) →
        d.ServesAt flag target fallback i ∧
          ∀ j, d.boundary j ≤ b → b < d.boundary (j + 1) → j = i) ∧
      (d.variations ≠ [] → d.boundary d.variations.length ≤ b →
        d.ServesAt flag target fallback (d.variations.length - 1))) ∧
    (∀ i, d.ServesAt flag target fallback i →
      (∃ share, d.variations[i]? = some share ∧
        d.serve flag target fallback = some share.variation) ∧
      ∀ j, d.ServesAt flag target fallback j → j = i) ∧
    (target.attributeText? d.bucketBy = none →
      d.serve flag target fallback = { d with bucketBy := fallback }.serve flag target fallback) ∧
    (∀ i, i < d.variations.length →
      {b | b < bucketCount ∧ d.EndsAt b i}.ncard =
        min bucketCount (d.boundary (i + 1)) - min bucketCount (d.boundary i) +
          if i + 1 = d.variations.length then
            bucketCount - min bucketCount (d.boundary d.variations.length)
          else 0) ∧
    (d.boundary d.variations.length = bucketCount →
      ∀ i (hi : i < d.variations.length),
        {b | b < bucketCount ∧ d.EndsAt b i}.ncard = d.variations[i].weight.toNat) ∧
    (∀ i (hi : i < d.variations.length), d.variations[i].weight = 0 →
      d.ServesAt flag target fallback i →
      i + 1 = d.variations.length ∧ d.boundary d.variations.length < bucketCount) ∧
    (d.serve flag target fallback = none ↔
      d.variations = [] ∨
        target.attributeText? d.bucketBy = none ∧ target.attributeText? fallback = none) := by
  refine ⟨fun b hb => ⟨fun i hstart hend => ?_, fun hne hbeyond => ?_⟩,
    fun i hi => ⟨hi.serve_eq, fun j hj => hj.unique hi⟩, fun hlacks => ?_, fun i => ncard_endsAt,
    fun hfull i => ncard_endsAt_of_full hfull, fun i hi hzero hserves => ?_, ?_⟩
  · have howner : ∀ j, d.boundary j ≤ b → b < d.boundary (j + 1) → Owns d.weights b j :=
      fun j hs he =>
      owns_iff.2 ⟨lt_length_of_boundary_lt (by omega), hs, .inl he⟩
    have hi := howner i hstart hend
    exact ⟨servesAt_iff.2 ⟨b, hb, endsAt_of_owns (bucket?_lt hb) hi⟩,
      fun j hs he => (howner j hs he).unique hi⟩
  · have hpos := List.length_pos_of_ne_nil hne
    have := d.boundary_mono (Nat.sub_le d.variations.length 1)
    have hlast : Owns d.weights b (d.variations.length - 1) :=
      owns_iff.2 ⟨by omega, by omega, .inr (by omega)⟩
    exact servesAt_iff.2 ⟨b, hb, endsAt_of_owns (bucket?_lt hb) hlast⟩
  · have hbucket : d.bucket? flag target fallback =
        { d with bucketBy := fallback }.bucket? flag target fallback := by
      unfold bucket?
      rw [hlacks]
      cases target.attributeText? fallback <;> rfl
    rw [serve_eq_bind, serve_eq_bind, hbucket]
  · obtain ⟨b, hb, hends⟩ := servesAt_iff.1 hserves
    have hlt := bucket?_lt hb
    obtain ⟨-, hstart, hend⟩ := owns_iff.1 ((endsAt_iff_owns hlt).1 hends)
    have hsucc := boundary_succ hi
    rw [hzero, UInt32.toNat_zero] at hsucc
    have hlast : i + 1 = d.variations.length := by omega
    rw [← hlast]
    exact ⟨rfl, by omega⟩
  · rw [serve_eq_none, bucket?_eq_none]

/-! ## Weights beyond 32 bits -/

/-- An entry without weight, and two whose weights add up to more than 32 bits. -/
def overfull : Distribution :=
  (((Distribution.new "plan").withWeight "none" 0).withWeight "all" 4294967295).withWeight "spare"
    4294967295

/-- The second entry owns every bucket, so it is served to a target without a plan, whatever bucket
its identifier falls into; the third is left with none. -/
theorem overfull_serves_second :
    overfull.serve "lamp" (.new "ann") "identifier" = some "all" ∧
      {b | b < bucketCount ∧ overfull.EndsAt b 2}.ncard = 0 := by
  obtain ⟨hserves, hfound, -, hcounts, -, -, -⟩ :=
    shares_are_exact overfull "lamp" (.new "ann") "identifier"
  have hlacks : (Target.new "ann").attributeText? "plan" = none := by decide
  have hcarries : (Target.new "ann").attributeText? "identifier" = some "ann" := by decide
  have hbucket : overfull.bucket? "lamp" (.new "ann") "identifier" =
      some (bucketOf "lamp" "identifier" "ann") := by
    unfold bucket?
    rw [show overfull.bucketBy = "plan" from rfl, hlacks, hcarries]
    rfl
  have hlt := bucketOf_lt "lamp" "identifier" "ann"
  have hend : bucketCount ≤ overfull.boundary 2 := by decide
  have hsecond := ((hserves _ hbucket).1 1 (Nat.zero_le _) (Nat.lt_of_lt_of_le hlt hend)).1
  obtain ⟨share, hshare, hserve⟩ := (hfound 1 hsecond).1
  cases hshare
  exact ⟨hserve, (hcounts 2 (by decide)).trans (by decide)⟩

end Distribution
end FeatureFlags
