import FeatureFlags.Proofs.Shares

/-!
# Rollouts

A rollout changes the weights of a distribution step by step. The bucket of a target stays what it
is, so where the target is served is a matter of the boundaries alone: it stands before a boundary
exactly if its bucket is below. Raising boundaries moves targets to earlier entries or not at all.

**Results.**
* `ServesAt.lt_iff`: an entry before a boundary is served to the buckets below it.
* `Widened.le_of_servesAt`: where no boundary is lowered, no target moves to a later entry.
* `widening_never_moves_back`: what a change of weights can do to a target.
-/
namespace FeatureFlags.Distribution

/-- The two distributions differ in nothing but the weights and the names of their entries. -/
structure Reweighted (d d' : Distribution) : Prop where
  bucketBy : d'.bucketBy = d.bucketBy
  length : d'.variations.length = d.variations.length

/-- No boundary of the second distribution is lower than it is in the first. -/
structure Widened (d d' : Distribution) : Prop extends Reweighted d d' where
  boundary : ∀ i ≤ d.variations.length, d.boundary i ≤ d'.boundary i

variable {d d' : Distribution} {flag fallback : String} {target : Target} {i j k bucket : Nat}

namespace Reweighted

theorem bucket?_eq (h : d.Reweighted d') (flag : String) (target : Target) (fallback : String) :
    d'.bucket? flag target fallback = d.bucket? flag target fallback := by
  unfold bucket?
  rw [h.bucketBy]

theorem symm (h : d.Reweighted d') : d'.Reweighted d := ⟨h.bucketBy.symm, h.length.symm⟩

/-- A change of weights decides nothing about whether a target is served at all. -/
theorem serve_eq_none_iff (h : d.Reweighted d') :
    d'.serve flag target fallback = none ↔ d.serve flag target fallback = none := by
  rw [serve_eq_none, serve_eq_none, h.bucket?_eq, ← List.length_eq_zero_iff, h.length,
    List.length_eq_zero_iff]

theorem exists_servesAt (h : d.Reweighted d') (hi : d.ServesAt flag target fallback i) :
    ∃ j, d'.ServesAt flag target fallback j := by
  obtain ⟨b, hb, -⟩ := servesAt_iff.1 hi
  have hne : d'.variations ≠ [] :=
    List.ne_nil_of_length_pos (by rw [h.length]; exact Nat.zero_lt_of_lt hi.1)
  exact Distribution.exists_servesAt hne ((h.bucket?_eq flag target fallback).trans hb)

end Reweighted

/-! ## Boundaries -/

theorem boundary_one {first : Share} {rest : List Share} (h : d.variations = first :: rest) :
    d.boundary 1 = first.weight.toNat := by
  simp [boundary, weights, h]

theorem ServesAt.lt_iff (hi : d.ServesAt flag target fallback i)
    (hb : d.bucket? flag target fallback = some bucket) (hk : k < d.variations.length) :
    i < k ↔ bucket < d.boundary k := by
  obtain ⟨b, hb', hends⟩ := servesAt_iff.1 hi
  cases hb'.symm.trans hb
  exact ((endsAt_iff_owns (bucket?_lt hb)).1 hends).lt_iff (by simpa using hk)

/-- A target that stands before a boundary stays before it where that boundary is not lowered. -/
theorem Reweighted.lt_of_servesAt (h : d.Reweighted d') (hi : d.ServesAt flag target fallback i)
    (hj : d'.ServesAt flag target fallback j) (hle : d.boundary k ≤ d'.boundary k) (hik : i < k) :
    j < k := by
  by_cases hk : k < d.variations.length
  · obtain ⟨b, hb, -⟩ := servesAt_iff.1 hi
    have hb' := (h.bucket?_eq flag target fallback).trans hb
    have hlt := (hi.lt_iff hb hk).1 hik
    exact (hj.lt_iff hb' (by rwa [h.length])).2 (by omega)
  · -- every entry stands before `k`
    have hjn := hj.1
    have := h.length
    omega

/-- A variation that no later entry has is served from the first one. -/
theorem servesAt_zero_of_serve {first : Share} {rest : List Share}
    (hd : d.variations = first :: rest) (honly : ∀ share ∈ rest, share.variation ≠ first.variation)
    (hserve : d.serve flag target fallback = some first.variation) :
    d.ServesAt flag target fallback 0 := by
  obtain ⟨i, hi⟩ := exists_servesAt_of_ne_none
    (by rw [hserve]; simp : d.serve flag target fallback ≠ none)
  obtain ⟨share, hshare, hserve'⟩ := hi.serve_eq
  cases i with
  | zero => exact hi
  | succ i =>
    rw [hd, List.getElem?_cons_succ] at hshare
    have hsame := Option.some.inj (hserve'.symm.trans hserve)
    exact absurd hsame (honly share (List.mem_of_getElem? hshare))

theorem Widened.le_of_servesAt (h : d.Widened d') (hi : d.ServesAt flag target fallback i)
    (hj : d'.ServesAt flag target fallback j) : j ≤ i :=
  Nat.le_of_lt_succ (h.lt_of_servesAt hi hj (h.boundary (i + 1) hi.1) (Nat.lt_succ_self i))

theorem Reweighted.exists_servesAt_lt (h : d.Reweighted d') (hle : d.boundary k ≤ d'.boundary k)
    (hbefore : ∃ i < k, d.ServesAt flag target fallback i) :
    ∃ j < k, d'.ServesAt flag target fallback j := by
  obtain ⟨i, hik, hi⟩ := hbefore
  obtain ⟨j, hj⟩ := h.exists_servesAt hi
  exact ⟨j, h.lt_of_servesAt hi hj hle hik, hj⟩

/-- **Widening never moves back.** Let only the weights of a distribution change, and perhaps the
names of its entries. If no boundary is lowered, a target is served by both or by neither, and the
second time by the same entry or an earlier one. If the first entry loses no weight, a target at
that entry stays there, whatever happens to the others, and so does one that is served its variation
where no other entry has that. And a boundary that stays where it is keeps the same targets before
it. -/
theorem widening_never_moves_back (d d' : Distribution) (h : d.Reweighted d') (flag : String)
    (target : Target) (fallback : String) :
    ((∀ i ≤ d.variations.length, d.boundary i ≤ d'.boundary i) →
      d.serve flag target fallback = none ∧ d'.serve flag target fallback = none ∨
        ∃ i j, j ≤ i ∧ d.ServesAt flag target fallback i ∧ d'.ServesAt flag target fallback j) ∧
    (∀ first rest first' rest', d.variations = first :: rest → d'.variations = first' :: rest' →
      first.weight ≤ first'.weight →
      (d.ServesAt flag target fallback 0 → d'.ServesAt flag target fallback 0) ∧
      ((∀ share ∈ rest, share.variation ≠ first.variation) →
        d.serve flag target fallback = some first.variation →
        d'.serve flag target fallback = some first'.variation)) ∧
    ∀ k, d.boundary k = d'.boundary k →
      ((∃ i < k, d.ServesAt flag target fallback i) ↔
        ∃ j < k, d'.ServesAt flag target fallback j) := by
  refine ⟨fun hboundary => ?_, fun first rest first' rest' hd hd' hle => ?_, fun k hk => ?_⟩
  · have hwidened : d.Widened d' := ⟨h, hboundary⟩
    by_cases hnone : d.serve flag target fallback = none
    · exact .inl ⟨hnone, h.serve_eq_none_iff.2 hnone⟩
    · obtain ⟨i, hi⟩ := exists_servesAt_of_ne_none hnone
      obtain ⟨j, hj⟩ := h.exists_servesAt hi
      exact .inr ⟨i, j, hwidened.le_of_servesAt hi hj, hi, hj⟩
  · have hone : d.boundary 1 ≤ d'.boundary 1 := by
      rw [boundary_one hd, boundary_one hd']
      exact UInt32.le_iff_toNat_le.1 hle
    have hstays : d.ServesAt flag target fallback 0 → d'.ServesAt flag target fallback 0 :=
      fun hserves => by
      obtain ⟨j, hj, hserves'⟩ := h.exists_servesAt_lt hone ⟨0, Nat.one_pos, hserves⟩
      cases Nat.lt_one_iff.1 hj
      exact hserves'
    refine ⟨hstays, fun honly hserve => ?_⟩
    obtain ⟨share, hshare, hserve'⟩ := (hstays (servesAt_zero_of_serve hd honly hserve)).serve_eq
    rw [hd'] at hshare
    cases hshare
    exact hserve'
  · exact ⟨h.exists_servesAt_lt hk.le, h.symm.exists_servesAt_lt hk.ge⟩

/-! ## A step of a rollout -/

/-- A rollout in which a new version and a trial share sixty of the buckets. -/
def rollout (fresh : UInt32) : Distribution :=
  (((Distribution.new "identifier").withWeight "new" fresh).withWeight "trial"
    (60 - fresh)).withWeight "old" 40

/-- The user in bucket 46 goes from the trial to the new version; nobody crosses the boundary at
sixty. -/
theorem bob_moves_up :
    (rollout 30).Reweighted (rollout 50) ∧ bucketOf "lamp" "identifier" "bob" = 46 ∧
      (rollout 30).serve "lamp" (.new "bob") "identifier" = some "trial" ∧
      (rollout 50).serve "lamp" (.new "bob") "identifier" = some "new" ∧
      (∃ i j, j ≤ i ∧ (rollout 30).ServesAt "lamp" (.new "bob") "identifier" i ∧
        (rollout 50).ServesAt "lamp" (.new "bob") "identifier" j) ∧
      ((∃ i < 2, (rollout 30).ServesAt "lamp" (.new "bob") "identifier" i) ↔
        ∃ j < 2, (rollout 50).ServesAt "lamp" (.new "bob") "identifier" j) := by
  have hreweighted : (rollout 30).Reweighted (rollout 50) := ⟨rfl, rfl⟩
  have hbefore : (rollout 30).serve "lamp" (.new "bob") "identifier" = some "trial" := by
    decide +kernel
  obtain ⟨hmoves, -, hkeeps⟩ :=
    widening_never_moves_back (rollout 30) (rollout 50) hreweighted "lamp" (.new "bob") "identifier"
  have hboundary : ∀ i ≤ (rollout 30).variations.length,
    (rollout 30).boundary i ≤ (rollout 50).boundary i := by
    decide
  refine ⟨hreweighted, by decide +kernel, hbefore, by decide +kernel, ?_, hkeeps 2 (by decide)⟩
  exact (hmoves hboundary).resolve_left fun hnone => by simp [hbefore] at hnone

end FeatureFlags.Distribution
