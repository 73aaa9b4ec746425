import FeatureFlags.Proofs.Dependencies

/-!
# Prerequisites on their own

While a flag is checked, the prerequisites of a prerequisite are checked on a path that leads to it
from that flag. Evaluated on its own, the prerequisite starts a path of its own, with fewer flags
that would close a cycle. A check that comes to an answer on the longer path comes to the same one
on the shorter path, so a prerequisite that is found met serves an allowed variation to whoever asks
for it.

**Results.**
* `Checks.of_subset`: an answer stays when flags are taken off the path.
* `entry_of_met`: what a check that is met has found out about a prerequisite on its list.
* `evaluate_of_met`: a prerequisite that is met serves an allowed variation on its own.
-/
namespace FeatureFlags

open Segment

namespace Course

variable {defs : Definitions} {target : Target} {fallback : String}

/-- Flags that are off the longer path are off the shorter one; a cycle is the only outcome that
this takes away. -/
theorem Checks.of_subset {path : List String} {ps : List Prerequisite}
    {outcome : Except EvaluationError Bool} {calls : List Call}
    (h : Checks defs fallback target path ps outcome calls) {b : Bool} (ho : outcome = .ok b)
    {path' : List String} (hsub : path' ⊆ path) :
    ∃ calls', Checks defs fallback target path' ps (.ok b) calls' := by
  have happend : ∀ {path path' : List String} (id : String), path' ⊆ path →
      path' ++ [id] ⊆ path ++ [id] := fun id hsub =>
    List.append_subset.2 ⟨List.subset_append_of_subset_left _ hsub, List.subset_append_right _ _⟩
  induction h generalizing b path' with
  | done =>
    cases ho
    exact ⟨_, .done⟩
  | cycle hp => cases ho
  | missing hp hf =>
    cases ho
    exact ⟨_, .missing (fun hmem => hp (hsub hmem)) hf⟩
  | unresolved hp hf hr =>
    cases ho
    exact ⟨_, .unresolved (fun hmem => hp (hsub hmem)) hf hr⟩
  | refused hp hf hr hv =>
    cases ho
    exact ⟨_, .refused (fun hmem => hp (hsub hmem)) hf hr hv⟩
  | @stopped path p ps f v outcome _ _ hp hf hr hv nested hne ih =>
    obtain ⟨calls', hnested⟩ := ih ho (happend p.flag hsub)
    exact ⟨_, .stopped (fun hmem => hp (hsub hmem)) hf hr hv hnested (ho ▸ hne)⟩
  | @passed path p ps f v outcome _ _ _ hp hf hr hv nested rest ihn ih =>
    obtain ⟨calls', hnested⟩ := ihn rfl (happend p.flag hsub)
    obtain ⟨calls'', hrest⟩ := ih ho hsub
    exact ⟨_, .passed (fun hmem => hp (hsub hmem)) hf hr hv hnested hrest⟩

end Course

open Course

namespace Evaluator

variable {e : Evaluator} {target : Target}

/-- What a check that is met has found out about the first prerequisite on its list. -/
theorem head_of_met (hac : Acyclic e.source.segments) {path : List String} {p : Prerequisite}
    {ps : List Prerequisite} {calls : List Call}
    (h : Checks e.source.toDefinitions e.config.bucketFallback target path (p :: ps)
      (.ok true) calls)
    (hres : e.Resolvable target p.flag) :
    ∃ f v calls' calls'', e.source.flags.get? p.flag = some f ∧
      (e.resolve f target).value = .ok v ∧ v.identifier ∈ p.variations ∧
      Checks e.source.toDefinitions e.config.bucketFallback target (path ++ [p.flag]) f.requirements
        (.ok true)
        calls' ∧
      Checks e.source.toDefinitions e.config.bucketFallback target path ps (.ok true) calls'' := by
  cases h with
  | missing hp hf => exact absurd hres (not_resolvable_of_missing hf)
  | unresolved hp hf hr => exact absurd hres (not_resolvable_of_error hac hf hr)
  | stopped hp hf hr hv nested hne => exact absurd rfl hne
  | passed hp hf hr hv nested rest =>
    exact ⟨_, _, _, _, hf, resolve_of_resolves hac hr, hv, nested, rest⟩

/-- As long as the flags on the list resolve, a check that is met has been through all of them. -/
theorem entry_of_met (hac : Acyclic e.source.segments) {path : List String} {p : Prerequisite}
    {before after : List Prerequisite} {calls : List Call}
    (h : Checks e.source.toDefinitions e.config.bucketFallback target path (before ++ p :: after)
      (.ok true) calls)
    (hall : ∀ q ∈ before ++ [p], e.Resolvable target q.flag) :
    ∃ f v calls', e.source.flags.get? p.flag = some f ∧ (e.resolve f target).value = .ok v ∧
      v.identifier ∈ p.variations ∧
      Checks e.source.toDefinitions e.config.bucketFallback target (path ++ [p.flag]) f.requirements
        (.ok true)
        calls' := by
  induction before generalizing calls with
  | nil =>
    obtain ⟨f, v, calls', -, hf, hr, hv, hnested, -⟩ := head_of_met hac h (hall p (by simp))
    exact ⟨f, v, calls', hf, hr, hv, hnested⟩
  | cons q before ih =>
    obtain ⟨-, -, -, calls'', -, -, -, -, hrest⟩ := head_of_met hac h (hall q (by simp))
    exact ih hrest fun r hr => hall r (List.mem_cons_of_mem q hr)

theorem checkFrom_of_subset (hac : Acyclic e.source.segments) {path path' : List String}
    (hsub : path' ⊆ path) {flag : String} {ps : List Prerequisite} {b : Bool}
    (h : (e.checkFrom target path flag ps).value = .ok b) :
    (e.checkFrom target path' flag ps).value = .ok b := by
  obtain ⟨calls, hc⟩ := exists_checks hac target _ path rfl flag ps
  obtain ⟨calls', hc'⟩ := hc.of_subset h hsub
  exact checkFrom_of_checks hac hc' flag

/-- **A prerequisite that is met is met for everybody.** Where a stored flag's prerequisites are
met, each of them that stands before the first which is not stored or does not resolve serves,
evaluated on its own as the kind of flag it is, one of the variations that it has to. For an answer
on a path is the answer on every path of some of the same flags. -/
theorem evaluate_of_met (e : Evaluator) (target : Target) (hkeyed : e.source.Keyed)
    (hac : Acyclic e.source.segments) (f : Flag)
    (hmet : (e.checkPrerequisites f target).value = .ok true) :
    (∀ before p after, f.requirements = before ++ p :: after →
      (∀ q ∈ before ++ [p], e.Resolvable target q.flag) →
      ∃ g v, e.source.flags.get? p.flag = some g ∧
        (e.evaluate p.flag target g.kind).value = .ok v ∧ v.identifier ∈ p.variations) ∧
    ∀ (g : Flag) (path path' : List String) (b : Bool), path' ⊆ path →
      (e.checkFrom target path g.identifier g.requirements).value = .ok b →
      (e.checkFrom target path' g.identifier g.requirements).value = .ok b := by
  refine ⟨fun before p after hps hall => ?_,
    fun g path path' b hsub h => checkFrom_of_subset hac hsub h⟩
  obtain ⟨calls, h⟩ := (checks_iff hac target f).2 hmet
  rw [hps] at h
  obtain ⟨g, v, calls', hg, hv, hmem, hnested⟩ := entry_of_met hac h hall
  refine ⟨g, v, hg, ?_, hmem⟩
  have hid : g.identifier = p.flag := hkeyed.flags hg
  have hsub : [g.identifier] ⊆ [f.identifier] ++ [p.flag] := by simp [hid]
  have hcheck : (e.checkPrerequisites g target).value = .ok true :=
    (checks_iff hac target g).1 (hnested.of_subset rfl hsub)
  rw [value_evaluate, hg]
  simp only [if_pos, value_serve, hcheck, hv]

/-- A flag whose first prerequisite has one of its own, and whose second one is missing. -/
def stairsTop : Flag :=
  ((Flag.boolean "top").withPrerequisite ⟨"middle", ["false"]⟩).withPrerequisite
    ⟨"missing", ["true"]⟩

def stairs : Evaluator :=
  .ofSnapshot
    ⟨[stairsTop, (Flag.boolean "middle").withPrerequisite ⟨"bottom", ["false"]⟩,
      Flag.boolean "bottom"], []⟩

theorem stairs_met (target : Target) :
    (stairs.checkPrerequisites stairsTop target).value = .ok true := by
  have hbottom : Checks stairs.source.toDefinitions stairs.config.bucketFallback target
      ["top", "middle"] [⟨"bottom", ["false"]⟩] (.ok true) _ :=
    .passed (by decide) rfl (.off rfl) (by decide) .done .done
  exact (checks_iff acyclic_empty target stairsTop).1
    ⟨_, .passed (by decide) rfl (.off rfl) (by decide) hbottom (.missing (by decide) rfl)⟩

theorem stairs_middle_serves :
    stairs.source.Keyed ∧ Acyclic stairs.source.segments ∧
      (stairs.checkPrerequisites stairsTop (.new "user")).value = .ok true ∧
      ∃ g v, stairs.source.flags.get? "middle" = some g ∧
        (stairs.evaluate "middle" (.new "user") g.kind).value = .ok v ∧
          v.identifier ∈ ["false"] := by
  have hkeyed : stairs.source.Keyed := (Store.ofSnapshot _).keyed
  refine ⟨hkeyed, acyclic_empty, stairs_met _, ?_⟩
  refine (evaluate_of_met stairs (.new "user") hkeyed acyclic_empty stairsTop (stairs_met _)).1 []
    ⟨"middle", ["false"]⟩ [⟨"missing", ["true"]⟩] rfl ?_
  intro q hq
  rw [List.nil_append, List.mem_singleton] at hq
  subst hq
  exact ⟨_, .new "false" "false", rfl, rfl⟩

end Evaluator
end FeatureFlags
