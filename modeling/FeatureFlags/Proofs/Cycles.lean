import FeatureFlags.Proofs.Failures
import Mathlib.Data.List.Chain

/-!
# Reported cycles

A check that fails names the flags on its path and the one that closes the cycle. A flag is put on
the path while its prerequisites are checked, and taken off before the next one on the list is. So
the path is at any time a trail: each flag on it leads to the next by a prerequisite that the target
is allowed, no flag stands on it twice, and the list that is checked belongs to its last flag. A
failing check has come to the end of a trail that the next prerequisite leads back to.

**Results.**
* `Trail.step`: a prerequisite that is allowed and off the trail makes it longer.
* `exists_trail_of_error`: a check fails only where a trail that goes on from its path closes.
* `reported_cycle_is_real`: the reported chain is a walk from the checked flag into a cycle.
-/
namespace FeatureFlags

open Segment Course Relation

/-- A chain goes on with what its last element is related to. -/
theorem isChain_append_last {r : String → String → Prop} {path : List String} {a b : String}
    (h : path.IsChain r) (ha : path.getLast? = some a) (hab : r a b) : (path ++ [b]).IsChain r := by
  refine h.append (List.isChain_singleton b) fun x hx y hy => ?_
  rw [ha, Option.mem_some_iff] at hx
  rw [List.head?_cons, Option.mem_some_iff] at hy
  rwa [← hx, ← hy]

namespace Evaluator

variable {e : Evaluator} {target : Target}

/-- A prerequisite of flag `a` names flag `b` and allows what `b` serves. -/
def LeadsTo (e : Evaluator) (target : Target) (a b : String) : Prop :=
  ∃ f, e.source.flags.get? a = some f ∧ ∃ p ∈ f.requirements, p.flag = b ∧ e.Allows target p

theorem LeadsTo.requires {a b : String} (h : e.LeadsTo target a b) : e.source.Requires a b := by
  obtain ⟨f, hf, p, hp, hb, -⟩ := h
  exact ⟨f, hf, p, hp, hb⟩

/-- The flags lead from one to the next, none of them twice, and `ps` are prerequisites of the last
one. -/
structure Trail (e : Evaluator) (target : Target) (path : List String) (ps : List Prerequisite) :
    Prop where
  nodup : path.Nodup
  leads : path.IsChain (e.LeadsTo target)
  last : ∃ a f, path.getLast? = some a ∧ e.source.flags.get? a = some f ∧ ps ⊆ f.requirements

namespace Trail

variable {path : List String} {p : Prerequisite} {ps : List Prerequisite}

theorem start {f : Flag} (hf : e.source.flags.get? f.identifier = some f) :
    e.Trail target [f.identifier] f.requirements :=
  ⟨List.nodup_singleton _, List.isChain_singleton _, f.identifier, f, rfl, hf, List.Subset.refl _⟩

theorem of_subset {ps' : List Prerequisite} (h : e.Trail target path ps) (hsub : ps' ⊆ ps) :
    e.Trail target path ps' := by
  obtain ⟨a, f, ha, hf, hps⟩ := h.last
  exact ⟨h.nodup, h.leads, a, f, ha, hf, List.Subset.trans hsub hps⟩

theorem step (h : e.Trail target path (p :: ps)) (hp : p.flag ∉ path) {f : Flag}
    (hf : e.source.flags.get? p.flag = some f) (hallow : e.Allows target p) :
    e.Trail target (path ++ [p.flag]) f.requirements := by
  obtain ⟨a, g, ha, hg, hps⟩ := h.last
  have hleads : e.LeadsTo target a p.flag := ⟨g, hg, p, hps List.mem_cons_self, rfl, hallow⟩
  exact ⟨List.concat_eq_append ▸ List.Nodup.concat hp h.nodup,
    isChain_append_last h.leads ha hleads, p.flag, f, by simp, hf, by simp⟩

/-- The trail together with the next flag, be it allowed or not. -/
theorem isChain_concat (h : e.Trail target path [p]) :
    (path ++ [p.flag]).IsChain e.source.Requires := by
  obtain ⟨a, f, ha, hf, hps⟩ := h.last
  exact isChain_append_last (h.leads.imp fun _ _ => LeadsTo.requires) ha
    ⟨f, hf, p, hps List.mem_cons_self, rfl⟩

theorem cycle (h : e.Trail target path [p]) (hp : p.flag ∈ path) :
    TransGen e.source.Requires p.flag p.flag := by
  have hpair := List.isChain_iff_pairwise.1 (h.isChain_concat.imp fun _ _ => TransGen.single)
  exact (List.pairwise_append.1 hpair).2.2 p.flag hp p.flag (List.mem_singleton_self _)

end Trail

/-- The trail that is closed starts with the path of the check: what was put on the path in between
has been taken off again. -/
theorem exists_trail_of_error (hac : Acyclic e.source.segments) {path : List String}
    {ps : List Prerequisite} {outcome : Except EvaluationError Bool} {calls : List Call}
    (h : Checks e.source.toDefinitions e.config.bucketFallback target path ps outcome calls)
    {cause : EvaluationError} (ho : outcome = .error cause) (htrail : e.Trail target path ps) :
    ∃ walk p, cause = .cyclicPrerequisite p.flag (walk ++ [p.flag]) ∧ path <+: walk ∧
      e.Trail target walk [p] ∧ p.flag ∈ walk := by
  induction h with
  | done | missing | unresolved | refused => cases ho
  | @cycle path p ps hp =>
    cases ho
    exact ⟨path, p, rfl, List.prefix_rfl, htrail.of_subset (by simp), hp⟩
  | @stopped path p ps f v outcome _ _ hp hf hr hv nested hne ih =>
    have hallow : e.Allows target p := ⟨f, v, hf, resolve_of_resolves hac hr, hv⟩
    obtain ⟨walk, q, hcause, hpre, hwalk, hq⟩ := ih ho (htrail.step hp hf hallow)
    exact ⟨walk, q, hcause, (List.prefix_append _ _).trans hpre, hwalk, hq⟩
  | passed hp hf hr hv nested rest ihn ih =>
    exact ih ho (htrail.of_subset (List.subset_cons_self _ _))

/-- **A reported cycle is a real one.** The chain that the check of a stored flag reports starts
with that flag; each flag on it has a prerequisite that names the next; it comes back, with its last
flag and not before, to one that stands on it already; and up to there each flag serves what the
prerequisite that leads to it allows. It is shown with its flags in this order. So a flag from which
no cycle can be reached never evaluates to this error. -/
theorem reported_cycle_is_real (e : Evaluator) (target : Target) (hac : Acyclic e.source.segments)
    (f : Flag) (hf : e.source.flags.get? f.identifier = some f) :
    (∀ flag chain,
      (e.checkPrerequisites f target).value = .error (.cyclicPrerequisite flag chain) →
      ∃ walk, chain = walk ++ [flag] ∧ walk.head? = some f.identifier ∧
        chain.IsChain e.source.Requires ∧ walk.Nodup ∧ flag ∈ walk ∧
        walk.IsChain (e.LeadsTo target) ∧ TransGen e.source.Requires flag flag ∧
        (EvaluationError.cyclicPrerequisite flag chain).message =
          "Cyclic prerequisite on flag '" ++ flag ++ "': " ++
            String.intercalate " -> " (walk ++ [flag])) ∧
    (¬ e.source.CycleFrom f.identifier → ∀ kind flag chain,
      (e.evaluate f.identifier target kind).value ≠ .error (.cyclicPrerequisite flag chain)) := by
  refine ⟨fun flag chain h => ?_, fun hfree kind flag chain h => ?_⟩
  · obtain ⟨calls, hchecks⟩ := (checks_iff hac target f).2 h
    obtain ⟨walk, p, hcause, hpre, hwalk, hp⟩ := exists_trail_of_error hac hchecks rfl (.start hf)
    obtain ⟨rfl, rfl⟩ := EvaluationError.cyclicPrerequisite.inj hcause
    refine ⟨walk, rfl, ?_, hwalk.isChain_concat, hwalk.nodup, hp, hwalk.leads, hwalk.cycle hp, rfl⟩
    obtain ⟨rest, rfl⟩ := hpre
    rfl
  · cases failure_of_evaluate hac hf h with
    | cyclic hcheck => exact hfree (cycleFrom_of_error hac hf hcheck)
    | unservable hu => cases hu

/-! ## A loop off the path -/

/-- A flag that waits for a pair of flags which wait for each other. -/
def loopGate : Flag := (Flag.boolean "gate").withPrerequisite ⟨"hen", ["false"]⟩

def loop : Evaluator :=
  .ofSnapshot
    ⟨[loopGate, (Flag.boolean "hen").withPrerequisite ⟨"egg", ["false"]⟩,
      (Flag.boolean "egg").withPrerequisite ⟨"hen", ["false"]⟩], []⟩

theorem loop_check (target : Target) :
    (loop.checkPrerequisites loopGate target).value =
      .error (.cyclicPrerequisite "hen" ["gate", "hen", "egg", "hen"]) := by
  have hegg : Checks loop.source.toDefinitions loop.config.bucketFallback target
      ["gate", "hen", "egg"] [⟨"hen", ["false"]⟩]
      (.error (.cyclicPrerequisite "hen" ["gate", "hen", "egg", "hen"])) _ :=
    .cycle (by decide)
  have hhen : Checks loop.source.toDefinitions loop.config.bucketFallback target ["gate", "hen"]
      [⟨"egg", ["false"]⟩] (.error (.cyclicPrerequisite "hen" ["gate", "hen", "egg", "hen"])) _ :=
    .stopped (by decide) rfl (.off rfl) (by decide) hegg (by simp)
  exact (checks_iff acyclic_empty target loopGate).1
    ⟨_, .stopped (by decide) rfl (.off rfl) (by decide) hhen (by simp)⟩

/-- The walk runs into a loop that it does not start on; a diamond has no loop to run into. -/
theorem loop_is_reported :
    Acyclic loop.source.segments ∧ loop.source.flags.get? "gate" = some loopGate ∧
      (loop.checkPrerequisites loopGate (.new "user")).value =
        .error (.cyclicPrerequisite "hen" ["gate", "hen", "egg", "hen"]) ∧
      (∃ walk, ["gate", "hen", "egg", "hen"] = walk ++ ["hen"] ∧ walk.head? = some "gate" ∧
        ["gate", "hen", "egg", "hen"].IsChain loop.source.Requires ∧ walk.Nodup ∧ "hen" ∈ walk ∧
        walk.IsChain (loop.LeadsTo (.new "user")) ∧ TransGen loop.source.Requires "hen" "hen") ∧
      ¬ diamond.source.CycleFrom "top" ∧
      ∀ flag chain, (diamond.evaluate "top" (.new "user") .boolean).value ≠
        .error (.cyclicPrerequisite flag chain) := by
  obtain ⟨walk, hchain, hhead, hsteps, hnodup, hmem, hleads, hcycle, -⟩ :=
    (reported_cycle_is_real loop (.new "user") acyclic_empty loopGate rfl).1 _ _ (loop_check _)
  refine ⟨acyclic_empty, rfl, loop_check _,
    ⟨walk, hchain, hhead, hsteps, hnodup, hmem, hleads, hcycle⟩, diamond_cycleFree _, ?_⟩
  exact (reported_cycle_is_real diamond (.new "user") acyclic_empty diamondTop rfl).2
    (diamond_cycleFree _) .boolean

end Evaluator
end FeatureFlags
