import FeatureFlags.Proofs.LookupFailure
import Mathlib.Logic.Relation

/-!
# Flags that are missing

A prerequisite whose flag is not found counts as met, and so do the ones after it on its list; the
lists further up go on as before. So a check that is met stays met when flags are lost, wherever
they stand in the graph of prerequisites: a list comes to an end sooner, and never at a flag that is
refused or closes a cycle.

**Results.**
* `Source.Thinned.of_losses`: flags that are removed or can no longer be looked up, one after the
  other, leave some of the flags and all of the segments.
* `Checks.of_thinned`: a check that is met stays met over fewer flags.
* `missing_flags_never_block`: the two together, and what the flag serves.
-/
namespace FeatureFlags

open Segment Course Relation

/-! ## Sources with fewer flags -/

namespace Source

/-- The second source finds some of the flags of the first one, and the same segments. -/
structure Thinned (s t : Source) : Prop where
  flags : ∀ id f, t.lookupFlag id = .ok f → s.lookupFlag id = .ok f
  segments : ∀ id x, s.lookupSegment id = .ok x ↔ t.lookupSegment id = .ok x

/-- A flag is removed, or identifiers that no segment has can no longer be looked up. -/
inductive Loses (s : Source) : Source → Prop where
  | removed (id : String) : Loses s { s with toDefinitions := s.removeFlag id }
  | failing (ids : List String) (message : String)
    (h : ∀ id ∈ ids, s.segments.get? id = none) : Loses s (s.failing ids message)

namespace Thinned

variable {s t u : Source}

theorem refl (s : Source) : s.Thinned s := ⟨fun _ _ => id, fun _ _ => Iff.rfl⟩

theorem trans (h : s.Thinned t) (h' : t.Thinned u) : s.Thinned u :=
  ⟨fun id f hf => h.flags id f (h'.flags id f hf),
    fun id x => (h.segments id x).trans (h'.segments id x)⟩

theorem getFlag (h : s.Thinned t) {id : String} {f : Flag} (hf : t.flags.get? id = some f) :
    s.flags.get? id = some f :=
  lookupFlag_eq_ok.1 (h.flags id f (lookupFlag_eq_ok.2 hf))

theorem getFlag_eq_none (h : s.Thinned t) {id : String} (hf : s.flags.get? id = none) :
    t.flags.get? id = none := by
  cases ht : t.flags.get? id with
  | none => rfl
  | some f => cases hf.symm.trans (h.getFlag ht)

theorem getSegment_eq (h : s.Thinned t) (id : String) : s.segments.get? id = t.segments.get? id :=
  Option.ext fun x => by rw [← lookupSegment_eq_ok, ← lookupSegment_eq_ok, h.segments id x]

theorem acyclic (h : s.Thinned t) (hac : Acyclic s.segments) : Acyclic t.segments :=
  hac.of_refers fun x _ ⟨segment, hs, hy⟩ => ⟨segment, (h.getSegment_eq x).trans hs, hy⟩

end Thinned

theorem Loses.thinned {s t : Source} (h : s.Loses t) : s.Thinned t := by
  cases h with
  | removed gone =>
    refine ⟨fun id f hf => ?_, fun _ _ => Iff.rfl⟩
    rw [lookupFlag_eq_ok] at hf ⊢
    rw [Definitions.removeFlag, Table.get?_erase] at hf
    split at hf
    · cases hf
    · exact hf
  | failing ids message hids =>
    refine ⟨fun id f hf => ?_, fun id x => ?_⟩
    · rw [lookupFlag_failing] at hf
      split at hf
      · cases hf
      · exact hf
    · rw [lookupSegment_failing]
      split
      · next hid => simp [lookupSegment, hids id hid]
      · exact Iff.rfl

theorem Thinned.of_losses {s t : Source} (h : ReflTransGen Loses s t) : s.Thinned t := by
  induction h with
  | refl => exact .refl s
  | tail _ hstep ih => exact ih.trans hstep.thinned

end Source

/-! ## Checks over fewer flags -/

namespace Course

variable {s t : Source} {fallback : String} {target : Target}

/-- What a flag serves, prerequisites apart, does not depend on the other flags. -/
theorem Resolves.of_thinned (h : s.Thinned t) {id : String} {f : Flag}
    (hf : s.flags.get? id = some f) {outcome : Except EvaluationError Variation} {calls : List Call}
    (hr : Resolves s.segments fallback target f outcome calls) :
    Resolves t.segments fallback target f outcome calls := by
  -- the flags of the one with the segments of the other agree with the first
  let mixed : Definitions := ⟨s.flags, t.segments⟩
  have hag : Scope.all.Agree s.toDefinitions mixed target target :=
    ⟨fun _ _ => rfl, fun id _ => h.getSegment_eq id, rfl, fun _ _ => rfl⟩
  have hclosed := Scope.closed_all s.toDefinitions fallback
  exact hr.transfer hclosed hag (hclosed.flags id f trivial hf)

/-- The induction is on the check over all flags. Where it goes on below a flag or after it, the
check over fewer flags does so on the same path, unless the flag is missing. -/
theorem Checks.of_thinned (h : s.Thinned t) {path : List String} {ps : List Prerequisite}
    {outcome : Except EvaluationError Bool} {calls : List Call}
    (hc : Checks s.toDefinitions fallback target path ps outcome calls) (ho : outcome = .ok true) :
    ∃ calls', Checks t.toDefinitions fallback target path ps (.ok true) calls' := by
  induction hc with
  | done => exact ⟨_, .done⟩
  | cycle => cases ho
  | refused => cases ho
  | stopped _ _ _ _ _ hne => exact absurd ho hne
  | missing hp hf => exact ⟨_, .missing hp (h.getFlag_eq_none hf)⟩
  | @unresolved path p ps f cause calls hp hf hr =>
    cases hf' : t.flags.get? p.flag with
    | none => exact ⟨_, .missing hp hf'⟩
    | some f' =>
      cases hf.symm.trans (h.getFlag hf')
      exact ⟨_, .unresolved hp hf' (hr.of_thinned h hf)⟩
  | @passed path p ps f v outcome _ _ _ hp hf hr hv _ _ ihnested ihrest =>
    cases hf' : t.flags.get? p.flag with
    | none => exact ⟨_, .missing hp hf'⟩
    | some f' =>
      cases hf.symm.trans (h.getFlag hf')
      obtain ⟨calls', hnested⟩ := ihnested rfl
      obtain ⟨calls'', hrest⟩ := ihrest ho
      exact ⟨_, .passed hp hf' (hr.of_thinned h hf) hv hnested hrest⟩

end Course

namespace Evaluator

variable {e e' : Evaluator} {target : Target}

theorem met_of_thinned (h : e.source.Thinned e'.source) (hconfig : e.config = e'.config)
    (hac : Acyclic e.source.segments) {f : Flag}
    (hmet : (e.checkPrerequisites f target).value = .ok true) :
    (e'.checkPrerequisites f target).value = .ok true := by
  obtain ⟨calls, hc⟩ := (checks_iff hac target f).2 hmet
  rw [hconfig] at hc
  exact (checks_iff (h.acyclic hac) target f).1 (hc.of_thinned h rfl)

/-- A flag whose check is met serves what it resolves to. -/
theorem value_evaluate_of_met {id : String} {f : Flag} (hf : e.source.flags.get? id = some f)
    (hmet : (e.checkPrerequisites f target).value = .ok true) (kind : Flag.Kind) :
    (e.evaluate id target kind).value =
      if f.kind = kind then (e.resolve f target).value
      else .error (.kindMismatch id kind f.kind) := by
  rw [value_evaluate, hf]
  dsimp only
  rw [value_serve, hmet]

theorem value_evaluate_of_thinned (h : e.source.Thinned e'.source) (hconfig : e.config = e'.config)
    (hac : Acyclic e.source.segments) {id : String} {f : Flag}
    (hf : e'.source.flags.get? id = some f)
    (hmet : (e.checkPrerequisites f target).value = .ok true)
    (kind : Flag.Kind) :
    (e'.evaluate id target kind).value = (e.evaluate id target kind).value := by
  have hkept := h.getFlag hf
  have hmet' := met_of_thinned h hconfig hac hmet
  obtain ⟨calls, hr⟩ := (resolves_iff hac target f).2 (Eq.refl (e.resolve f target).value)
  have hr' := hr.of_thinned h hkept
  rw [hconfig] at hr'
  rw [value_evaluate_of_met hf hmet', value_evaluate_of_met hkept hmet,
    resolve_of_resolves (h.acyclic hac) hr']

/-- **Missing flags do not block.** Where a source finds the same segments as another one and of its
flags only some, the check of a flag that is met over all flags is met over these few; neither is it
unmet, nor does it come upon a cycle. A flag that is kept is then evaluated to the same. So it is
for the flags that are left when others are removed or can no longer be looked up, however many, one
after the other. -/
theorem missing_flags_never_block (e e' : Evaluator) (target : Target)
    (hac : Acyclic e.source.segments) (h : e.source.Thinned e'.source)
    (hconfig : e.config = e'.config) (f : Flag)
    (hmet : (e.checkPrerequisites f target).value = .ok true) :
    (e'.checkPrerequisites f target).value = .ok true ∧
      (e'.source.lookupFlag f.identifier = .ok f → ∀ kind,
        (e'.evaluate f.identifier target kind).value =
          (e.evaluate f.identifier target kind).value) ∧
      ∀ s, ReflTransGen Source.Loses e.source s →
        ((e.withSource s).checkPrerequisites f target).value = .ok true := by
  refine ⟨met_of_thinned h hconfig hac hmet, fun hf kind => ?_, fun s hs => ?_⟩
  · exact value_evaluate_of_thinned h hconfig hac (Source.lookupFlag_eq_ok.1 hf) hmet kind
  · have hlost : e.source.Thinned (e.withSource s).source := .of_losses hs
    exact met_of_thinned hlost rfl hac hmet

/-! ## A bridge without its ends -/

/-- A flag that waits for both ends of a bridge. -/
def bridgeFlag : Flag :=
  ((Flag.boolean "bridge").withPrerequisite ⟨"north", ["false"]⟩).withPrerequisite
    ⟨"south", ["false"]⟩

/-- The flags of a bridge, of which the south end hangs on a cable. -/
def bridge : Evaluator :=
  .ofSnapshot
    ⟨[bridgeFlag, Flag.boolean "north",
      (Flag.boolean "south").withPrerequisite ⟨"cable", ["false"]⟩, Flag.boolean "cable"], []⟩

/-- What is left of the bridge without its north end, and while the cable cannot be looked up. -/
def fallenBridge : Source :=
  ({ bridge.source with toDefinitions := bridge.source.removeFlag "north" } : Source).failing
    ["cable"] "timeout"

theorem fallenBridge_lost : ReflTransGen Source.Loses bridge.source fallenBridge :=
  (ReflTransGen.single (.removed "north")).tail (.failing ["cable"] "timeout" (by decide))

theorem bridge_met (target : Target) :
    (bridge.checkPrerequisites bridgeFlag target).value = .ok true := by
  have hsouth : Checks bridge.source.toDefinitions bridge.config.bucketFallback target
      ["bridge", "south"] [⟨"cable", ["false"]⟩] (.ok true) _ :=
    .passed (by decide) rfl (.off rfl) (by decide) .done .done
  exact (checks_iff acyclic_empty target bridgeFlag).1
    ⟨_, .passed (by decide) rfl (.off rfl) (by decide) .done
      (.passed (by decide) rfl (.off rfl) (by decide) hsouth .done)⟩

/-- The bridge stays open when one end is gone and the cable of the other cannot be found. -/
theorem fallenBridge_is_met :
    Acyclic bridge.source.segments ∧ bridge.source.Thinned fallenBridge ∧
      (bridge.checkPrerequisites bridgeFlag (.new "ann")).value = .ok true ∧
      fallenBridge.lookupFlag "north" = .error (.flagNotFound "north") ∧
      fallenBridge.lookupFlag "cable" = .error (.query "timeout") ∧
      fallenBridge.lookupFlag "bridge" = .ok bridgeFlag ∧
      ((bridge.withSource fallenBridge).checkPrerequisites bridgeFlag (.new "ann")).value =
        .ok true ∧
      ((bridge.withSource fallenBridge).evaluate "bridge" (.new "ann") .boolean).value =
        (bridge.evaluate "bridge" (.new "ann") .boolean).value ∧
      ReflTransGen Source.Loses bridge.source fallenBridge := by
  have hthinned : bridge.source.Thinned fallenBridge := .of_losses fallenBridge_lost
  have h := missing_flags_never_block bridge (bridge.withSource fallenBridge)
    (.new "ann") acyclic_empty hthinned
    rfl bridgeFlag (bridge_met _)
  exact ⟨acyclic_empty, hthinned, bridge_met _, rfl, rfl, rfl, h.2.2 _ fallenBridge_lost,
    h.2.1 rfl .boolean, fallenBridge_lost⟩

end Evaluator
end FeatureFlags
