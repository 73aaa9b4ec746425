import FeatureFlags.Proofs.Failures

/-!
# Flags that serve their own variations

A definition mentions variations in several places. Each stage of targeting settles on one of these,
or leaves the choice to the next stage, and the default has a fixed variation at the end. So a flag
in which every one of them is a variation of its own always has one to serve, whatever is wrong with
other definitions; only a cycle of prerequisites can keep it from being served.

**Results.**
* `mem_mentions_of_override`, `mem_mentions_of_rule`, `exists_default`: what each stage settles on
  is mentioned by the definition.
* `WellFormed.settle`: what a well-formed definition mentions is one of its variations.
* `serves_own_variation`: a well-formed flag serves one of its own variations.
-/
namespace FeatureFlags

open Segment

/-! ## The variations that a definition mentions -/

/-- The variations of the shares, and the fixed one. -/
def Serve.mentions (s : Serve) : List String :=
  (s.distribution.elim [] fun d => d.variations.map (·.variation)) ++ s.variation.toList

namespace Flag

/-- The variations that the definition mentions. -/
def mentions (f : Flag) : List String :=
  f.offVariation ::
    (f.defaultServe.mentions ++ (f.rules.getD []).flatMap (fun r => r.serve.mentions) ++
      (f.overrides.getD []).map (·.variation))

/-- The first variation of the flag that has its identifier. -/
def First (f : Flag) (v : Variation) : Prop :=
  ∃ before after, f.variations = before ++ v :: after ∧ ∀ u ∈ before, u.identifier ≠ v.identifier

/-- Every variation that the definition mentions is one of its own, and the default has a fixed
one. -/
structure WellFormed (f : Flag) : Prop where
  named : ∀ id ∈ f.mentions, id ≠ ""
  own : ∀ id ∈ f.mentions, id ∈ f.variations.map (·.identifier)
  default : f.defaultServe.variation.isSome = true

instance (f : Flag) : Decidable f.WellFormed :=
  decidable_of_iff
    ((∀ id ∈ f.mentions, id ≠ "") ∧ (∀ id ∈ f.mentions, id ∈ f.variations.map (·.identifier)) ∧
      f.defaultServe.variation.isSome = true)
    ⟨fun ⟨named, own, default⟩ => ⟨named, own, default⟩, fun h => ⟨h.named, h.own, h.default⟩⟩

variable {f : Flag} {id : String} {v : Variation}

theorem variation?_eq_some_iff : f.variation? id = some v ↔ v.identifier = id ∧ f.First v := by
  simp only [variation?, List.find?_eq_some_iff_append, beq_iff_eq, Bool.not_eq_true',
    beq_eq_false_iff_ne]
  constructor
  · rintro ⟨rfl, before, after, hsplit, hbefore⟩
    exact ⟨rfl, before, after, hsplit, hbefore⟩
  · rintro ⟨rfl, before, after, hsplit, hbefore⟩
    exact ⟨rfl, before, after, hsplit, hbefore⟩

theorem exists_findVariation (h : id ∈ f.variations.map (·.identifier)) :
    ∃ v, f.findVariation id = .ok v ∧ v.identifier = id ∧ f.First v := by
  obtain ⟨u, hu, hname⟩ := List.mem_map.1 h
  have hfound : (f.variation? id).isSome := List.find?_isSome.2 ⟨u, hu, beq_iff_eq.2 hname⟩
  obtain ⟨v, hv⟩ := Option.isSome_iff_exists.1 hfound
  refine ⟨v, ?_, variation?_eq_some_iff.1 hv⟩
  unfold Flag.findVariation
  rw [hv]

theorem mem_mentions_off : f.offVariation ∈ f.mentions := List.mem_cons_self

theorem mem_mentions_of_override {o : Override} (ho : o ∈ f.overrides.getD []) :
    o.variation ∈ f.mentions :=
  List.mem_cons_of_mem _ (List.mem_append_right _ (List.mem_map_of_mem ho))

theorem mem_mentions_of_rule {r : Rule} (hr : r ∈ f.rules.getD []) (hid : id ∈ r.serve.mentions) :
    id ∈ f.mentions :=
  List.mem_cons_of_mem _
    (List.mem_append_left _ (List.mem_append_right _ (List.mem_flatMap.2 ⟨r, hr, hid⟩)))

theorem mem_mentions_of_default (hid : id ∈ f.defaultServe.mentions) : id ∈ f.mentions :=
  List.mem_cons_of_mem _ (List.mem_append_left _ (List.mem_append_left _ hid))

namespace WellFormed

theorem findVariation (h : f.WellFormed) (hid : id ∈ f.mentions) :
    ∃ v, f.findVariation id = .ok v ∧ v.identifier = id ∧ f.First v :=
  exists_findVariation (h.own id hid)

theorem settle (h : f.WellFormed) (hid : id ∈ f.mentions) :
    ∃ v, f.settle (some id) = .ok v ∧ v.identifier = id ∧ f.First v := by
  have hne : ¬ id.isEmpty = true := by simpa using h.named id hid
  simp only [Flag.settle, if_neg hne]
  exact h.findVariation hid

end WellFormed
end Flag

/-! ## What each stage settles on -/

theorem pickShare_mem {bucket total : Nat} {shares : List Distribution.Share}
    {share : Distribution.Share} (h : pickShare bucket total shares = some share) :
    share ∈ shares := by
  induction shares generalizing total with
  | nil => cases h
  | cons s rest ih =>
    rw [pickShare] at h
    split at h
    · exact Option.some.inj h ▸ List.mem_cons_self
    · rcases Option.or_eq_some_iff.1 h with hrest | ⟨-, hlast⟩
      · exact List.mem_cons_of_mem s (ih hrest)
      · exact Option.some.inj hlast ▸ List.mem_cons_self

theorem Distribution.serve_mem {d : Distribution} {flag fallback id : String} {target : Target}
    (h : d.serve flag target fallback = some id) : id ∈ d.variations.map (·.variation) := by
  unfold serve at h
  split at h
  · cases h
  · obtain ⟨share, hshare, rfl⟩ := Option.map_eq_some_iff.1 h
    exact List.mem_map_of_mem (pickShare_mem hshare)

namespace Serve

variable {s : Serve} {d : Distribution} {id : String}

theorem mem_mentions_of_distribution (hd : s.distribution = some d)
    (hid : id ∈ d.variations.map (·.variation)) : id ∈ s.mentions := by
  unfold mentions
  rw [hd]
  exact List.mem_append_left _ hid

theorem mem_mentions_of_variation (hv : s.variation = some id) : id ∈ s.mentions :=
  List.mem_append_right _ (Option.mem_toList.2 hv)

end Serve

namespace Evaluator

variable {e : Evaluator} {target : Target} {flag id : String}

theorem exists_override {os : List Override} (h : (e.overrideFor target os).value = some id) :
    ∃ o ∈ os, o.variation = id := by
  induction os with
  | nil => cases h
  | cons o os ih =>
    rw [value_overrideFor_cons] at h
    split at h
    · exact ⟨o, List.mem_cons_self, Option.some.inj h⟩
    · obtain ⟨o', ho', hid⟩ := ih h
      exact ⟨o', List.mem_cons_of_mem o ho', hid⟩

theorem mem_mentions_of_handOut {s : Serve} (h : e.handOut? flag target s = some (some id)) :
    id ∈ s.mentions := by
  unfold handOut? at h
  split at h
  · next d _ hd =>
      exact Serve.mem_mentions_of_distribution hd (Distribution.serve_mem (Option.some.inj h))
  · next v _ hv => exact Serve.mem_mentions_of_variation (Option.some.inj h ▸ hv)
  · cases h

theorem exists_rule {rs : List Rule} (h : (e.ruleFor flag target rs).value = some id) :
    ∃ r ∈ rs, id ∈ r.serve.mentions := by
  induction rs with
  | nil => cases h
  | cons r rs ih =>
    have hrest : (e.ruleFor flag target rs).value = some id →
      ∃ r' ∈ r :: rs, id ∈ r'.serve.mentions := by
      intro hr
      obtain ⟨r', hr', hid⟩ := ih hr
      exact ⟨r', List.mem_cons_of_mem r hr', hid⟩
    rw [value_ruleFor_cons] at h
    split at h
    · cases hout : e.handOut? flag target r.serve with
      | none => exact hrest (by rwa [hout] at h)
      | some outcome =>
        rw [hout, Option.getD_some] at h
        exact ⟨r, List.mem_cons_self, mem_mentions_of_handOut (h ▸ hout)⟩
    · exact hrest h

/-- A default with a fixed variation settles on one of those that it mentions. -/
theorem exists_default (e : Evaluator) (flag : String) (target : Target) {s : Serve}
    (h : s.variation.isSome = true) :
    ∃ id ∈ s.mentions, e.defaultFor flag target s = some id := by
  obtain ⟨fixed, hfixed⟩ := Option.isSome_iff_exists.1 h
  unfold defaultFor
  cases hd : s.distribution.bind fun d => d.serve flag target e.config.bucketFallback with
  | none => exact ⟨fixed, Serve.mem_mentions_of_variation hfixed, hfixed⟩
  | some id =>
    obtain ⟨d, hdist, hserve⟩ := Option.bind_eq_some_iff.1 hd
    exact ⟨id, Serve.mem_mentions_of_distribution hdist (Distribution.serve_mem hserve), rfl⟩

/-- The stages go from one to the next up to the default, which does not fail. -/
theorem exists_choice (e : Evaluator) (target : Target) {f : Flag}
    (h : f.defaultServe.variation.isSome = true) :
    ∃ id ∈ f.mentions, (e.choose f target).value = some id := by
  rw [value_choose]
  cases f.isOn with
  | false => exact ⟨_, f.mem_mentions_off, rfl⟩
  | true =>
    rw [if_pos rfl]
    cases ho : (e.overrideFor target (f.overrides.getD [])).value with
    | some id =>
      obtain ⟨o, hmem, rfl⟩ := exists_override ho
      exact ⟨_, f.mem_mentions_of_override hmem, rfl⟩
    | none =>
      cases hr : (e.rulesFor f.identifier target (f.rules.getD [])).value with
      | some id =>
        obtain ⟨r, hmem, hid⟩ := exists_rule hr
        exact ⟨id, f.mem_mentions_of_rule (List.mem_mergeSort.1 hmem) hid, rfl⟩
      | none =>
        obtain ⟨id, hid, hd⟩ := exists_default e f.identifier target h
        exact ⟨id, f.mem_mentions_of_default hid, hd⟩

theorem exists_resolve (e : Evaluator) (target : Target) {f : Flag} (h : f.WellFormed) :
    ∃ v, (e.resolve f target).value = .ok v ∧ v.identifier ∈ f.mentions ∧ f.First v := by
  obtain ⟨id, hid, hchoice⟩ := exists_choice e target h.default
  obtain ⟨v, hv, rfl, hfirst⟩ := h.settle hid
  exact ⟨v, by rw [value_resolve, hchoice, hv], hid, hfirst⟩

/-- **A well-formed flag serves its own.** A stored flag that mentions only variations of its own,
with a fixed one for its default, serves one that it mentions: the first of its variations with that
identifier. The only failure is a cycle of prerequisites, and then one can be reached. -/
theorem serves_own_variation (e : Evaluator) (target : Target) (hac : Acyclic e.source.segments)
    (f : Flag) (hf : e.source.flags.get? f.identifier = some f) (hwf : f.WellFormed) :
    (∃ flag chain,
      (e.evaluate f.identifier target f.kind).value = .error (.cyclicPrerequisite flag chain) ∧
        e.source.CycleFrom f.identifier) ∨
      ∃ v, (e.evaluate f.identifier target f.kind).value = .ok v ∧ f.First v ∧
        v.identifier ∈ f.mentions := by
  rw [value_evaluate, hf]
  simp only [if_pos, value_serve]
  cases hcheck : (e.checkPrerequisites f target).value with
  | error cause =>
    obtain ⟨flag, chain, rfl⟩ := cyclic_of_error hac hcheck
    exact .inl ⟨flag, chain, rfl, cycleFrom_of_error hac hf hcheck⟩
  | ok met =>
    right
    cases met with
    | true =>
      obtain ⟨v, hv, hid, hfirst⟩ := exists_resolve e target hwf
      exact ⟨v, hv, hfirst, hid⟩
    | false =>
      obtain ⟨v, hv, hid, hfirst⟩ := hwf.findVariation f.mem_mentions_off
      exact ⟨v, hv, hfirst, hid ▸ f.mem_mentions_off⟩

/-! ## A beacon among wrecks -/

/-- A flag that asks for a segment and a flag, and has a rule whose distribution is empty. -/
def beaconFlag : Flag :=
  (((((Flag.boolean "beacon").withState .on).withOverride
    ((Override.new "false").withSegment "crew")).withRule
    (.new 1 (.ofDistribution (.new "plan")))).withPrerequisite ⟨"fog", ["true"]⟩).withDefaultServe
      ⟨some (((Distribution.new "plan").withWeight "true" 60).withWeight "false" 40), some "true"⟩

/-- The beacon where the segment is missing and the other flag has no variation to serve. -/
def wrecks : Evaluator :=
  .ofSnapshot ⟨[beaconFlag, { Flag.boolean "fog" with offVariation := "mist" }], []⟩

theorem wrecks_cycleFree (id : String) : ¬ wrecks.source.CycleFrom id :=
  Definitions.cycleFree_of_order ["fog", "beacon"] (by decide) id

/-- The beacon serves one of its own variations, whichever share the target falls into. -/
theorem beacon_serves_its_own :
    Acyclic wrecks.source.segments ∧
      wrecks.source.flags.get? "beacon" = some beaconFlag ∧ beaconFlag.WellFormed ∧
      ∃ v, (wrecks.evaluate "beacon" (.new "ann") .boolean).value = .ok v ∧ beaconFlag.First v ∧
        v.identifier ∈ ["false", "true", "false", "true", "false"] := by
  have hwf : beaconFlag.WellFormed := by decide
  refine ⟨acyclic_empty, rfl, hwf, ?_⟩
  have hserves := serves_own_variation wrecks (.new "ann") acyclic_empty beaconFlag rfl hwf
  exact hserves.resolve_left fun ⟨_, _, _, hcycle⟩ => wrecks_cycleFree _ hcycle

end Evaluator
end FeatureFlags
