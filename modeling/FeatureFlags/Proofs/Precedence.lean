import FeatureFlags.Proofs.MembershipLaw
import FeatureFlags.Proofs.OwnVariations

/-!
# Precedence

A flag that is on tries its overrides, its rules, the distribution of its default and the variation
of its default, in this order; one that is off tries none of them. The first stage that names a
variation is the last that is asked: nothing that stands after it is looked at, so that neither the
result nor what is written on the way depends on it. That holds of an empty name and of one that the
flag does not have, too.

**Results.**
* `overrideFor_of_first`: the overrides after the first one for a target do not count.
* `choose_off`, `choose_congr_of_overridden`, `choose_congr_of_ruled`: what decides, and what does
  not count then.
* `earlier_stages_shadow`: each stage shadows all that come after it.
-/
namespace FeatureFlags

theorem Traced.bind_congr_value {α β : Type} {x : Traced α} {k k' : α → Traced β}
    (h : k x.value = k' x.value) : x >>= k = x >>= k' := by
  show Traced.mk (k x.value).value _ = Traced.mk (k' x.value).value _
  rw [h]

/-! ## Identifiers that are settled on -/

namespace Flag

variable {f : Flag} {id : String}

theorem settle_empty : f.settle (some "") = .error (.noVariationResolved f.identifier) := rfl

theorem settle_of_ne (h : id ≠ "") : f.settle (some id) = f.findVariation id := by
  have hne : ¬ id.isEmpty = true := by simpa using h
  rw [settle, if_neg hne]

theorem findVariation_of_notMem (h : id ∉ f.variations.map (·.identifier)) :
    f.findVariation id = .error (.variationNotFound f.identifier id) := by
  have hnone : f.variation? id = none :=
    List.find?_eq_none.2 fun v hv hid => h (List.mem_map.2 ⟨v, hv, beq_iff_eq.1 hid⟩)
  rw [findVariation, hnone]

end Flag

namespace Evaluator

variable {e : Evaluator} {target : Target} {f : Flag} {o : Override}
  {before after os : List Override}

/-! ## Overrides -/

/-- The override is for the target: it lists the target by its identifier, which is not empty, or
segments of one of which the target is a member. -/
def AppliesTo (e : Evaluator) (target : Target) (o : Override) : Prop :=
  (target.identifier ≠ "" ∧ ∃ refs, o.targets = some refs ∧
    ∃ ref ∈ refs, ref.identifier = target.identifier) ∨
    ∃ segments, o.segments = some segments ∧ e.IsMember target segments

theorem value_overrides_eq_true : (e.overrides target o).value = true ↔ e.AppliesTo target o := by
  rw [value_overrides, Bool.or_eq_true, Override.names, AppliesTo]
  refine or_congr ?_ ?_
  · cases o.targets <;> simp [listsTarget]
  · cases o.segments <;> simp [IsMember]

theorem value_overrides_eq_false (h : ¬ e.AppliesTo target o) :
    (e.overrides target o).value = false := by
  rwa [← value_overrides_eq_true, Bool.not_eq_true] at h

/-- Some override is for the target if and only if there is a first one. -/
theorem exists_first (h : ∃ o ∈ os, e.AppliesTo target o) :
    ∃ before o after, os = before ++ o :: after ∧ e.AppliesTo target o ∧
      ∀ b ∈ before, ¬ e.AppliesTo target b := by
  obtain ⟨o, ho, happlies⟩ := h
  have hfound : (os.find? fun o => (e.overrides target o).value).isSome :=
    List.find?_isSome.2 ⟨o, ho, value_overrides_eq_true.2 happlies⟩
  obtain ⟨first, hfirst⟩ := Option.isSome_iff_exists.1 hfound
  obtain ⟨hvalue, before, after, rfl, hbefore⟩ := List.find?_eq_some_iff_append.1 hfirst
  refine ⟨before, first, after, rfl, value_overrides_eq_true.1 hvalue, fun b hb happlies => ?_⟩
  simpa [value_overrides_eq_true.2 happlies] using hbefore b hb

theorem value_overrideFor_of_first (ho : e.AppliesTo target o)
    (hbefore : ∀ b ∈ before, ¬ e.AppliesTo target b) (after : List Override) :
    (e.overrideFor target (before ++ o :: after)).value = some o.variation := by
  induction before with
  | nil => rw [List.nil_append, value_overrideFor_cons, if_pos (value_overrides_eq_true.2 ho)]
  | cons b before ih =>
    obtain ⟨hb, hbefore⟩ := List.forall_mem_cons.1 hbefore
    rw [List.cons_append, value_overrideFor_cons, value_overrides_eq_false hb,
      if_neg Bool.false_ne_true, ih hbefore]

theorem value_overrideFor_eq_none (h : ∀ o ∈ os, ¬ e.AppliesTo target o) :
    (e.overrideFor target os).value = none := by
  induction os with
  | nil => rfl
  | cons o os ih =>
    obtain ⟨ho, hos⟩ := List.forall_mem_cons.1 h
    rw [value_overrideFor_cons, value_overrides_eq_false ho, if_neg Bool.false_ne_true, ih hos]

/-- The overrides after the first one that is for the target are not asked. -/
theorem overrideFor_of_first (ho : e.AppliesTo target o) (before after later : List Override) :
    e.overrideFor target (before ++ o :: later) = e.overrideFor target (before ++ o :: after) := by
  induction before with
  | nil =>
    rw [List.nil_append, List.nil_append, overrideFor, overrideFor]
    refine Traced.bind_congr_value ?_
    rw [if_pos (value_overrides_eq_true.2 ho), if_pos (value_overrides_eq_true.2 ho)]
  | cons b before ih => rw [List.cons_append, List.cons_append, overrideFor, overrideFor, ih]

/-! ## The stage that decides -/

theorem resolve_congr {f' : Flag} (hid : f'.identifier = f.identifier)
    (hvs : f'.variations = f.variations) (h : e.choose f' target = e.choose f target) :
    e.resolve f' target = e.resolve f target := by
  have hsettle : f'.settle = f.settle := by
    funext resolved
    unfold Flag.settle Flag.findVariation Flag.variation?
    rw [hid, hvs]
  rw [resolve, resolve, h, hsettle]

theorem choose_off (h : f.isOn = false) : e.choose f target = pure (some f.offVariation) := by
  rw [choose, h]
  rfl

theorem choose_on (h : f.isOn = true) :
    e.choose f target =
      e.overrideFor target (f.overrides.getD []) >>= fun found =>
        match found with
        | some id => pure (some id)
        | none =>
          e.rulesFor f.identifier target (f.rules.getD []) >>= fun found =>
            pure (found.or (e.defaultFor f.identifier target f.defaultServe)) := by
  rw [choose, h]
  refine Traced.bind_congr_value ?_
  cases (e.overrideFor target (f.overrides.getD [])).value with
  | some id => rfl
  | none =>
    refine Traced.bind_congr_value ?_
    cases (e.rulesFor f.identifier target (f.rules.getD [])).value <;> rfl

theorem choose_congr_of_overridden {f' : Flag} {id : String} (h : f.isOn = true)
    (h' : f'.isOn = true)
    (hos : e.overrideFor target (f'.overrides.getD []) = e.overrideFor target (f.overrides.getD []))
    (hid : (e.overrideFor target (f.overrides.getD [])).value = some id) :
    e.choose f' target = e.choose f target := by
  rw [choose_on h, choose_on h', hos]
  refine Traced.bind_congr_value ?_
  rw [hid]

theorem choose_congr_of_ruled {f' : Flag} {id : String} (h : f.isOn = true) (h' : f'.isOn = true)
    (hos : f'.overrides = f.overrides)
    (hrs : e.rulesFor f'.identifier target (f'.rules.getD []) =
      e.rulesFor f.identifier target (f.rules.getD []))
    (hid : (e.rulesFor f.identifier target (f.rules.getD [])).value = some id) :
    e.choose f' target = e.choose f target := by
  rw [choose_on h, choose_on h', hos, hrs]
  refine Traced.bind_congr_value ?_
  cases (e.overrideFor target (f.overrides.getD [])).value with
  | some id => rfl
  | none =>
    refine Traced.bind_congr_value ?_
    rw [hid, Option.some_or, Option.some_or]

theorem defaultFor_of_serve {flag : String} {serve : Serve} {d : Distribution} {id : String}
    (hd : serve.distribution = some d)
    (hid : d.serve flag target e.config.bucketFallback = some id) :
    e.defaultFor flag target serve = some id := by
  rw [defaultFor, hd, Option.bind_some, hid, Option.some_or]

theorem defaultFor_of_serve_none {flag : String} {serve : Serve}
    (h : ∀ d, serve.distribution = some d → d.serve flag target e.config.bucketFallback = none) :
    e.defaultFor flag target serve = serve.variation := by
  have hnone : (serve.distribution.bind fun d => d.serve flag target e.config.bucketFallback) =
    none :=
    Option.bind_eq_none_iff.2 h
  rw [defaultFor, hnone, Option.none_or]

/-- **Earlier stages shadow later ones.** What a flag that is off serves depends on none of its
overrides, rules and defaults. For one that is on, the first override for the target decides,
whatever comes after it; where there is none, the rules decide if they give an identifier, whatever
the default serves; then the distribution of the default, and at last its variation. The identifier
that is settled on is final: the empty one is as good as none, and one that the flag does not have
is an error. -/
theorem earlier_stages_shadow (e : Evaluator) (f : Flag) (target : Target) :
    (f.isOn = false →
      (e.resolve f target).value = f.settle (some f.offVariation) ∧
      ∀ overrides rules defaultServe,
        e.resolve { f with overrides, rules, defaultServe } target = e.resolve f target) ∧
    (f.isOn = true → (∃ o ∈ f.overrides.getD [], e.AppliesTo target o) →
      ∃ before o after, f.overrides = some (before ++ o :: after) ∧ e.AppliesTo target o ∧
        (∀ b ∈ before, ¬ e.AppliesTo target b) ∧
        (e.resolve f target).value = f.settle (some o.variation) ∧
        ∀ later rules defaultServe,
          e.resolve { f with overrides := some (before ++ o :: later), rules, defaultServe }
            target = e.resolve f target) ∧
    (f.isOn = true → (∀ o ∈ f.overrides.getD [], ¬ e.AppliesTo target o) →
      (∀ id, (e.rulesFor f.identifier target (f.rules.getD [])).value = some id →
        (e.resolve f target).value = f.settle (some id) ∧
        ∀ defaultServe, e.resolve { f with defaultServe } target = e.resolve f target) ∧
      ((e.rulesFor f.identifier target (f.rules.getD [])).value = none →
        (∀ d id, f.defaultServe.distribution = some d →
          d.serve f.identifier target e.config.bucketFallback = some id →
          (e.resolve f target).value = f.settle (some id)) ∧
        ((∀ d, f.defaultServe.distribution = some d →
            d.serve f.identifier target e.config.bucketFallback = none) →
          (e.resolve f target).value = f.settle f.defaultServe.variation))) ∧
    f.settle none = .error (.noVariationResolved f.identifier) ∧
    f.settle (some "") = .error (.noVariationResolved f.identifier) ∧
    ∀ id, id ≠ "" →
      (id ∉ f.variations.map (·.identifier) →
        f.settle (some id) = .error (.variationNotFound f.identifier id)) ∧
      (id ∈ f.variations.map (·.identifier) →
        ∃ v, f.settle (some id) = .ok v ∧ v.identifier = id ∧ f.First v) := by
  refine ⟨fun hoff => ⟨?_, fun overrides rules defaultServe => ?_⟩, fun hon hsome => ?_,
    fun hon hnone => ⟨fun id hid => ⟨?_, fun defaultServe => ?_⟩,
    fun hrules => ⟨fun d id hd hid => ?_, fun hd => ?_⟩⟩,
    rfl, Flag.settle_empty, fun id hne => ⟨fun hid => ?_, fun hid => ?_⟩⟩
  · rw [value_resolve, choose_off hoff]
    rfl
  · have hoff' : { f with overrides, rules, defaultServe }.isOn = false := hoff
    refine resolve_congr rfl rfl ?_
    rw [choose_off hoff, choose_off hoff']
  · obtain ⟨before, o, after, hsplit, ho, hbefore⟩ := exists_first hsome
    have hos : f.overrides = some (before ++ o :: after) := by
      cases hf : f.overrides with
      | none => simp [hf] at hsplit
      | some os => rw [hf, Option.getD_some] at hsplit; rw [hsplit]
    have hfirst := value_overrideFor_of_first ho hbefore after
    rw [← hsplit] at hfirst
    refine ⟨before, o, after, hos, ho, hbefore, ?_, fun later rules defaultServe => ?_⟩
    · rw [value_resolve, value_choose, if_pos hon, hfirst, Option.some_or, Option.some_or]
    · refine resolve_congr rfl rfl (choose_congr_of_overridden hon hon ?_ hfirst)
      rw [hsplit]
      exact overrideFor_of_first ho before after later
  · rw [value_resolve, value_choose, if_pos hon, value_overrideFor_eq_none hnone, hid,
      Option.none_or, Option.some_or]
  · exact resolve_congr rfl rfl (choose_congr_of_ruled hon hon rfl rfl hid)
  · rw [value_resolve, value_choose, if_pos hon, value_overrideFor_eq_none hnone, hrules,
      Option.none_or, Option.none_or, defaultFor_of_serve hd hid]
  · rw [value_resolve, value_choose, if_pos hon, value_overrideFor_eq_none hnone, hrules,
      Option.none_or, Option.none_or, defaultFor_of_serve_none hd]
  · rw [Flag.settle_of_ne hne, Flag.findVariation_of_notMem hid]
  · rw [Flag.settle_of_ne hne]
    exact Flag.exists_findVariation hid

/-! ## An override without a variation -/

/-- A flag that is on for everybody, with an override that gives one target the empty identifier. -/
def blankFlag : Flag :=
  ((((Flag.boolean "blank").withState .on).withOverride
    ((Override.new "").withTarget "ann")).withRule
    (.new 1 (.ofVariation "true"))).withDefaultServe (.ofVariation "true")

/-- The override decides for its target, though it gives no variation that the rule or the default
could not replace. -/
theorem blank_override_is_final :
    (∃ o ∈ blankFlag.overrides.getD [], (Evaluator.ofSnapshot ⟨[], []⟩).AppliesTo (.new "ann") o) ∧
      ((Evaluator.ofSnapshot ⟨[], []⟩).resolve blankFlag (.new "ann")).value =
        .error (.noVariationResolved "blank") := by
  have hnamed : ∃ o ∈ blankFlag.overrides.getD [],
    (Evaluator.ofSnapshot ⟨[], []⟩).AppliesTo (.new "ann") o :=
    ⟨(Override.new "").withTarget "ann", List.mem_singleton.2 rfl,
      .inl ⟨by decide, _, rfl, .new "ann", List.mem_singleton.2 rfl, rfl⟩⟩
  obtain ⟨-, hoverridden, -, -, hempty, -⟩ :=
    earlier_stages_shadow (.ofSnapshot ⟨[], []⟩) blankFlag (.new "ann")
  obtain ⟨before, o, after, hsplit, -, -, hvalue, -⟩ := hoverridden rfl hnamed
  have ho : o ∈ [(Override.new "").withTarget "ann"] := by
    rw [show [(Override.new "").withTarget "ann"] = before ++ o :: after from
      Option.some.inj hsplit]
    simp
  rw [List.mem_singleton.1 ho] at hvalue
  exact ⟨hnamed, hvalue.trans hempty⟩

end Evaluator
end FeatureFlags
