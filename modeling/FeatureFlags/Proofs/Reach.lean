import FeatureFlags.Proofs.FailClosed
import FeatureFlags.Proofs.Locality

/-!
# What a flag can reach

A definition names others: a flag its prerequisites and the segments of its overrides and rules, a
segment those that its rules ask for. The reach of a flag is what can be come to in this way, and an
evaluation looks up nothing else. It is a closed scope, so definitions that agree on it give the
same evaluations, whatever else there is.

**Results.**
* `closed_reachScope`: what is reached refers to nothing that is not.
* `Edited.agreeOn`, `agreeOn_of_edited`: changes outside of the reach leave the reach as it is.
* `depends_only_on_reach`: an evaluation depends on nothing but the reach of its flag.
-/
namespace FeatureFlags

open Segment Relation

/-! ## What a definition refers to -/

/-- A flag or a segment by its identifier. -/
inductive Ref where
  | flag (id : String)
  | segment (id : String)
  deriving DecidableEq, Repr

/-- The segments that clauses ask for. -/
def segmentsOf (clauses : List Clause) : List Ref :=
  (clauses.filter fun c => c.operator == .segmentMatch).flatMap fun c => c.values.map .segment

/-- The attributes that clauses look at; one that asks for segments looks at none. -/
def attributesOf (clauses : List Clause) : List String :=
  (clauses.filter fun c => c.operator != .segmentMatch).map (·.attr)

/-- The attribute that targets are shared out by. -/
def Serve.attributes (s : Serve) : List String := (s.distribution.map (·.bucketBy)).toList

namespace Flag

/-- The prerequisites of a flag, the segments of its overrides, and those that its rules ask for. -/
def refersTo (f : Flag) : List Ref :=
  f.requirements.map (fun p => .flag p.flag) ++
    (f.overrides.getD []).flatMap (fun o => (o.segments.getD []).map .segment) ++
    (f.rules.getD []).flatMap (fun r => segmentsOf r.clauses)

/-- The attributes that the rules and the default of a flag look at. -/
def attributes (f : Flag) : List String :=
  (f.rules.getD []).flatMap (fun r => attributesOf r.clauses ++ r.serve.attributes) ++
    f.defaultServe.attributes

end Flag

/-- The segments that the rules of a segment ask for. -/
def Segment.refersTo (s : Segment) : List Ref := segmentsOf s.ruleClauses

def Segment.attributes (s : Segment) : List String := attributesOf s.ruleClauses

/-! ## The reach -/

namespace Definitions

/-- What can be come to from the flag `root`: the least set that holds it, and all to which a stored
flag or segment in the set refers. -/
inductive Reach (s : Definitions) (root : String) : Ref → Prop where
  | root : Reach s root (.flag root)
  | flag {id f r} (hid : Reach s root (.flag id)) (hf : s.flags.get? id = some f)
    (hr : r ∈ f.refersTo) :
      Reach s root r
  | segment {id x r} (hid : Reach s root (.segment id)) (hx : s.segments.get? id = some x)
      (hr : r ∈ x.refersTo) : Reach s root r

/-- The attribute is one that the definitions in the reach of a flag look at, or the one that stands
in for those which a target lacks. -/
inductive Sees (s : Definitions) (root fallback : String) : String → Prop where
  | fallback : Sees s root fallback fallback
  | flag {id f a} (hid : s.Reach root (.flag id)) (hf : s.flags.get? id = some f)
    (ha : a ∈ f.attributes) :
      Sees s root fallback a
  | segment {id x a} (hid : s.Reach root (.segment id)) (hx : s.segments.get? id = some x)
      (ha : a ∈ x.attributes) : Sees s root fallback a

/-- The definitions and the attributes that an evaluation of the flag may look at. -/
def reachScope (s : Definitions) (root fallback : String) : Scope :=
  ⟨fun id => s.Reach root (.flag id), fun id => s.Reach root (.segment id), s.Sees root fallback⟩

end Definitions

namespace Scope

variable {v : Scope}

theorem hasQuestion_clauses {cs : List Clause}
    (hrefs : ∀ id, .segment id ∈ segmentsOf cs → v.segment id)
    (hattrs : ∀ a ∈ attributesOf cs, v.attr a) : v.HasQuestion (.clauses cs) := by
  intro c hc
  split
  · next hop =>
    intro id hid
    have hasks : c ∈ cs.filter fun c => c.operator == .segmentMatch :=
      List.mem_filter.2 ⟨hc, beq_iff_eq.2 hop⟩
    exact hrefs id (List.mem_flatMap.2 ⟨c, hasks, List.mem_map_of_mem hid⟩)
  · next hop =>
    have hlooks : c ∈ cs.filter fun c => c.operator != .segmentMatch :=
      List.mem_filter.2 ⟨hc, bne_iff_ne.2 hop⟩
    exact hattrs c.attr (List.mem_map_of_mem hlooks)

theorem hasServe {s : Serve} (h : ∀ a ∈ s.attributes, v.attr a) : v.HasServe s := by
  intro d hd
  refine h d.bucketBy ?_
  rw [Serve.attributes, hd]
  exact List.mem_singleton_self _

end Scope

namespace Definitions

variable {s t : Definitions} {root fallback : String}

theorem hasFlag_reachScope {id : String} {f : Flag} (hid : s.Reach root (.flag id))
    (hf : s.flags.get? id = some f) : (s.reachScope root fallback).HasFlag f where
  prerequisites p hp := by
    refine .flag hid hf ?_
    exact List.mem_append_left _ (List.mem_append_left _ (List.mem_map_of_mem hp))
  overrides o ho x hx := by
    refine .flag hid hf ?_
    exact List.mem_append_left _
      (List.mem_append_right _ (List.mem_flatMap.2 ⟨o, ho, List.mem_map_of_mem hx⟩))
  rules r hr := by
    have hrefs : ∀ x ∈ segmentsOf r.clauses, s.Reach root x := fun x hx =>
      .flag hid hf (List.mem_append_right _ (List.mem_flatMap.2 ⟨r, hr, hx⟩))
    have hattrs : ∀ a ∈ attributesOf r.clauses ++ r.serve.attributes, s.Sees root fallback a :=
      fun a ha =>
      .flag hid hf (List.mem_append_left _ (List.mem_flatMap.2 ⟨r, hr, ha⟩))
    obtain ⟨hclauses, hserve⟩ := List.forall_mem_append.1 hattrs
    exact ⟨Scope.hasQuestion_clauses (fun x => hrefs (.segment x)) hclauses, Scope.hasServe hserve⟩
  defaultServe := Scope.hasServe fun _ ha => .flag hid hf (List.mem_append_right _ ha)

theorem closed_reachScope (s : Definitions) (root fallback : String) :
    (s.reachScope root fallback).Closed s fallback where
  flags _ _ hid hf := hasFlag_reachScope hid hf
  segments _ _ hid hx :=
    Scope.hasQuestion_clauses (fun _ hr => .segment hid hx hr) fun _ ha => .segment hid hx ha
  fallback := .fallback

/-- A list that holds the flag, and with every stored definition all to which it refers, holds the
reach. -/
theorem mem_of_reach {refs : List Ref} (hroot : .flag root ∈ refs)
    (hflags : ∀ entry ∈ s.flags.entries, .flag entry.1 ∈ refs → ∀ r ∈ entry.2.refersTo, r ∈ refs)
    (hsegments : ∀ entry ∈ s.segments.entries, .segment entry.1 ∈ refs →
      ∀ r ∈ entry.2.refersTo, r ∈ refs)
    {r : Ref} (h : s.Reach root r) : r ∈ refs := by
  induction h with
  | root => exact hroot
  | flag _ hf hr ih => exact hflags _ (Table.mem_entries_of_get? hf) ih _ hr
  | segment _ hx hr ih => exact hsegments _ (Table.mem_entries_of_get? hx) ih _ hr

/-- Of what is kept, both have the same definition or both have none. -/
structure AgreeOn (keep : Ref → Prop) (s t : Definitions) : Prop where
  flags : ∀ id, keep (.flag id) → s.flags.get? id = t.flags.get? id
  segments : ∀ id, keep (.segment id) → s.segments.get? id = t.segments.get? id

theorem AgreeOn.refl (keep : Ref → Prop) (s : Definitions) : AgreeOn keep s s :=
  ⟨fun _ _ => rfl, fun _ _ => rfl⟩

theorem AgreeOn.trans {keep : Ref → Prop} {u : Definitions} (h : AgreeOn keep s t)
    (h' : AgreeOn keep t u) :
    AgreeOn keep s u :=
  ⟨fun id hid => (h.flags id hid).trans (h'.flags id hid),
    fun id hid => (h.segments id hid).trans (h'.segments id hid)⟩

/-! ## Changes -/

/-- A flag or a segment that is not kept is set or removed. -/
inductive Edited (keep : Ref → Prop) (s : Definitions) : Definitions → Prop where
  | setFlag (f : Flag) (h : ¬ keep (.flag f.identifier)) : Edited keep s (s.setFlag f)
  | removeFlag (id : String) (h : ¬ keep (.flag id)) : Edited keep s (s.removeFlag id)
  | setSegment (x : Segment) (h : ¬ keep (.segment x.identifier)) : Edited keep s (s.setSegment x)
  | removeSegment (id : String) (h : ¬ keep (.segment id)) : Edited keep s (s.removeSegment id)

theorem Edited.agreeOn {keep : Ref → Prop} (h : Edited keep s t) : AgreeOn keep s t := by
  cases h with
  | setFlag f h =>
    refine ⟨fun id hid => ?_, fun _ _ => rfl⟩
    have hne : id ≠ f.identifier := fun heq => h (heq ▸ hid)
    rw [Definitions.setFlag, Table.get?_insert, if_neg hne]
  | removeFlag gone h =>
    refine ⟨fun id hid => ?_, fun _ _ => rfl⟩
    have hne : id ≠ gone := fun heq => h (heq ▸ hid)
    rw [Definitions.removeFlag, Table.get?_erase, if_neg hne]
  | setSegment x h =>
    refine ⟨fun _ _ => rfl, fun id hid => ?_⟩
    have hne : id ≠ x.identifier := fun heq => h (heq ▸ hid)
    rw [Definitions.setSegment, Table.get?_insert, if_neg hne]
  | removeSegment gone h =>
    refine ⟨fun _ _ => rfl, fun id hid => ?_⟩
    have hne : id ≠ gone := fun heq => h (heq ▸ hid)
    rw [Definitions.removeSegment, Table.get?_erase, if_neg hne]

theorem agreeOn_of_edited {keep : Ref → Prop} (h : ReflTransGen (Edited keep) s t) :
    AgreeOn keep s t := by
  induction h with
  | refl => exact .refl keep s
  | tail _ hstep ih => exact ih.trans hstep.agreeOn

end Definitions

/-! ## Evaluations -/

namespace Evaluator

variable {e e' : Evaluator} {target target' : Target} {root : String}

/-- A flag that is stored in neither place is missed in both; all others are evaluated within the
reach. -/
theorem value_evaluate_of_agreeOn (hac : Acyclic e.source.segments)
    (hac' : Acyclic e'.source.segments) (hconfig : e.config = e'.config)
    (hfailure : e.source.flagFailure root = e'.source.flagFailure root)
    (h : Definitions.AgreeOn (e.source.Reach root) e.source.toDefinitions e'.source.toDefinitions)
    (hid : target.identifier = target'.identifier)
    (hattrs : ∀ a, e.source.Sees root e.config.bucketFallback a →
      target.attributeText? a = target'.attributeText? a) (kind : Flag.Kind) :
    (e'.evaluate root target' kind).value = (e.evaluate root target kind).value := by
  cases hf : e.source.flags.get? root with
  | none =>
    have hf' := (h.flags root .root).symm.trans hf
    rw [value_evaluate, value_evaluate, hf, hf', hfailure]
  | some f =>
    have hclosed := e.source.closed_reachScope root e.config.bucketFallback
    exact value_evaluate_of_agree hac hac' (congrArg _ hconfig) hclosed
      ⟨h.flags, h.segments, hid, hattrs⟩
      .root hf kind

/-- **Only the reach counts.** Where two stores hold the same definitions, or both none, of all that
a flag can reach, the flag is evaluated with the same result over both. So no other flag or segment
that is set or removed changes the result, whatever comes before or after. -/
theorem depends_only_on_reach (e e' : Evaluator) (target : Target) (root : String)
    (kind : Flag.Kind) (hac : Acyclic e.source.segments) (hac' : Acyclic e'.source.segments)
    (hconfig : e.config = e'.config)
    (hfailure : e.source.flagFailure root = e'.source.flagFailure root)
    (h : Definitions.AgreeOn (e.source.Reach root) e.source.toDefinitions e'.source.toDefinitions) :
    (e'.evaluate root target kind).value = (e.evaluate root target kind).value ∧
      ∀ s, ReflTransGen (Definitions.Edited (e.source.Reach root)) e.source.toDefinitions s →
        Acyclic s.segments →
        ((e.withStore s).evaluate root target kind).value =
          (e.evaluate root target kind).value := by
  refine ⟨value_evaluate_of_agreeOn hac hac' hconfig hfailure h rfl (fun _ _ => rfl) kind,
    fun s hs hacs => ?_⟩
  have hacs' : Acyclic (e.withStore s).source.segments := hacs
  exact value_evaluate_of_agreeOn hac hacs' rfl rfl (Definitions.agreeOn_of_edited hs) rfl
    (fun _ _ => rfl) kind

/-! ## A dock and what lies around it -/

/-- A flag that waits for a gate and is on for the crew. -/
def dockFlag : Flag :=
  (((Flag.boolean "dock").withState .on).withRule
    ((Rule.new 1 (.ofVariation "true")).withClause (.ofSegments ["crew"]))).withPrerequisite
      ⟨"gate", ["false"]⟩

/-- A crew of officers. -/
def dockSegments : List Segment :=
  [(Segment.new "crew").withRule (.ofSegments ["officers"]),
    (Segment.new "officers").withIncluded "ann"]

/-- The dock with a shed, and a segment of guests. -/
def dock : Evaluator :=
  .ofSnapshot ⟨[dockFlag, Flag.boolean "gate", Flag.boolean "shed"],
    Segment.new "guests" :: dockSegments⟩

/-- The dock alone. -/
def bareDock : Evaluator := .ofSnapshot ⟨[Flag.boolean "gate", dockFlag], dockSegments⟩

/-- The shed is gone, a crane waits for the dock, a flag has the name of the crew, and Ann is a
guest. -/
def busyDock : Definitions :=
  (((dock.source.removeFlag "shed").setFlag
    ((Flag.boolean "crane").withPrerequisite ⟨"dock", ["true"]⟩)).setFlag
      (Flag.boolean "crew")).setSegment
      ((Segment.new "guests").withIncluded "ann")

theorem mem_of_dock_reach {r : Ref} (h : dock.source.Reach "dock" r) :
    r ∈ [.flag "dock", .flag "gate", .segment "crew", .segment "officers"] :=
  Definitions.mem_of_reach (by decide) (by decide) (by decide) h

theorem busyDock_edited :
    ReflTransGen (Definitions.Edited (dock.source.Reach "dock")) dock.source.toDefinitions
      busyDock := by
  have hfar : ∀ r, r ∉ [Ref.flag "dock", .flag "gate", .segment "crew", .segment "officers"] →
      ¬ dock.source.Reach "dock" r := fun r hr h => hr (mem_of_dock_reach h)
  exact (((ReflTransGen.single (.removeFlag "shed" (hfar _ (by decide)))).tail
    (.setFlag _ (hfar _ (by decide)))).tail (.setFlag _ (hfar _ (by decide)))).tail
      (.setSegment _ (hfar _ (by decide)))

theorem bareDock_agreeOn :
    Definitions.AgreeOn (dock.source.Reach "dock") dock.source.toDefinitions
      bareDock.source.toDefinitions where
  flags id hid := by
    have hmem := mem_of_dock_reach hid
    simp only [List.mem_cons, Ref.flag.injEq, reduceCtorEq, List.not_mem_nil, or_false] at hmem
    rcases hmem with rfl | rfl <;> rfl
  segments id hid := by
    have hmem := mem_of_dock_reach hid
    simp only [List.mem_cons, Ref.segment.injEq, reduceCtorEq, List.not_mem_nil, or_false,
      false_or] at hmem
    rcases hmem with rfl | rfl <;> rfl

theorem dock_acyclic : Acyclic dock.source.segments :=
  acyclic_of_order ["officers", "crew"] (by decide)

theorem dock_opens_for_ann :
    (dock.evaluate "dock" (.new "ann") .boolean).value = .ok (.new "true" "true") := by
  have hcheck : Course.Checks dock.source.toDefinitions dock.config.bucketFallback (.new "ann")
      ["dock"] dockFlag.requirements (.ok true) _ :=
    .passed (by decide) rfl (.off rfl) (by decide) .done .done
  have hclauses : Course.Answers dock.source.segments (.new "ann") []
      (.clauses [.ofSegments ["crew"]]) true _ :=
    .inside rfl (.matched rfl rfl (by decide) (.inside rfl (.listed rfl rfl) .noClause)) .noClause
  have hr : Course.Resolves dock.source.segments dock.config.bucketFallback (.new "ann")
      dockFlag _ _ :=
    .by_only_rule rfl rfl rfl hclauses rfl rfl
  exact (evaluates_iff dock_acyclic).1 ⟨_, .met rfl rfl hcheck hr⟩

/-- The dock opens for Ann, whatever lies around it. -/
theorem dock_ignores_its_surroundings :
    Acyclic dock.source.segments ∧ Acyclic bareDock.source.segments ∧
      dock.config = bareDock.config ∧
      dock.source.flagFailure "dock" = bareDock.source.flagFailure "dock" ∧
      Definitions.AgreeOn (dock.source.Reach "dock") dock.source.toDefinitions
        bareDock.source.toDefinitions ∧
      (bareDock.evaluate "dock" (.new "ann") .boolean).value = .ok (.new "true" "true") ∧
      ReflTransGen (Definitions.Edited (dock.source.Reach "dock")) dock.source.toDefinitions
        busyDock ∧
      ((dock.withStore busyDock).evaluate "dock" (.new "ann") .boolean).value =
        .ok (.new "true" "true") := by
  have hbare : Acyclic bareDock.source.segments := acyclic_of_order ["officers", "crew"] (by decide)
  have hbusy : Acyclic busyDock.segments := acyclic_of_order ["officers", "crew"] (by decide)
  have h := depends_only_on_reach dock bareDock (.new "ann") "dock" .boolean dock_acyclic hbare
    rfl rfl bareDock_agreeOn
  exact ⟨dock_acyclic, hbare, rfl, rfl, bareDock_agreeOn, h.1.trans dock_opens_for_ann,
    busyDock_edited, (h.2 busyDock busyDock_edited hbusy).trans dock_opens_for_ann⟩

end Evaluator
end FeatureFlags
