import FeatureFlags.Proofs.Adequacy

/-!
# What an evaluation looks at

An evaluation looks flags and segments up by identifier, and attributes of the target by name. A
scope is a part of all three; it is closed when what is defined in it leads to nothing outside.
Inside a closed scope an evaluation takes the same course over all definitions and for all targets
that agree there, whatever else they hold.

**Results.**
* `Answers.transfer`, `Resolves.transfer`, `Checks.transfer`: a course goes over to
  definitions and a target that agree within the scope.
* `value_evaluate_of_agree`: the evaluation of a flag that is found comes to the same there.
-/
namespace FeatureFlags

open Segment

/-- Some flags and segments by identifier, and some attributes by name. -/
structure Scope where
  flag : String → Prop
  segment : String → Prop
  attr : String → Prop

namespace Scope

/-- Everything there is. -/
def all : Scope := ⟨fun _ => True, fun _ => True, fun _ => True⟩

/-- The segments that the question asks for by name, and the attributes, are in the scope. -/
def HasQuestion (v : Scope) : Question → Prop
  | .member ids => ∀ id ∈ ids, v.segment id
  | .clauses cs =>
    ∀ c ∈ cs, if c.operator = .segmentMatch then ∀ id ∈ c.values, v.segment id else v.attr c.attr

def HasServe (v : Scope) (serve : Serve) : Prop :=
  ∀ d, serve.distribution = some d → v.attr d.bucketBy

def HasRule (v : Scope) (r : Rule) : Prop := v.HasQuestion (.clauses r.clauses) ∧ v.HasServe r.serve

/-- All that the flag refers to is in the scope. -/
structure HasFlag (v : Scope) (f : Flag) : Prop where
  prerequisites : ∀ p ∈ f.requirements, v.flag p.flag
  overrides : ∀ o ∈ f.overrides.getD [], v.HasQuestion (.member (o.segments.getD []))
  rules : ∀ r ∈ f.rules.getD [], v.HasRule r
  defaultServe : v.HasServe f.defaultServe

/-- What is defined in the scope refers to nothing outside. -/
structure Closed (v : Scope) (defs : Definitions) (fallback : String) : Prop where
  flags : ∀ id f, v.flag id → defs.flags.get? id = some f → v.HasFlag f
  segments : ∀ id s, v.segment id → defs.segments.get? id = some s →
    v.HasQuestion (.clauses s.ruleClauses)
  fallback : v.attr fallback

/-- Within the scope the definitions do not differ, nor do the targets. -/
structure Agree (v : Scope) (defs defs' : Definitions) (target target' : Target) : Prop where
  flags : ∀ id, v.flag id → defs.flags.get? id = defs'.flags.get? id
  segments : ∀ id, v.segment id → defs.segments.get? id = defs'.segments.get? id
  identifier : target.identifier = target'.identifier
  attrs : ∀ a, v.attr a → target.attributeText? a = target'.attributeText? a

theorem closed_all (defs : Definitions) (fallback : String) : all.Closed defs fallback := by
  have hclauses : ∀ cs, all.HasQuestion (.clauses cs) := fun cs c _ => by
    split
    · exact fun _ _ => trivial
    · trivial
  refine ⟨fun id f _ _ => ?_, fun _ s _ _ => hclauses s.ruleClauses, trivial⟩
  exact ⟨fun _ _ => trivial, fun _ _ _ _ => trivial,
    fun r _ => ⟨hclauses r.clauses, fun _ _ => trivial⟩, fun _ _ => trivial⟩

variable {v : Scope} {defs defs' : Definitions} {target target' : Target} {fallback : String}

theorem Agree.holds_eq (h : v.Agree defs defs' target target') {c : Clause} (hc : v.attr c.attr) :
    c.holds target = c.holds target' := by
  unfold Clause.holds
  rw [h.attrs c.attr hc]

theorem Agree.names_eq (h : v.Agree defs defs' target target') (o : Override) :
    o.names target = o.names target' := by
  unfold Override.names
  rw [h.identifier]

theorem Agree.serve_eq (h : v.Agree defs defs' target target') (hcl : v.Closed defs fallback)
    {d : Distribution} (hd : v.attr d.bucketBy) (flag : String) :
    d.serve flag target fallback = d.serve flag target' fallback := by
  unfold Distribution.serve Distribution.key?
  rw [h.attrs _ hd, h.attrs _ hcl.fallback]

end Scope

/-! ## Courses -/

namespace Course

variable {v : Scope} {defs defs' : Definitions} {target target' : Target} {fallback : String}

theorem Answers.transfer (hcl : v.Closed defs fallback) (hag : v.Agree defs defs' target target')
    {chain : List String} {q : Question} {b : Bool} {calls : List Call}
    (h : Answers defs.segments target chain q b calls) (hq : v.HasQuestion q) :
    Answers defs'.segments target' chain q b calls := by
  have hstored : ∀ {id ids s}, v.HasQuestion (.member (id :: ids)) →
    defs.segments.get? id = some s →
      defs'.segments.get? id = some s := fun hq hs =>
    (hag.segments _ (hq _ List.mem_cons_self)).symm.trans hs
  have hlisting : ∀ s : Segment, s.listing? target'.identifier = s.listing? target.identifier :=
    fun s => by rw [hag.identifier]
  induction h with
  | noSegment => exact .noSegment
  | missing hs => exact .missing ((hag.segments _ (hq _ List.mem_cons_self)).symm.trans hs)
  | listed hs hl => exact .listed (hstored hq hs) ((hlisting _).trans hl)
  | unruled hs hl hr rest ih =>
    exact .unruled (hstored hq hs) ((hlisting _).trans hl) hr (ih (List.forall_mem_cons.1 hq).2)
  | matched hs hl hr rules ih =>
    have hin := hcl.segments _ _ (hq _ List.mem_cons_self) hs
    exact .matched (hstored hq hs) ((hlisting _).trans hl) hr (ih hin)
  | unmatched hs hl hr rules rest ihr ih =>
    have hin := hcl.segments _ _ (hq _ List.mem_cons_self) hs
    have hrest := ih (List.forall_mem_cons.1 hq).2
    exact .unmatched (hstored hq hs) ((hlisting _).trans hl) hr (ihr hin) hrest
  | noClause => exact .noClause
  | fails hop hc =>
    have hattr := (if_neg hop).mp (hq _ List.mem_cons_self)
    exact .fails hop ((hag.holds_eq hattr).symm.trans hc)
  | holds hop hc rest ih =>
    have hattr := (if_neg hop).mp (hq _ List.mem_cons_self)
    exact .holds hop ((hag.holds_eq hattr).symm.trans hc) (ih (List.forall_mem_cons.1 hq).2)
  | outside hop asked ih => exact .outside hop (ih ((if_pos hop).mp (hq _ List.mem_cons_self)))
  | inside hop asked rest iha ih =>
    exact .inside hop (iha ((if_pos hop).mp (hq _ List.mem_cons_self)))
      (ih (List.forall_mem_cons.1 hq).2)

theorem OverrideGives.transfer (hcl : v.Closed defs fallback)
    (hag : v.Agree defs defs' target target')
    {os : List Override} {outcome : Option String} {calls : List Call}
    (h : OverrideGives defs.segments target os outcome calls)
    (hos : ∀ o ∈ os, v.HasQuestion (.member (o.segments.getD []))) :
    OverrideGives defs'.segments target' os outcome calls := by
  induction h with
  | nothing => exact .nothing
  | named hn => exact .named ((hag.names_eq _).symm.trans hn)
  | inside hn asked =>
    exact .inside ((hag.names_eq _).symm.trans hn)
      (asked.transfer hcl hag (hos _ List.mem_cons_self))
  | outside hn asked rest ih =>
    exact .outside ((hag.names_eq _).symm.trans hn)
      (asked.transfer hcl hag (hos _ List.mem_cons_self))
      (ih (List.forall_mem_cons.1 hos).2)

theorem RuleGives.transfer (hcl : v.Closed defs fallback) (hag : v.Agree defs defs' target target')
    {flag : String} {rs : List Rule} {outcome : Option String} {calls : List Call}
    (h : RuleGives defs.segments fallback target flag rs outcome calls)
    (hrs : ∀ r ∈ rs, v.HasRule r) :
    RuleGives defs'.segments fallback target' flag rs outcome calls := by
  induction h with
  | nothing => exact .nothing
  | unmatched asked rest ih =>
    exact .unmatched (asked.transfer hcl hag (hrs _ List.mem_cons_self).1)
      (ih (List.forall_mem_cons.1 hrs).2)
  | distribution asked hd =>
    have hr := hrs _ List.mem_cons_self
    rw [hag.serve_eq hcl (hr.2 _ hd)]
    exact .distribution (asked.transfer hcl hag hr.1) hd
  | fixed asked hd hv => exact .fixed (asked.transfer hcl hag (hrs _ List.mem_cons_self).1) hd hv
  | idle asked hd hv rest ih =>
    exact .idle (asked.transfer hcl hag (hrs _ List.mem_cons_self).1) hd hv
      (ih (List.forall_mem_cons.1 hrs).2)

theorem Resolves.transfer (hcl : v.Closed defs fallback) (hag : v.Agree defs defs' target target')
    {f : Flag} {outcome : Except EvaluationError Variation} {calls : List Call}
    (h : Resolves defs.segments fallback target f outcome calls) (hf : v.HasFlag f) :
    Resolves defs'.segments fallback target' f outcome calls := by
  have hrules : ∀ r ∈ Rule.byPriority (f.rules.getD []), v.HasRule r :=
    fun r hr => hf.rules r (List.mem_mergeSort.1 hr)
  cases h with
  | off hon => exact .off hon
  | overridden hon os => exact .overridden hon (os.transfer hcl hag hf.overrides)
  | ruled hon os rs =>
    exact .ruled hon (os.transfer hcl hag hf.overrides) (rs.transfer hcl hag hrules)
  | default hon os rs =>
    have hserve : (f.defaultServe.distribution.bind fun d => d.serve f.identifier target fallback) =
        f.defaultServe.distribution.bind fun d => d.serve f.identifier target' fallback :=
      Option.bind_congr fun d hd => hag.serve_eq hcl (hf.defaultServe d hd) _
    rw [hserve]
    exact .default hon (os.transfer hcl hag hf.overrides) (rs.transfer hcl hag hrules)

theorem Checks.transfer (hcl : v.Closed defs fallback) (hag : v.Agree defs defs' target target')
    {path : List String} {ps : List Prerequisite} {outcome : Except EvaluationError Bool}
    {calls : List Call} (h : Checks defs fallback target path ps outcome calls)
    (hps : ∀ p ∈ ps, v.flag p.flag) : Checks defs' fallback target' path ps outcome calls := by
  have hstored : ∀ {p : Prerequisite} {ps f}, (∀ q ∈ p :: ps, v.flag q.flag) →
      defs.flags.get? p.flag = some f →
        defs'.flags.get? p.flag = some f ∧ v.HasFlag f := fun hps hf =>
    ⟨(hag.flags _ (hps _ List.mem_cons_self)).symm.trans hf,
      hcl.flags _ _ (hps _ List.mem_cons_self) hf⟩
  induction h with
  | done => exact .done
  | cycle hp => exact .cycle hp
  | missing hp hf => exact .missing hp ((hag.flags _ (hps _ List.mem_cons_self)).symm.trans hf)
  | unresolved hp hf hr =>
    obtain ⟨hf', hin⟩ := hstored hps hf
    exact .unresolved hp hf' (hr.transfer hcl hag hin)
  | refused hp hf hr hv =>
    obtain ⟨hf', hin⟩ := hstored hps hf
    exact .refused hp hf' (hr.transfer hcl hag hin) hv
  | stopped hp hf hr hv nested ho ih =>
    obtain ⟨hf', hin⟩ := hstored hps hf
    exact .stopped hp hf' (hr.transfer hcl hag hin) hv (ih hin.prerequisites) ho
  | passed hp hf hr hv nested rest ihn ih =>
    obtain ⟨hf', hin⟩ := hstored hps hf
    exact .passed hp hf' (hr.transfer hcl hag hin) hv (ihn hin.prerequisites)
      (ih (List.forall_mem_cons.1 hps).2)

theorem Evaluates.transfer {source source' : Source} (hcl : v.Closed source.toDefinitions fallback)
    (hag : v.Agree source.toDefinitions source'.toDefinitions target target') {id : String}
    {kind : Flag.Kind} {outcome : Except EvaluationError Variation} {calls : List Call}
    (h : Evaluates source fallback target id kind outcome calls) (hid : v.flag id) {f : Flag}
    (hf : source.flags.get? id = some f) :
    Evaluates source' fallback target' id kind outcome calls := by
  have hin := hcl.flags id f hid hf
  have hf' := (hag.flags id hid).symm.trans hf
  cases h with
  | missing hnone => cases hf.symm.trans hnone
  | mismatch hg hk =>
    cases hf.symm.trans hg
    exact .mismatch hf' hk
  | cyclic hg hk check =>
    cases hf.symm.trans hg
    exact .cyclic hf' hk (check.transfer hcl hag hin.prerequisites)
  | unmet hg hk check =>
    cases hf.symm.trans hg
    exact .unmet hf' hk (check.transfer hcl hag hin.prerequisites)
  | met hg hk check hr =>
    cases hf.symm.trans hg
    exact .met hf' hk (check.transfer hcl hag hin.prerequisites) (hr.transfer hcl hag hin)

end Course

open Course

namespace Evaluator

variable {v : Scope} {e e' : Evaluator} {target target' : Target}

theorem value_evaluate_of_agree (hac : Acyclic e.source.segments)
    (hac' : Acyclic e'.source.segments)
    (hfallback : e.config.bucketFallback = e'.config.bucketFallback)
    (hcl : v.Closed e.source.toDefinitions e.config.bucketFallback)
    (hag : v.Agree e.source.toDefinitions e'.source.toDefinitions target target') {id : String}
    (hid : v.flag id) {f : Flag} (hf : e.source.flags.get? id = some f) (kind : Flag.Kind) :
    (e'.evaluate id target' kind).value = (e.evaluate id target kind).value := by
  obtain ⟨calls, h⟩ := (evaluates_iff hac).2 (Eq.refl (e.evaluate id target kind).value)
  exact (evaluates_iff hac').1 ⟨calls, hfallback ▸ h.transfer hcl hag hid hf⟩

end Evaluator
end FeatureFlags
