import FeatureFlags.Proofs.Adequacy

/-!
# Evaluation ends

An evaluation goes deeper in two ways: from a flag to its prerequisites, along a path, and from the
rules of a segment to those of another one, along a chain. Prerequisites may lead back to where they
came from; the path stops there, because a flag that is on it is not entered again. Segments may
not, so a chain never meets a segment twice.

**Results.**
* `simple_of_answers`, `simple_of_checks`: a call is made on a path of stored flags, or in a chain
  of stored segments, none of which stands there twice; so neither is ever longer than what is
  stored.
* `evaluation_ends`: every evaluation has a finite course, and only one outcome.
-/
namespace FeatureFlags

open Segment

namespace Course

/-- The path or the chain of a call has only stored names, and none of them twice. -/
def Call.Simple (defs : Definitions) : Call → Prop
  | .check path => path.Nodup ∧ ∀ id ∈ path, id ∈ defs.flags.keys
  | .rules chain => chain.Nodup ∧ ∀ id ∈ chain, id ∈ defs.segments.keys

theorem Call.Simple.path_length_le {defs : Definitions} {path : List String}
    (h : (Call.check path).Simple defs) : path.length ≤ defs.flagCount :=
  Table.length_le_size h.1 h.2

theorem Call.Simple.chain_length_le {defs : Definitions} {chain : List String}
    (h : (Call.rules chain).Simple defs) : chain.length ≤ defs.segmentCount :=
  Table.length_le_size h.1 h.2

variable {defs : Definitions} {target : Target} {fallback : String} {calls : List Call}

/-! ## Chains of segments -/

theorem simple_of_answers (hac : Acyclic defs.segments) {chain : List String} {q : Question}
    {b : Bool} (h : Answers defs.segments target chain q b calls)
    (hch : Chained defs.segments chain q) :
    ∀ c ∈ calls, c.Simple defs := by
  have hrest : ∀ {chain id ids}, Chained defs.segments chain (.member (id :: ids)) →
      Chained defs.segments chain (.member ids) := fun h =>
    h.of_names fun _ hb => List.mem_cons_of_mem _ hb
  have hlater : ∀ {chain c cs}, Chained defs.segments chain (.clauses (c :: cs)) →
      Chained defs.segments chain (.clauses cs) := fun h =>
    h.of_names fun _ ⟨c, hc, hb⟩ => ⟨c, List.mem_cons_of_mem _ hc, hb⟩
  induction h with
  | noSegment | missing | listed | noClause | fails => intro c hc; cases hc
  | unruled hs hl hr rest ih => exact ih (hrest hch)
  | matched hs hl hr rules ih =>
    have hin := hch.enter hac List.mem_cons_self hs
    exact List.forall_mem_cons.2 ⟨⟨hin.nodup, hin.stored⟩, ih hin⟩
  | unmatched hs hl hr rules rest ihr ih =>
    have hin := hch.enter hac List.mem_cons_self hs
    refine List.forall_mem_cons.2 ⟨⟨hin.nodup, hin.stored⟩, ?_⟩
    exact List.forall_mem_append.2 ⟨ihr hin, ih (hrest hch)⟩
  | holds hop hc rest ih => exact ih (hlater hch)
  | outside hop asked ih => exact ih (hch.asked List.mem_cons_self hop)
  | inside hop asked rest iha ih =>
    exact List.forall_mem_append.2 ⟨iha (hch.asked List.mem_cons_self hop), ih (hlater hch)⟩

theorem simple_of_overrideGives (hac : Acyclic defs.segments) {os : List Override}
    {v : Option String} (h : OverrideGives defs.segments target os v calls) :
    ∀ c ∈ calls, c.Simple defs := by
  induction h with
  | nothing | named => intro c hc; cases hc
  | inside hn asked => exact simple_of_answers hac asked (.start _ _)
  | outside hn asked rest ih =>
    exact List.forall_mem_append.2 ⟨simple_of_answers hac asked (.start _ _), ih⟩

theorem simple_of_ruleGives (hac : Acyclic defs.segments) {flag : String} {rs : List Rule}
    {v : Option String} (h : RuleGives defs.segments fallback target flag rs v calls) :
    ∀ c ∈ calls, c.Simple defs := by
  induction h with
  | nothing => intro c hc; cases hc
  | unmatched asked rest ih | idle asked hd hv rest ih =>
    exact List.forall_mem_append.2 ⟨simple_of_answers hac asked (.start _ _), ih⟩
  | distribution asked | fixed asked => exact simple_of_answers hac asked (.start _ _)

theorem simple_of_resolves (hac : Acyclic defs.segments) {f : Flag}
    {outcome : Except EvaluationError Variation}
    (h : Resolves defs.segments fallback target f outcome calls) : ∀ c ∈ calls, c.Simple defs := by
  cases h with
  | off hon => intro c hc; cases hc
  | overridden hon os => exact simple_of_overrideGives hac os
  | ruled hon os rs | default hon os rs =>
    exact List.forall_mem_append.2 ⟨simple_of_overrideGives hac os, simple_of_ruleGives hac rs⟩

/-! ## Paths of flags -/

theorem simple_of_checks (hac : Acyclic defs.segments) {path : List String} {ps : List Prerequisite}
    {outcome : Except EvaluationError Bool}
    (h : Checks defs fallback target path ps outcome calls)
    (hpath : (Call.check path).Simple defs) :
    ∀ c ∈ calls, c.Simple defs := by
  induction h with
  | done | cycle | missing => intro c hc; cases hc
  | unresolved hp hf hr | refused hp hf hr => exact simple_of_resolves hac hr
  | stopped hp hf hr hv nested ho ih =>
    have hin : (Call.check _).Simple defs := Table.distinct_append hpath.1 hpath.2 hp hf
    exact List.forall_mem_append.2 ⟨simple_of_resolves hac hr, List.forall_mem_cons.2 ⟨hin, ih hin⟩⟩
  | passed hp hf hr hv nested rest ihn ih =>
    have hin : (Call.check _).Simple defs := Table.distinct_append hpath.1 hpath.2 hp hf
    refine List.forall_mem_append.2 ⟨simple_of_resolves hac hr, List.forall_mem_cons.2 ⟨hin, ?_⟩⟩
    exact List.forall_mem_append.2 ⟨ihn hin, ih hpath⟩

theorem simple_of_evaluates {source : Source} (hkeyed : source.Keyed)
    (hac : Acyclic source.segments) {id : String}
    {kind : Flag.Kind} {outcome : Except EvaluationError Variation}
    (h : Evaluates source fallback target id kind outcome calls) :
    ∀ c ∈ calls, c.Simple source.toDefinitions := by
  have hstart : ∀ {f}, source.flags.get? id = some f →
      (Call.check [f.identifier]).Simple source.toDefinitions := by
    intro f hf
    refine ⟨List.nodup_singleton _, fun a ha => ?_⟩
    rw [List.mem_singleton.1 ha, hkeyed.flags hf]
    exact Table.mem_keys_of_get? hf
  cases h with
  | missing | mismatch => intro c hc; cases hc
  | cyclic hf hk check | unmet hf hk check =>
    exact List.forall_mem_cons.2 ⟨hstart hf, simple_of_checks hac check (hstart hf)⟩
  | met hf hk check hr =>
    refine List.forall_mem_cons.2 ⟨hstart hf, ?_⟩
    exact List.forall_mem_append.2
      ⟨simple_of_checks hac check (hstart hf), simple_of_resolves hac hr⟩

end Course

open Course

/-! ## The theorem -/

namespace Evaluator

/-- **Termination.** With segments that refer to each other without a cycle, and prerequisites of
any shape, every evaluation has a finite course, which comes to the value that is computed and to no
other. On the way, a path of prerequisites has only stored flags and none of them twice, and
segments whose rules are asked inside one another are stored and different, so there are never more
of them than are stored. -/
theorem evaluation_ends (e : Evaluator) (target : Target) (hkeyed : e.source.Keyed)
    (hac : Acyclic e.source.segments) (id : String) (kind : Flag.Kind) :
    (∃ calls, Evaluates e.source e.config.bucketFallback target id kind
      (e.evaluate id target kind).value
      calls) ∧
    ∀ outcome calls, Evaluates e.source e.config.bucketFallback target id kind outcome calls →
      outcome = (e.evaluate id target kind).value ∧
      (∀ path, .check path ∈ calls → path.Nodup ∧ (∀ flag ∈ path, flag ∈ e.source.flags.keys) ∧
        path.length ≤ e.source.flagCount) ∧
      (∀ chain, .rules chain ∈ calls → chain.length ≤ e.source.segmentCount) := by
  refine ⟨(evaluates_iff hac).2 rfl, fun outcome calls h => ⟨?_, ?_, ?_⟩⟩
  · exact ((evaluates_iff hac).1 ⟨calls, h⟩).symm
  · intro path hpath
    have hs := simple_of_evaluates hkeyed hac h _ hpath
    exact ⟨hs.1, hs.2, hs.path_length_le⟩
  · intro chain hchain
    exact (simple_of_evaluates hkeyed hac h _ hchain).chain_length_le

/-- Two flags that require each other, one of which looks into a segment within a segment. -/
def ring : Evaluator :=
  .ofSnapshot
    ⟨[(((Flag.boolean "hen").withState .on).withOverride
        ((Override.new "true").withSegment "outer")).withPrerequisite ⟨"egg", ["false"]⟩,
      (Flag.boolean "egg").withPrerequisite ⟨"hen", ["true"]⟩],
     [(Segment.new "inner").withIncluded "user",
      (Segment.new "outer").withRule (.ofSegments ["inner"])]⟩

theorem ring_acyclic : Acyclic ring.source.segments :=
  acyclic_of_order ["inner", "outer"] (by decide)

theorem ring_evaluation_ends :
    ring.source.Keyed ∧ Acyclic ring.source.segments ∧
      (∃ calls, Evaluates ring.source "identifier" (.new "user") "hen" .boolean
        (ring.evaluate "hen" (.new "user") .boolean).value calls) ∧
      ∀ outcome calls,
        Evaluates ring.source "identifier" (.new "user") "hen" .boolean outcome calls →
        outcome = (ring.evaluate "hen" (.new "user") .boolean).value ∧
        (∀ path, .check path ∈ calls →
          path.Nodup ∧ (∀ flag ∈ path, flag ∈ ["hen", "egg"]) ∧ path.length ≤ 2) ∧
        ∀ chain, .rules chain ∈ calls → chain.length ≤ 2 :=
  have hkeyed : ring.source.Keyed := (Store.ofSnapshot _).keyed
  ⟨hkeyed, ring_acyclic, evaluation_ends ring (.new "user") hkeyed ring_acyclic "hen" .boolean⟩

end Evaluator
end FeatureFlags
