import FeatureFlags.Proofs.Adequacy

/-!
# The graph of prerequisites

A flag requires the flags that its prerequisites name. The check of a flag walks this graph in
depth, keeps no record of where it has been but the path, and stops at the first prerequisite that
decides. Where every flag that can be reached is stored and resolves, what it comes to is
nevertheless a fact about the whole graph: without a cycle, whether all prerequisites in it are
allowed.

**Results.**
* `below_of_met`: after a check that is met, everything below the list is allowed, off the path and
  on no cycle.
* `cyclic_of_checks`, `cycle_of_error`: a check fails only because of a cycle, which is below the
  list.
* `not_allowed_of_unmet`: a check that is not met has come upon a prerequisite that is not allowed.
* `check_decides_graph`: the three together.
-/
namespace FeatureFlags

open Segment Course Relation

/-! ## The graph -/

namespace Definitions

variable {s : Definitions}

/-- Flag `b` is named by a prerequisite of flag `a`. -/
def Requires (s : Definitions) (a b : String) : Prop :=
  ∃ f, s.flags.get? a = some f ∧ ∃ p ∈ f.requirements, p.flag = b

/-- The prerequisite is one of a flag that can be reached from `id`, be it `id` itself. -/
def Depends (s : Definitions) (id : String) (p : Prerequisite) : Prop :=
  ∃ a f, ReflTransGen s.Requires id a ∧ s.flags.get? a = some f ∧ p ∈ f.requirements

/-- A cycle can be reached from `id`. -/
def CycleFrom (s : Definitions) (id : String) : Prop :=
  ∃ a, ReflTransGen s.Requires id a ∧ TransGen s.Requires a a

/-- The prerequisite is on the list, or below that of a flag which the list names. -/
inductive Below (s : Definitions) : List Prerequisite → Prerequisite → Prop where
  | here {ps p} (hp : p ∈ ps) : Below s ps p
  | there {ps p f q} (hp : p ∈ ps) (hf : s.flags.get? p.flag = some f)
    (hq : Below s f.requirements q) :
      Below s ps q

theorem below_cons {p q : Prerequisite} {ps : List Prerequisite} (h : s.Below (p :: ps) q) :
    q = p ∨ (∃ f, s.flags.get? p.flag = some f ∧ s.Below f.requirements q) ∨ s.Below ps q := by
  cases h with
  | here hp =>
    rcases List.mem_cons.1 hp with rfl | hp
    · exact .inl rfl
    · exact .inr (.inr (.here hp))
  | @there _ p' f _ hp hf hq =>
    rcases List.mem_cons.1 hp with rfl | hp
    · exact .inr (.inl ⟨f, hf, hq⟩)
    · exact .inr (.inr (.there hp hf hq))

theorem Below.trans {ps : List Prerequisite} {p q : Prerequisite} {f : Flag} (h : s.Below ps p)
    (hf : s.flags.get? p.flag = some f) (hq : s.Below f.requirements q) : s.Below ps q := by
  induction h with
  | here hp => exact .there hp hf hq
  | there hp hf' _ ih => exact .there hp hf' (ih hf)

theorem Below.cons {p q : Prerequisite} {ps : List Prerequisite} (h : s.Below ps q) :
    s.Below (p :: ps) q := by
  cases h with
  | here hp => exact .here (List.mem_cons_of_mem p hp)
  | there hp hf hq => exact .there (List.mem_cons_of_mem p hp) hf hq

theorem exists_below {a b : String} (h : TransGen s.Requires a b) :
    ∀ f, s.flags.get? a = some f → ∃ q, s.Below f.requirements q ∧ q.flag = b := by
  induction h using TransGen.head_induction_on with
  | single hab =>
    intro f hf
    obtain ⟨f', hf', p, hp, rfl⟩ := hab
    cases hf.symm.trans hf'
    exact ⟨p, .here hp, rfl⟩
  | head hac hcb ih =>
    intro f hf
    obtain ⟨f', hf', p, hp, rfl⟩ := hac
    cases hf.symm.trans hf'
    obtain ⟨m, ⟨g, hg, -⟩, -⟩ := TransGen.head'_iff.1 hcb
    obtain ⟨q, hq, rfl⟩ := ih g hg
    exact ⟨q, .there hp hg hq, rfl⟩

theorem Below.depends {ps : List Prerequisite} {q : Prerequisite} (h : s.Below ps q) :
    ∀ id f, s.flags.get? id = some f → ps = f.requirements → s.Depends id q := by
  induction h with
  | here hp =>
    rintro id f hf rfl
    exact ⟨id, f, .refl, hf, hp⟩
  | @there ps p g q hp hg _ ih =>
    rintro id f hf rfl
    obtain ⟨a, k, hreach, hk, hq⟩ := ih p.flag g hg rfl
    exact ⟨a, k, hreach.head ⟨f, hf, p, hp, rfl⟩, hk, hq⟩

theorem Depends.requires {id : String} {p : Prerequisite} (h : s.Depends id p) :
    TransGen s.Requires id p.flag := by
  obtain ⟨a, f, hreach, hf, hp⟩ := h
  exact .tail' hreach ⟨f, hf, p, hp, rfl⟩

theorem depends_iff {id : String} {f : Flag} (hf : s.flags.get? id = some f) {p : Prerequisite} :
    s.Depends id p ↔ s.Below f.requirements p := by
  refine ⟨?_, fun h => h.depends id f hf rfl⟩
  rintro ⟨a, g, hreach, hg, hp⟩
  rcases reflTransGen_iff_eq_or_transGen.1 hreach with rfl | htrans
  · cases hf.symm.trans hg
    exact .here hp
  · obtain ⟨q, hq, rfl⟩ := exists_below htrans f hf
    exact hq.trans hg (.here hp)

theorem cycleFrom_iff {id : String} {f : Flag} (hf : s.flags.get? id = some f) :
    s.CycleFrom id ↔ ∃ q, s.Below f.requirements q ∧ TransGen s.Requires q.flag q.flag := by
  constructor
  · rintro ⟨a, hreach, hcycle⟩
    obtain ⟨q, hq, rfl⟩ := exists_below (TransGen.trans_right hreach hcycle) f hf
    exact ⟨q, hq, hcycle⟩
  · rintro ⟨q, hq, hcycle⟩
    exact ⟨q.flag, (hq.depends id f hf rfl).requires.to_reflTransGen, hcycle⟩

/-- Where flags require only those that stand before them in an order. -/
theorem cycleFree_of_order (order : List String)
    (h : ∀ entry ∈ s.flags.entries, ∀ p ∈ entry.2.requirements,
      order.idxOf p.flag < order.idxOf entry.1) (id : String) : ¬ s.CycleFrom id := by
  rintro ⟨a, -, hcycle⟩
  refine not_transGen_of_rank (order.idxOf ·) ?_ a hcycle
  rintro a b ⟨f, hf, p, hp, rfl⟩
  exact h _ (Table.mem_entries_of_get? hf) p hp

end Definitions

/-! ## What each outcome of a check says -/

namespace Evaluator

variable {e : Evaluator} {target : Target}

/-- The flag is stored and serves the target a variation, prerequisites apart. -/
def Resolvable (e : Evaluator) (target : Target) (id : String) : Prop :=
  ∃ f v, e.source.flags.get? id = some f ∧ (e.resolve f target).value = .ok v

/-- The flag that the prerequisite names serves the target one of its variations. -/
def Allows (e : Evaluator) (target : Target) (p : Prerequisite) : Prop :=
  ∃ f v, e.source.flags.get? p.flag = some f ∧ (e.resolve f target).value = .ok v ∧
    v.identifier ∈ p.variations

theorem not_resolvable_of_missing {id : String} (hf : e.source.flags.get? id = none) :
    ¬ e.Resolvable target id := by
  rintro ⟨f, v, hf', -⟩
  rw [hf] at hf'
  cases hf'

theorem not_resolvable_of_error (hac : Acyclic e.source.segments) {id : String} {f : Flag}
    {cause : EvaluationError} {calls : List Call} (hf : e.source.flags.get? id = some f)
    (hr : Resolves e.source.segments e.config.bucketFallback target f (.error cause) calls) :
    ¬ e.Resolvable target id := by
  rintro ⟨f', v, hf', hv⟩
  cases hf.symm.trans hf'
  rw [resolve_of_resolves hac hr] at hv
  cases hv

theorem below_of_met (hac : Acyclic e.source.segments) {path : List String}
    {ps : List Prerequisite} {outcome : Except EvaluationError Bool} {calls : List Call}
    (h : Checks e.source.toDefinitions e.config.bucketFallback target path ps outcome calls)
    (ho : outcome = .ok true) (hall : ∀ q, e.source.Below ps q → e.Resolvable target q.flag) :
    ∀ q, e.source.Below ps q →
      e.Allows target q ∧ q.flag ∉ path ∧ ¬ TransGen e.source.Requires q.flag q.flag := by
  induction h with
  | done =>
    intro q hq
    cases hq with
    | here hp => cases hp
    | there hp => cases hp
  | cycle hp => cases ho
  | missing hp hf => exact absurd (hall _ (.here List.mem_cons_self)) (not_resolvable_of_missing hf)
  | unresolved hp hf hr =>
    exact absurd (hall _ (.here List.mem_cons_self)) (not_resolvable_of_error hac hf hr)
  | refused => cases ho
  | stopped hp hf hr hv nested hne => exact absurd ho hne
  | @passed path p ps f v outcome _ _ _ hp hf hr hv nested rest ihn ih =>
    have hnested := ihn rfl fun q hq => hall q (.there List.mem_cons_self hf hq)
    have hrest := ih ho fun q hq => hall q hq.cons
    intro q hq
    rcases Definitions.below_cons hq with rfl | ⟨f', hf', hq⟩ | hq
    · refine ⟨⟨f, v, hf, resolve_of_resolves hac hr, hv⟩, hp, fun hcycle => ?_⟩
      -- a way back to the flag would lead below it to a name that is on its own path
      obtain ⟨r, hr, hback⟩ := Definitions.exists_below hcycle f hf
      exact (hnested r hr).2.1 (by rw [hback]; simp)
    · cases hf.symm.trans hf'
      obtain ⟨ha, hpath, hcycle⟩ := hnested q hq
      exact ⟨ha, fun hmem => hpath (List.mem_append_left _ hmem), hcycle⟩
    · exact hrest q hq

/-- A check fails for no other reason than a cycle. -/
theorem cyclic_of_checks {defs : Definitions} {fallback : String} {path : List String}
    {ps : List Prerequisite} {outcome : Except EvaluationError Bool} {calls : List Call}
    (h : Checks defs fallback target path ps outcome calls) {cause : EvaluationError}
    (ho : outcome = .error cause) : ∃ flag chain, cause = .cyclicPrerequisite flag chain := by
  induction h with
  | done | missing | unresolved | refused => cases ho
  | cycle =>
    cases ho
    exact ⟨_, _, rfl⟩
  | stopped hp hf hr hv nested hne ih => exact ih ho
  | passed hp hf hr hv nested rest ihn ih => exact ih ho

theorem cycle_of_error {defs : Definitions} {fallback : String} {path : List String}
    {ps : List Prerequisite} {outcome : Except EvaluationError Bool} {calls : List Call}
    (h : Checks defs fallback target path ps outcome calls) {cause : EvaluationError}
    (ho : outcome = .error cause) (hpath : ∀ a ∈ path, ∀ p ∈ ps, TransGen defs.Requires a p.flag) :
    ∃ q, defs.Below ps q ∧ TransGen defs.Requires q.flag q.flag := by
  induction h with
  | done | missing | unresolved | refused => cases ho
  | @cycle path p ps hp =>
    cases ho
    exact ⟨p, .here List.mem_cons_self, hpath _ hp _ List.mem_cons_self⟩
  | @stopped path p ps f v outcome _ _ hp hf hr hv nested hne ih =>
    have hin : ∀ a ∈ path ++ [p.flag], ∀ q ∈ f.requirements, TransGen defs.Requires a q.flag := by
      intro a ha q hq
      have hstep : defs.Requires p.flag q.flag := ⟨f, hf, q, hq, rfl⟩
      rcases List.mem_append.1 ha with ha | ha
      · exact (hpath a ha p List.mem_cons_self).tail hstep
      · rw [List.mem_singleton.1 ha]
        exact .single hstep
    obtain ⟨q, hq, hcycle⟩ := ih ho hin
    exact ⟨q, .there List.mem_cons_self hf hq, hcycle⟩
  | @passed path p ps f v outcome _ _ _ hp hf hr hv nested rest ihn ih =>
    obtain ⟨q, hq, hcycle⟩ := ih ho fun a ha q hq => hpath a ha q (List.mem_cons_of_mem p hq)
    exact ⟨q, hq.cons, hcycle⟩

theorem not_allowed_of_unmet (hac : Acyclic e.source.segments) {path : List String}
    {ps : List Prerequisite} {outcome : Except EvaluationError Bool} {calls : List Call}
    (h : Checks e.source.toDefinitions e.config.bucketFallback target path ps outcome calls)
    (ho : outcome = .ok false) : ∃ q, e.source.Below ps q ∧ ¬ e.Allows target q := by
  induction h with
  | done | cycle | missing | unresolved => cases ho
  | @refused path p ps f v calls hp hf hr hv =>
    refine ⟨p, .here List.mem_cons_self, ?_⟩
    rintro ⟨f', v', hf', hr', hv'⟩
    cases hf.symm.trans hf'
    rw [resolve_of_resolves hac hr] at hr'
    cases hr'
    exact hv hv'
  | stopped hp hf hr hv nested hne ih =>
    obtain ⟨q, hq, hna⟩ := ih ho
    exact ⟨q, .there List.mem_cons_self hf hq, hna⟩
  | passed hp hf hr hv nested rest ihn ih =>
    obtain ⟨q, hq, hna⟩ := ih ho
    exact ⟨q, hq.cons, hna⟩

/-- Every prerequisite in the graph from `id` is allowed. -/
def AllowsAll (e : Evaluator) (target : Target) (id : String) : Prop :=
  ∀ p, e.source.Depends id p → e.Allows target p

theorem cyclic_of_error (hac : Acyclic e.source.segments) {f : Flag} {cause : EvaluationError}
    (ho : (e.checkPrerequisites f target).value = .error cause) :
    ∃ flag chain, cause = .cyclicPrerequisite flag chain := by
  obtain ⟨calls, h⟩ := (checks_iff hac target f).2 ho
  exact cyclic_of_checks h rfl

/-- A check of a stored flag that fails has come back to a flag on its path. -/
theorem cycleFrom_of_error (hac : Acyclic e.source.segments) {f : Flag}
    (hf : e.source.flags.get? f.identifier = some f) {cause : EvaluationError}
    (ho : (e.checkPrerequisites f target).value = .error cause) :
    e.source.CycleFrom f.identifier := by
  obtain ⟨calls, h⟩ := (checks_iff hac target f).2 ho
  have hstart : ∀ a ∈ [f.identifier], ∀ p ∈ f.requirements,
      TransGen e.source.Requires a p.flag := by
    intro a ha p hp
    rw [List.mem_singleton.1 ha]
    exact .single ⟨f, hf, p, hp, rfl⟩
  exact (Definitions.cycleFrom_iff hf).2 (cycle_of_error h rfl hstart)

/-- A check that is met has allowed everything in the graph, and found no cycle. -/
theorem allowsAll_of_met (hac : Acyclic e.source.segments) {f : Flag}
    (hf : e.source.flags.get? f.identifier = some f)
    (hall : ∀ p, e.source.Depends f.identifier p → e.Resolvable target p.flag)
    (ho : (e.checkPrerequisites f target).value = .ok true) :
    e.AllowsAll target f.identifier ∧ ¬ e.source.CycleFrom f.identifier := by
  obtain ⟨calls, h⟩ := (checks_iff hac target f).2 ho
  have hbelow := below_of_met hac h rfl fun q hq => hall q ((Definitions.depends_iff hf).2 hq)
  refine ⟨fun p hp => (hbelow p ((Definitions.depends_iff hf).1 hp)).1, fun hcycle => ?_⟩
  obtain ⟨q, hq, hback⟩ := (Definitions.cycleFrom_iff hf).1 hcycle
  exact (hbelow q hq).2.2 hback

/-- A check that is not met has come upon a prerequisite in the graph that is not allowed. -/
theorem not_allowsAll_of_unmet (hac : Acyclic e.source.segments) {f : Flag}
    (hf : e.source.flags.get? f.identifier = some f)
    (ho : (e.checkPrerequisites f target).value = .ok false) :
    ¬ e.AllowsAll target f.identifier := by
  obtain ⟨calls, h⟩ := (checks_iff hac target f).2 ho
  obtain ⟨q, hq, hna⟩ := not_allowed_of_unmet hac h rfl
  exact fun hyes => hna (hyes q ((Definitions.depends_iff hf).2 hq))

theorem met_or_unmet (hac : Acyclic e.source.segments) {f : Flag}
    (hf : e.source.flags.get? f.identifier = some f)
    (hall : ∀ p, e.source.Depends f.identifier p → e.Resolvable target p.flag)
    (hfree : ¬ e.source.CycleFrom f.identifier) :
    ((e.checkPrerequisites f target).value = .ok true ∧ e.AllowsAll target f.identifier) ∨
      ((e.checkPrerequisites f target).value = .ok false ∧ ¬ e.AllowsAll target f.identifier) := by
  cases ho : (e.checkPrerequisites f target).value with
  | error cause => exact absurd (cycleFrom_of_error hac hf ho) hfree
  | ok met =>
    cases met with
    | true => exact .inl ⟨rfl, (allowsAll_of_met hac hf hall ho).1⟩
    | false => exact .inr ⟨rfl, not_allowsAll_of_unmet hac hf ho⟩

theorem unmet_or_cyclic (hac : Acyclic e.source.segments) {f : Flag}
    (hf : e.source.flags.get? f.identifier = some f)
    (hall : ∀ p, e.source.Depends f.identifier p → e.Resolvable target p.flag)
    (hcycle : e.source.CycleFrom f.identifier) :
    (e.checkPrerequisites f target).value = .ok false ∨
      ∃ flag chain, (e.checkPrerequisites f target).value =
        .error (.cyclicPrerequisite flag chain) := by
  cases ho : (e.checkPrerequisites f target).value with
  | error cause =>
    obtain ⟨flag, chain, rfl⟩ := cyclic_of_error hac ho
    exact .inr ⟨flag, chain, rfl⟩
  | ok met =>
    cases met with
    | false => exact .inl rfl
    | true => exact absurd hcycle (allowsAll_of_met hac hf hall ho).2

end Evaluator

/-! ## The order of prerequisites -/

/-- The same flag, but for the order of its prerequisites. -/
def Flag.Reordered (f g : Flag) : Prop :=
  g = { f with prerequisites := g.prerequisites } ∧ f.requirements.Perm g.requirements

theorem Flag.Reordered.symm {f g : Flag} (h : f.Reordered g) : g.Reordered f := by
  obtain ⟨heq, hperm⟩ := h
  refine ⟨?_, hperm.symm⟩
  rw [heq]

/-- The same segments and the same flags, but for the order of prerequisites. -/
structure Definitions.Reordered (s t : Definitions) : Prop where
  segments : s.segments = t.segments
  flags : ∀ id, Option.Rel Flag.Reordered (s.flags.get? id) (t.flags.get? id)

namespace Definitions.Reordered

variable {s t : Definitions}

theorem symm (h : s.Reordered t) : t.Reordered s := by
  refine ⟨h.segments.symm, fun id => ?_⟩
  have hrel := h.flags id
  generalize s.flags.get? id = f, t.flags.get? id = g at hrel
  cases hrel with
  | none => exact .none
  | some hfg => exact .some hfg.symm

theorem get? (h : s.Reordered t) {id : String} {f : Flag} (hf : s.flags.get? id = some f) :
    ∃ g, t.flags.get? id = some g ∧ f.Reordered g := by
  have hrel := h.flags id
  rw [hf] at hrel
  cases hg : t.flags.get? id with
  | none => rw [hg] at hrel; cases hrel
  | some g => rw [hg] at hrel; cases hrel with | some hfg => exact ⟨g, rfl, hfg⟩

theorem identifier_eq (h : s.Reordered t) {id : String} {f g : Flag} (hf : s.flags.get? id = some f)
    (hg : t.flags.get? id = some g) : g.identifier = f.identifier := by
  obtain ⟨g', hg', hfg⟩ := h.get? hf
  obtain rfl : g = g' := Option.some.inj (hg.symm.trans hg')
  rw [hfg.1]

theorem requires (h : s.Reordered t) : s.Requires ≤ t.Requires := by
  rintro a b ⟨f, hf, p, hp, rfl⟩
  obtain ⟨g, hg, hfg⟩ := h.get? hf
  exact ⟨g, hg, p, hfg.2.mem_iff.1 hp, rfl⟩

theorem depends (h : s.Reordered t) {id : String} {p : Prerequisite} (hp : s.Depends id p) :
    t.Depends id p := by
  obtain ⟨a, f, hreach, hf, hmem⟩ := hp
  obtain ⟨g, hg, hfg⟩ := h.get? hf
  exact ⟨a, g, ReflTransGen.mono h.requires _ _ hreach, hg, hfg.2.mem_iff.1 hmem⟩

theorem cycleFrom (h : s.Reordered t) {id : String} (hc : s.CycleFrom id) : t.CycleFrom id := by
  obtain ⟨a, hreach, hcycle⟩ := hc
  exact ⟨a, ReflTransGen.mono h.requires _ _ hreach, TransGen.mono h.requires _ _ hcycle⟩

end Definitions.Reordered

namespace Evaluator

variable {e e' : Evaluator} {target : Target}

/-- What a flag serves does not depend on its prerequisites, nor on anything but segments and
settings. -/
theorem value_resolve_congr (hac : Acyclic e.source.segments)
    (hs : e.source.segments = e'.source.segments) (hc : e.config = e'.config) {f g : Flag}
    (hfg : g = { f with prerequisites := g.prerequisites }) :
    (e'.resolve g target).value = (e.resolve f target).value := by
  obtain ⟨calls, h⟩ := (resolves_iff hac target f).2 rfl
  rw [hs, hc] at h
  have hf : (e'.resolve f target).value = (e.resolve f target).value :=
    (resolves_iff (hs ▸ hac) target f).1 ⟨calls, h⟩
  rw [hfg, ← hf]
  rfl

theorem resolvable_of_reordered (hac : Acyclic e.source.segments)
    (h : e.source.Reordered e'.source.toDefinitions) (hc : e.config = e'.config) {id : String}
    (hr : e.Resolvable target id) : e'.Resolvable target id := by
  obtain ⟨f, v, hf, hv⟩ := hr
  obtain ⟨g, hg, hfg⟩ := h.get? hf
  exact ⟨g, v, hg, by rw [value_resolve_congr hac h.segments hc hfg.1, hv]⟩

theorem allows_of_reordered (hac : Acyclic e.source.segments)
    (h : e.source.Reordered e'.source.toDefinitions) (hc : e.config = e'.config) {p : Prerequisite}
    (ha : e.Allows target p) : e'.Allows target p := by
  obtain ⟨f, v, hf, hv, hmem⟩ := ha
  obtain ⟨g, hg, hfg⟩ := h.get? hf
  exact ⟨g, v, hg, by rw [value_resolve_congr hac h.segments hc hfg.1, hv], hmem⟩

theorem allowsAll_of_reordered (hac : Acyclic e.source.segments)
    (h : e.source.Reordered e'.source.toDefinitions) (hc : e.config = e'.config) {id : String}
    (ha : e.AllowsAll target id) : e'.AllowsAll target id :=
  fun p hp => allows_of_reordered hac h hc (ha p (h.symm.depends hp))

/-- **The check decides the graph.** Where every flag that prerequisites lead to is stored and
resolves, a flag from which no cycle can be reached is met exactly if every prerequisite in the
graph is allowed, whatever order the prerequisites of any flag are listed in; and a flag from which
a cycle can be reached is never met. -/
theorem check_decides_graph (e : Evaluator) (target : Target) (hac : Acyclic e.source.segments)
    (f : Flag) (hf : e.source.flags.get? f.identifier = some f)
    (hall : ∀ p, e.source.Depends f.identifier p → e.Resolvable target p.flag) :
    (¬ e.source.CycleFrom f.identifier →
      (e.AllowsAll target f.identifier → (e.checkPrerequisites f target).value = .ok true) ∧
      (¬ e.AllowsAll target f.identifier → (e.checkPrerequisites f target).value = .ok false) ∧
      ∀ (e' : Evaluator) (g : Flag), e.source.Reordered e'.source.toDefinitions →
        e.config = e'.config →
        e'.source.flags.get? f.identifier = some g →
        (e'.checkPrerequisites g target).value = (e.checkPrerequisites f target).value) ∧
    (e.source.CycleFrom f.identifier →
      (e.checkPrerequisites f target).value = .ok false ∨
        ∃ flag chain, (e.checkPrerequisites f target).value =
          .error (.cyclicPrerequisite flag chain)) := by
  refine ⟨fun hfree => ⟨fun hyes => ?_, fun hno => ?_, ?_⟩, unmet_or_cyclic hac hf hall⟩
  · rcases met_or_unmet hac hf hall hfree with ⟨hmet, -⟩ | ⟨-, hno⟩
    · exact hmet
    · exact absurd hyes hno
  · rcases met_or_unmet hac hf hall hfree with ⟨-, hyes⟩ | ⟨hunmet, -⟩
    · exact absurd hyes hno
    · exact hunmet
  · intro e' g h hc hg
    have hid : g.identifier = f.identifier := h.identifier_eq hf hg
    have hac' : Acyclic e'.source.segments := h.segments ▸ hac
    have hall' : ∀ p, e'.source.Depends g.identifier p → e'.Resolvable target p.flag :=
      fun p hp => resolvable_of_reordered hac h hc (hall p (h.symm.depends (hid ▸ hp)))
    have hfree' : ¬ e'.source.CycleFrom g.identifier :=
      fun hcycle => hfree (h.symm.cycleFrom (hid ▸ hcycle))
    have hiff : e'.AllowsAll target g.identifier ↔ e.AllowsAll target f.identifier := by
      rw [hid]
      exact ⟨allowsAll_of_reordered hac' h.symm hc.symm, allowsAll_of_reordered hac h hc⟩
    rcases met_or_unmet hac hf hall hfree with ⟨hv, hyes⟩ | ⟨hv, hno⟩ <;>
      rcases met_or_unmet hac' (hid ▸ hg) hall' hfree' with ⟨hv', hyes'⟩ | ⟨hv', hno'⟩
    · rw [hv, hv']
    · exact absurd (hiff.2 hyes) hno'
    · exact absurd (hiff.1 hyes') hno
    · rw [hv, hv']

/-! ## A diamond -/

/-- A flag with two prerequisites that share one. -/
def diamondTop : Flag :=
  ((Flag.boolean "top").withPrerequisite ⟨"left", ["false"]⟩).withPrerequisite ⟨"right", ["false"]⟩

def diamond : Evaluator :=
  .ofSnapshot
    ⟨[diamondTop, (Flag.boolean "left").withPrerequisite ⟨"base", ["false"]⟩,
      (Flag.boolean "right").withPrerequisite ⟨"base", ["false"]⟩, Flag.boolean "base"], []⟩

theorem diamond_allows {id : String} {p : Prerequisite} (h : diamond.source.Depends id p)
    (target : Target) : diamond.Allows target p := by
  obtain ⟨a, f, -, hf, hp⟩ := h
  have hall : ∀ entry ∈ diamond.source.flags.entries, ∀ p ∈ entry.2.requirements,
      (p.flag = "left" ∨ p.flag = "right" ∨ p.flag = "base") ∧ "false" ∈ p.variations := by decide
  obtain ⟨hflag, hmem⟩ := hall _ (Table.mem_entries_of_get? hf) p hp
  rcases hflag with h | h | h
  · exact ⟨(Flag.boolean "left").withPrerequisite ⟨"base", ["false"]⟩, .new "false" "false",
      by rw [h]; rfl, rfl, hmem⟩
  · exact ⟨(Flag.boolean "right").withPrerequisite ⟨"base", ["false"]⟩, .new "false" "false",
      by rw [h]; rfl, rfl, hmem⟩
  · exact ⟨Flag.boolean "base", .new "false" "false", by rw [h]; rfl, rfl, hmem⟩

theorem diamond_cycleFree (id : String) : ¬ diamond.source.CycleFrom id :=
  Definitions.cycleFree_of_order ["base", "left", "right", "top"] (by decide) id

/-- The flag that two others share is no cycle. -/
theorem diamond_is_met :
    Acyclic diamond.source.segments ∧
      diamond.source.flags.get? "top" = some diamondTop ∧
      (∀ p, diamond.source.Depends "top" p → diamond.Resolvable (.new "user") p.flag) ∧
      (diamond.checkPrerequisites diamondTop (.new "user")).value = .ok true := by
  have hall : ∀ p, diamond.source.Depends "top" p → diamond.Resolvable (.new "user") p.flag := by
    intro p hp
    obtain ⟨f, v, hf, hv, -⟩ := diamond_allows hp (.new "user")
    exact ⟨f, v, hf, hv⟩
  refine ⟨acyclic_empty, rfl, hall, ?_⟩
  exact ((check_decides_graph diamond (.new "user") acyclic_empty diamondTop rfl hall).1
    (diamond_cycleFree _)).1 fun p hp => diamond_allows hp _

end Evaluator
end FeatureFlags
