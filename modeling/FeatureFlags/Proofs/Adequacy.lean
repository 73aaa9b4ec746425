import FeatureFlags.Proofs.Course

/-!
# The evaluator follows the course

Where segments refer to each other without a cycle, every question, flag, check and evaluation has a
derivation by the rules of `Course`, and what it comes to is the value that the evaluator computes.
The trace of the evaluator plays no part.

**Results.**
* `answers_iff`, `resolves_iff`, `checks_iff`, `evaluates_iff`: there is a derivation of exactly the
  value that is computed.
-/
namespace FeatureFlags

open Segment Course

namespace Evaluator

/-- The answer to a question about a target. -/
def answer (e : Evaluator) (target : Target) : Question → Bool
  | .member ids => (e.inSegments target ids).value
  | .clauses cs => (e.matchesAll target cs).value

variable {e : Evaluator} {target : Target}

/-! ## Questions -/

theorem answer_of_answers (hac : Acyclic e.source.segments) {chain : List String} {q : Question}
    {b : Bool} {calls : List Call} (h : Answers e.source.segments target chain q b calls) :
    e.answer target q = b := by
  induction h with
  | noSegment => rfl
  | missing hs => rw [answer, value_inSegments_cons e target hac, hs]
  | listed hs hl => rw [answer, value_inSegments_cons e target hac, hs]; simp only [hl]
  | unruled hs hl hr rest ih =>
    rw [answer, value_inSegments_cons e target hac, hs, ← ih]
    simp [hl, hr, answer]
  | matched hs hl hr rules ih =>
    rw [answer] at ih
    rw [answer, value_inSegments_cons e target hac, hs]
    simp [hl, hr, ih]
  | unmatched hs hl hr rules rest ihr ih =>
    rw [answer] at ihr
    rw [answer, value_inSegments_cons e target hac, hs, ← ih]
    simp [hl, ihr, answer]
  | noClause => rfl
  | fails hop hc => rw [answer, value_matchesAll_cons, if_neg hop, hc, Bool.false_and]
  | holds hop hc rest ih =>
    rw [answer, value_matchesAll_cons, if_neg hop, hc, Bool.true_and, ← ih, answer]
  | outside hop asked ih =>
    rw [answer] at ih
    rw [answer, value_matchesAll_cons, if_pos hop, ih, Bool.false_and]
  | inside hop asked rest iha ih =>
    rw [answer] at iha
    rw [answer, value_matchesAll_cons, if_pos hop, iha, Bool.true_and, ← ih, answer]

theorem inSegments_of_answers (hac : Acyclic e.source.segments) {chain ids : List String} {b : Bool}
    {calls : List Call} (h : Answers e.source.segments target chain (.member ids) b calls) :
    (e.inSegments target ids).value = b :=
  answer_of_answers hac h

theorem matchesAll_of_answers (hac : Acyclic e.source.segments) {chain : List String}
    {cs : List Clause} {b : Bool} {calls : List Call}
    (h : Answers e.source.segments target chain (.clauses cs) b calls) :
    (e.matchesAll target cs).value = b :=
  answer_of_answers hac h

/-- A list of segments has its answer once the rules of the segments in it have theirs. -/
theorem exists_answers_member (hac : Acyclic e.source.segments) {chain ids : List String}
    (hrules : ∀ id ∈ ids, ∀ segment, e.source.segments.get? id = some segment →
      ∃ calls, Answers e.source.segments target (chain ++ [id]) (.clauses segment.ruleClauses)
        (e.answer target (.clauses segment.ruleClauses)) calls) :
    ∃ calls, Answers e.source.segments target chain (.member ids) (e.answer target (.member ids))
      calls := by
  induction ids with
  | nil => exact ⟨[], .noSegment⟩
  | cons id ids ih =>
    obtain ⟨calls', hrest⟩ := ih fun x hx => hrules x (List.mem_cons_of_mem id hx)
    rw [answer, value_inSegments_cons e target hac]
    cases hs : e.source.segments.get? id with
    | none => exact ⟨[], .missing hs⟩
    | some segment =>
      dsimp only
      cases hl : segment.listing? target.identifier with
      | some listed => exact ⟨[], .listed hs hl⟩
      | none =>
        dsimp only
        by_cases hr : segment.ruleClauses = []
        · rw [hr, List.isEmpty_nil, Bool.not_true, Bool.false_and, Bool.false_or]
          exact ⟨calls', .unruled hs hl hr hrest⟩
        · obtain ⟨calls, hcl⟩ := hrules id List.mem_cons_self segment hs
          rw [List.isEmpty_eq_false_iff.2 hr, Bool.not_false, Bool.true_and]
          rw [answer] at hcl
          cases hm : (e.matchesAll target segment.ruleClauses).value with
          | true => exact ⟨_, .matched hs hl hr (hm ▸ hcl)⟩
          | false => exact ⟨_, .unmatched hs hl hr (hm ▸ hcl) hrest⟩

/-- A list of clauses has its answer once the segments that it asks for have theirs. -/
theorem exists_answers_clauses {chain : List String} {cs : List Clause}
    (hasked : ∀ c ∈ cs, c.operator = .segmentMatch →
      ∃ calls, Answers e.source.segments target chain (.member c.values)
        (e.answer target (.member c.values)) calls) :
    ∃ calls, Answers e.source.segments target chain (.clauses cs) (e.answer target (.clauses cs))
      calls := by
  induction cs with
  | nil => exact ⟨[], .noClause⟩
  | cons c cs ih =>
    obtain ⟨calls', hrest⟩ := ih fun x hx => hasked x (List.mem_cons_of_mem c hx)
    rw [answer, value_matchesAll_cons]
    by_cases hop : c.operator = .segmentMatch
    · obtain ⟨calls, hc⟩ := hasked c List.mem_cons_self hop
      rw [answer] at hc
      rw [if_pos hop]
      cases hm : (e.inSegments target c.values).value with
      | true => exact ⟨_, .inside hop (hm ▸ hc) hrest⟩
      | false => exact ⟨_, .outside hop (hm ▸ hc)⟩
    · rw [if_neg hop]
      cases hc : c.holds target with
      | true => exact ⟨_, .holds hop hc hrest⟩
      | false => exact ⟨_, .fails hop hc⟩

/-- The induction is on how many more segments the chain can take. -/
theorem exists_answers (hac : Acyclic e.source.segments) :
    ∀ n chain q, Chained e.source.segments chain q →
      e.source.segmentCount < n + chain.length →
      ∃ calls, Answers e.source.segments target chain q (e.answer target q) calls := by
  intro n
  induction n with
  | zero =>
    intro chain q hch hlt
    have hle : chain.length ≤ e.source.segmentCount := hch.length_le
    omega
  | succ n ih =>
    have hmember : ∀ chain ids, Chained e.source.segments chain (.member ids) →
        e.source.segmentCount < n + 1 + chain.length →
        ∃ calls, Answers e.source.segments target chain (.member ids)
          (e.answer target (.member ids)) calls := by
      intro chain ids hch hlt
      refine exists_answers_member hac fun id hid segment hs => ?_
      refine ih (chain ++ [id]) _ (hch.enter hac hid hs) ?_
      rw [List.length_append, List.length_singleton]
      omega
    intro chain q hch hlt
    cases q with
    | member ids => exact hmember chain ids hch hlt
    | clauses cs =>
      exact exists_answers_clauses fun c hc hop => hmember chain c.values (hch.asked hc hop) hlt

theorem answers_iff (hac : Acyclic e.source.segments) (target : Target) (q : Question) {b : Bool} :
    (∃ calls, Answers e.source.segments target [] q b calls) ↔ e.answer target q = b := by
  constructor
  · rintro ⟨calls, h⟩
    exact answer_of_answers hac h
  · rintro rfl
    exact exists_answers hac (e.source.segmentCount + 1) [] q (.start _ _) (Nat.lt_succ_self _)

/-! ## Overrides and rules -/

theorem value_overrides (o : Override) :
    (e.overrides target o).value =
      (o.names target || (e.inSegments target (o.segments.getD [])).value) := by
  unfold overrides Override.names
  split
  · next hn => rw [hn]; rfl
  · next hn =>
    rw [Bool.not_eq_true _ |>.mp hn, Bool.false_or]
    cases o.segments <;> rfl

theorem value_overrideFor_cons (o : Override) (os : List Override) :
    (e.overrideFor target (o :: os)).value =
      if (e.overrides target o).value then some o.variation
      else (e.overrideFor target os).value := by
  rw [overrideFor, Traced.value_bind]
  cases (e.overrides target o).value <;> rfl

theorem overrideFor_of_gives (hac : Acyclic e.source.segments) {os : List Override}
    {v : Option String} {calls : List Call}
    (h : OverrideGives e.source.segments target os v calls) :
    (e.overrideFor target os).value = v := by
  induction h with
  | nothing => rfl
  | named hn => rw [value_overrideFor_cons, value_overrides, hn, Bool.true_or, if_pos rfl]
  | inside hn asked =>
    have hin := inSegments_of_answers hac asked
    rw [value_overrideFor_cons, value_overrides, hn, hin, Bool.false_or, if_pos rfl]
  | outside hn asked rest ih =>
    have hout := inSegments_of_answers hac asked
    rw [value_overrideFor_cons, value_overrides, hn, hout, Bool.false_or, if_neg Bool.false_ne_true,
      ih]

theorem exists_overrideGives (hac : Acyclic e.source.segments) (target : Target)
    (os : List Override) :
    ∃ calls, OverrideGives e.source.segments target os (e.overrideFor target os).value calls := by
  induction os with
  | nil => exact ⟨[], .nothing⟩
  | cons o os ih =>
    obtain ⟨calls', hrest⟩ := ih
    rw [value_overrideFor_cons, value_overrides]
    cases hn : o.names target with
    | true => exact ⟨[], .named hn⟩
    | false =>
      obtain ⟨calls, hq⟩ := (answers_iff hac target (.member (o.segments.getD []))).2 rfl
      rw [answer] at hq
      rw [Bool.false_or]
      cases hm : (e.inSegments target (o.segments.getD [])).value with
      | true => exact ⟨_, .inside hn (hm ▸ hq)⟩
      | false => exact ⟨_, .outside hn (hm ▸ hq) hrest⟩

theorem value_ruleFor_cons (flag : String) (r : Rule) (rs : List Rule) :
    (e.ruleFor flag target (r :: rs)).value =
      if (e.matchesAll target r.clauses).value then
        (e.handOut? flag target r.serve).getD (e.ruleFor flag target rs).value
      else (e.ruleFor flag target rs).value := by
  rw [ruleFor, Traced.value_bind]
  cases (e.matchesAll target r.clauses).value with
  | false => rfl
  | true => cases e.handOut? flag target r.serve <;> rfl

theorem ruleFor_of_gives (hac : Acyclic e.source.segments) {flag : String} {rs : List Rule}
    {v : Option String} {calls : List Call}
    (h : RuleGives e.source.segments e.config.bucketFallback target flag rs v calls) :
    (e.ruleFor flag target rs).value = v := by
  induction h with
  | nothing => rfl
  | unmatched asked rest ih =>
    rw [value_ruleFor_cons, matchesAll_of_answers hac asked, if_neg Bool.false_ne_true, ih]
  | distribution asked hd =>
    rw [value_ruleFor_cons, matchesAll_of_answers hac asked, if_pos rfl, handOut?, hd,
      Option.getD_some]
  | fixed asked hd hv =>
    rw [value_ruleFor_cons, matchesAll_of_answers hac asked, if_pos rfl, handOut?, hd, hv,
      Option.getD_some]
  | idle asked hd hv rest ih =>
    rw [value_ruleFor_cons, matchesAll_of_answers hac asked, if_pos rfl, handOut?, hd, hv,
      Option.getD_none, ih]

theorem exists_ruleGives (hac : Acyclic e.source.segments) (target : Target) (flag : String)
    (rs : List Rule) :
    ∃ calls, RuleGives e.source.segments e.config.bucketFallback target flag rs
      (e.ruleFor flag target rs).value calls := by
  induction rs with
  | nil => exact ⟨[], .nothing⟩
  | cons r rs ih =>
    obtain ⟨calls', hrest⟩ := ih
    obtain ⟨calls, hq⟩ := (answers_iff hac target (.clauses r.clauses)).2 rfl
    rw [answer] at hq
    rw [value_ruleFor_cons]
    cases hm : (e.matchesAll target r.clauses).value with
    | false => exact ⟨_, .unmatched (hm ▸ hq) hrest⟩
    | true =>
      rw [if_pos rfl, handOut?]
      cases hd : r.serve.distribution with
      | some d => exact ⟨_, .distribution (hm ▸ hq) hd⟩
      | none =>
        cases hv : r.serve.variation with
        | some v => exact ⟨_, .fixed (hm ▸ hq) hd hv⟩
        | none => exact ⟨_, .idle (hm ▸ hq) hd hv hrest⟩

/-! ## Flags -/

theorem value_choose (f : Flag) :
    (e.choose f target).value =
      if f.isOn then
        ((e.overrideFor target (f.overrides.getD [])).value.or
          (e.rulesFor f.identifier target (f.rules.getD [])).value).or
            (e.defaultFor f.identifier target f.defaultServe)
      else some f.offVariation := by
  unfold choose
  cases f.isOn with
  | false => rfl
  | true =>
    simp only [Bool.not_true, Bool.false_eq_true, if_false, if_true, Traced.value_bind]
    cases (e.overrideFor target (f.overrides.getD [])).value with
    | some v => rfl
    | none =>
      simp only [Traced.value_bind]
      cases (e.rulesFor f.identifier target (f.rules.getD [])).value <;> rfl

theorem value_resolve (f : Flag) : (e.resolve f target).value =
    f.settle (e.choose f target).value := rfl

theorem resolves_iff (hac : Acyclic e.source.segments) (target : Target) (f : Flag)
    {outcome : Except EvaluationError Variation} :
    (∃ calls, Resolves e.source.segments e.config.bucketFallback target f outcome calls) ↔
      (e.resolve f target).value = outcome := by
  rw [value_resolve, value_choose]
  constructor
  · rintro ⟨calls, h⟩
    cases h with
    | off hon => rw [hon, if_neg Bool.false_ne_true]
    | overridden hon os => rw [hon, if_pos rfl, overrideFor_of_gives hac os]; rfl
    | ruled hon os rs =>
      rw [hon, if_pos rfl, overrideFor_of_gives hac os, rulesFor, ruleFor_of_gives hac rs]
      rfl
    | default hon os rs =>
      rw [hon, if_pos rfl, overrideFor_of_gives hac os, rulesFor, ruleFor_of_gives hac rs]
      rfl
  · rintro rfl
    cases hon : f.isOn with
    | false => exact ⟨[], .off hon⟩
    | true =>
      rw [if_pos rfl]
      obtain ⟨calls, os⟩ := exists_overrideGives hac target (f.overrides.getD [])
      obtain ⟨calls', rs⟩ :=
        exists_ruleGives hac target f.identifier (Rule.byPriority (f.rules.getD []))
      cases ho : (e.overrideFor target (f.overrides.getD [])).value with
      | some v => exact ⟨_, .overridden hon (ho ▸ os)⟩
      | none =>
        rw [rulesFor]
        cases hr : (e.ruleFor f.identifier target (Rule.byPriority (f.rules.getD []))).value with
        | some v => exact ⟨_, .ruled hon (ho ▸ os) (hr ▸ rs)⟩
        | none => exact ⟨_, .default hon (ho ▸ os) (hr ▸ rs)⟩

theorem resolve_of_resolves (hac : Acyclic e.source.segments) {f : Flag}
    {outcome : Except EvaluationError Variation} {calls : List Call}
    (h : Resolves e.source.segments e.config.bucketFallback target f outcome calls) :
    (e.resolve f target).value = outcome :=
  (resolves_iff hac target f).1 ⟨calls, h⟩

/-! ## Prerequisites -/

theorem value_checkFrom_cons (path : List String) (flag : String) (p : Prerequisite)
    (ps : List Prerequisite) :
    (e.checkFrom target path flag (p :: ps)).value =
      if p.flag ∈ path then .error (.cyclicPrerequisite p.flag (path ++ [p.flag]))
      else
        match e.source.flags.get? p.flag with
        | none => .ok true
        | some f =>
          match (e.resolve f target).value with
          | .error _ => .ok true
          | .ok v =>
            if v.identifier ∉ p.variations then .ok false
            else
              match (e.checkFrom target (path ++ [p.flag]) f.identifier f.requirements).value with
              | .ok true => (e.checkFrom target path flag ps).value
              | outcome => outcome := by
  rw [checkFrom_cons]
  split
  · rfl
  · cases hl : e.source.lookupFlag p.flag with
    | error cause =>
      rw [Source.lookupFlag_eq_error hl]
      rfl
    | ok f =>
      rw [Source.lookupFlag_eq_ok.1 hl]
      dsimp only
      rw [Traced.value_bind]
      cases (e.resolve f target).value with
      | error cause => rfl
      | ok v =>
        simp only [Traced.value_bind]
        split
        · rfl
        · unfold Flag.requirements
          cases f.prerequisites with
          | none => simp only [Option.getD_none, checkFrom, Traced.value_pure]
          | some rs =>
            simp only [Option.getD_some, Traced.value_bind]
            rcases (e.checkFrom target (path ++ [p.flag]) f.identifier rs).value with _ | b
            · rfl
            · cases b <;> rfl

theorem value_checkPrerequisites (f : Flag) :
    (e.checkPrerequisites f target).value =
      (e.checkFrom target [f.identifier] f.identifier f.requirements).value := by
  unfold checkPrerequisites Flag.requirements
  cases f.prerequisites with
  | none => simp only [Option.getD_none, checkFrom]
  | some ps => rfl

theorem checkFrom_of_checks (hac : Acyclic e.source.segments) {path : List String}
    {ps : List Prerequisite} {outcome : Except EvaluationError Bool} {calls : List Call}
    (h : Checks e.source.toDefinitions e.config.bucketFallback target path ps outcome calls)
    (flag : String) :
    (e.checkFrom target path flag ps).value = outcome := by
  induction h generalizing flag with
  | done => rw [checkFrom]; rfl
  | cycle hp => rw [value_checkFrom_cons, if_pos hp]
  | missing hp hf => rw [value_checkFrom_cons, if_neg hp, hf]
  | unresolved hp hf hr =>
    rw [value_checkFrom_cons, if_neg hp, hf]
    simp only [resolve_of_resolves hac hr]
  | refused hp hf hr hv =>
    rw [value_checkFrom_cons, if_neg hp, hf]
    simp only [resolve_of_resolves hac hr]
    rw [if_pos hv]
  | @stopped path p ps f v outcome _ _ hp hf hr hv nested ho ih =>
    rw [value_checkFrom_cons, if_neg hp, hf]
    simp only [resolve_of_resolves hac hr]
    rw [if_neg (not_not_intro hv), ih f.identifier]
    split
    · exact absurd rfl ho
    · rfl
  | @passed path p ps f v outcome _ _ _ hp hf hr hv nested rest ihn ih =>
    rw [value_checkFrom_cons, if_neg hp, hf]
    simp only [resolve_of_resolves hac hr]
    rw [if_neg (not_not_intro hv), ihn f.identifier]
    exact ih flag

/-- The outer induction is on the flags that are not on the path, the inner one on the list. -/
theorem exists_checks (hac : Acyclic e.source.segments) (target : Target) :
    ∀ n path, e.source.flagsOff path = n → ∀ flag ps,
      ∃ calls, Checks e.source.toDefinitions e.config.bucketFallback target path ps
        (e.checkFrom target path flag ps).value calls := by
  intro n
  induction n using Nat.strongRecOn with
  | ind n ih =>
    intro path hn flag ps
    induction ps with
    | nil => rw [checkFrom]; exact ⟨[], .done⟩
    | cons p ps ihps =>
      obtain ⟨calls'', hrest⟩ := ihps
      rw [value_checkFrom_cons]
      by_cases hp : p.flag ∈ path
      · rw [if_pos hp]
        exact ⟨[], .cycle hp⟩
      rw [if_neg hp]
      cases hf : e.source.flags.get? p.flag with
      | none => exact ⟨[], .missing hp hf⟩
      | some f =>
        dsimp only
        obtain ⟨calls, hr⟩ := (resolves_iff hac target f).2 rfl
        cases hres : (e.resolve f target).value with
        | error cause => exact ⟨_, .unresolved hp hf (hres ▸ hr)⟩
        | ok v =>
          dsimp only
          by_cases hv : v.identifier ∈ p.variations
          · rw [if_neg (not_not_intro hv)]
            have hlt : e.source.flagsOff (path ++ [p.flag]) < n :=
              hn ▸ Source.flagsOff_append_lt (Source.lookupFlag_eq_ok.2 hf) hp
            obtain ⟨calls', hnested⟩ := ih _ hlt (path ++ [p.flag]) rfl f.identifier f.requirements
            split
            · next ho => exact ⟨_, .passed hp hf (hres ▸ hr) hv (ho ▸ hnested) hrest⟩
            · next ho => exact ⟨_, .stopped hp hf (hres ▸ hr) hv hnested ho⟩
          · rw [if_pos hv]
            exact ⟨_, .refused hp hf (hres ▸ hr) hv⟩

theorem checks_iff (hac : Acyclic e.source.segments) (target : Target) (f : Flag)
    {outcome : Except EvaluationError Bool} :
    (∃ calls, Checks e.source.toDefinitions e.config.bucketFallback target [f.identifier]
      f.requirements outcome
      calls) ↔ (e.checkPrerequisites f target).value = outcome := by
  rw [value_checkPrerequisites]
  constructor
  · rintro ⟨calls, h⟩
    exact checkFrom_of_checks hac h f.identifier
  · rintro rfl
    exact exists_checks hac target _ [f.identifier] rfl f.identifier f.requirements

theorem checkPrerequisites_of_checks (hac : Acyclic e.source.segments) {f : Flag}
    {outcome : Except EvaluationError Bool} {calls : List Call}
    (h : Checks e.source.toDefinitions e.config.bucketFallback target [f.identifier] f.requirements
      outcome calls) :
    (e.checkPrerequisites f target).value = outcome :=
  (checks_iff hac target f).1 ⟨calls, h⟩

/-! ## Evaluations -/

theorem value_serve (f : Flag) :
    (e.serve f target).value =
      match (e.checkPrerequisites f target).value with
      | .error cause => .error cause
      | .ok true => (e.resolve f target).value
      | .ok false => f.findVariation f.offVariation := by
  rw [serve, Traced.value_bind]
  rcases (e.checkPrerequisites f target).value with _ | b
  · rfl
  · cases b <;> rfl

theorem value_evaluate (id : String) (kind : Flag.Kind) :
    (e.evaluate id target kind).value =
      match e.source.flags.get? id with
      | none => .error (e.source.flagFailure id)
      | some f =>
        if f.kind = kind then (e.serve f target).value
        else .error (.kindMismatch id kind f.kind) := by
  unfold evaluate find Source.lookupFlag
  cases e.source.flags.get? id with
  | none => rfl
  | some f =>
    dsimp only
    by_cases hk : f.kind = kind
    · rw [if_pos hk, if_pos hk]
      simp only [Traced.value_bind]
      cases (e.serve f target).value <;> rfl
    · rw [if_neg hk, if_neg hk]
      rfl

theorem evaluates_iff (hac : Acyclic e.source.segments) {id : String} {kind : Flag.Kind}
    {outcome : Except EvaluationError Variation} :
    (∃ calls, Evaluates e.source e.config.bucketFallback target id kind outcome calls) ↔
      (e.evaluate id target kind).value = outcome := by
  rw [value_evaluate]
  constructor
  · rintro ⟨calls, h⟩
    cases h with
    | missing hf => rw [hf]
    | mismatch hf hk =>
      rw [hf]
      exact if_neg hk
    | cyclic hf hk check =>
      rw [hf]
      simp only [if_pos hk, value_serve, checkPrerequisites_of_checks hac check]
    | unmet hf hk check =>
      rw [hf]
      simp only [if_pos hk, value_serve, checkPrerequisites_of_checks hac check]
    | met hf hk check hr =>
      rw [hf]
      simp only [if_pos hk, value_serve, checkPrerequisites_of_checks hac check,
        resolve_of_resolves hac hr]
  · rintro rfl
    cases hf : e.source.flags.get? id with
    | none => exact ⟨_, .missing hf⟩
    | some f =>
      dsimp only
      by_cases hk : f.kind = kind
      · rw [if_pos hk, value_serve]
        obtain ⟨calls, hc⟩ := (checks_iff hac target f).2 rfl
        cases hcheck : (e.checkPrerequisites f target).value with
        | error cause => exact ⟨_, .cyclic hf hk (hcheck ▸ hc)⟩
        | ok b =>
          cases b with
          | false => exact ⟨_, .unmet hf hk (hcheck ▸ hc)⟩
          | true =>
            obtain ⟨calls', hr⟩ := (resolves_iff hac target f).2 rfl
            exact ⟨_, .met hf hk (hcheck ▸ hc) hr⟩
      · rw [if_neg hk]
        exact ⟨_, .mismatch hf hk⟩

end Evaluator
end FeatureFlags
