import FeatureFlags.Proofs.Adequacy
import FeatureFlags.Proofs.MembershipLaw
import FeatureFlags.Proofs.Shares

/-!
# The rule that decides

Rules are tried by priority, and as they are listed where that is equal, up to the first one that
the target matches and that has something to serve. As the sort is stable, that is the rule of least
priority among those, and the first of these in the list. A distribution is the last word of its
rule even if it gives nothing.

**Results.**
* `Rule.find?_byPriority`: the first rule with a property that is tried is the foremost one that is
  listed.
* `value_rulesFor_of_foremost`: what the foremost rule serves is what the rules serve.
* `least_matching_rule_serves`: the law of rules, and what it does not depend on.
-/
namespace FeatureFlags

namespace Rule

/-- Among the rules with a property, `r` has the least priority, and all of that priority stand
after it. -/
def Foremost (p : Rule → Prop) (rules : List Rule) (r : Rule) : Prop :=
  ∃ before after, rules = before ++ r :: after ∧ p r ∧
    (∀ s ∈ before, p s → r.priority < s.priority) ∧ ∀ s ∈ after, p s → r.priority ≤ s.priority

/-- The second list is the first with rules inserted that do not have the property. -/
inductive Inserted (p : Rule → Prop) : List Rule → List Rule → Prop where
  | nil : Inserted p [] []
  | keep {rules rules'} (r : Rule) (rest : Inserted p rules rules') :
    Inserted p (r :: rules) (r :: rules')
  | insert {rules rules' s} (hs : ¬ p s) (rest : Inserted p rules rules') :
    Inserted p rules (s :: rules')

variable {p : Rule → Prop} {rules rules' : List Rule} {r a : Rule}

/-! ## The foremost rule -/

theorem not_foremost_nil : ¬ Foremost p [] r := by
  rintro ⟨before, after, h, -⟩
  simp at h

theorem foremost_cons :
    Foremost p (a :: rules) r ↔
      (r = a ∧ p a ∧ ∀ s ∈ rules, p s → a.priority ≤ s.priority) ∨
        Foremost p rules r ∧ (p a → r.priority < a.priority) := by
  constructor
  · rintro ⟨before, after, h, hr, hbefore, hafter⟩
    cases before with
    | nil =>
      obtain ⟨rfl, rfl⟩ := List.cons.inj h
      exact .inl ⟨rfl, hr, hafter⟩
    | cons b before =>
      obtain ⟨rfl, rfl⟩ := List.cons.inj h
      obtain ⟨ha, hbefore⟩ := List.forall_mem_cons.1 hbefore
      exact .inr ⟨⟨before, after, rfl, hr, hbefore, hafter⟩, ha⟩
  · rintro (⟨rfl, hr, hle⟩ | ⟨⟨before, after, rfl, hr, hbefore, hafter⟩, ha⟩)
    · exact ⟨[], rules, rfl, hr, by simp, hle⟩
    · exact ⟨a :: before, after, rfl, hr, List.forall_mem_cons.2 ⟨ha, hbefore⟩, hafter⟩

theorem Inserted.mem_iff (h : Inserted p rules rules') {s : Rule} (hs : p s) :
    s ∈ rules' ↔ s ∈ rules := by
  induction h with
  | nil => rfl
  | keep r rest ih => rw [List.mem_cons, List.mem_cons, ih]
  | insert hidle rest ih =>
    rw [List.mem_cons, ih]
    exact or_iff_right fun heq => hidle (heq ▸ hs)

/-- Rules without the property do not count. -/
theorem Inserted.foremost_iff (h : Inserted p rules rules') :
    Foremost p rules' r ↔ Foremost p rules r := by
  induction h with
  | nil => rfl
  | keep a rest ih =>
    rw [foremost_cons, foremost_cons, ih]
    have hle : (∀ s ∈ _, p s → a.priority ≤ s.priority) ↔ ∀ s ∈ _, p s → a.priority ≤ s.priority :=
      forall_congr' fun s => by
        constructor
        · exact fun hall hmem hs => hall ((rest.mem_iff hs).2 hmem) hs
        · exact fun hall hmem hs => hall ((rest.mem_iff hs).1 hmem) hs
    rw [hle]
  | insert hidle rest ih => simp [foremost_cons, hidle, ih]

/-- Where no two rules have the same priority, their order does not count. -/
theorem foremost_iff_of_distinct (h : rules.Pairwise fun r s => r.priority ≠ s.priority) :
    Foremost p rules r ↔ r ∈ rules ∧ p r ∧ ∀ s ∈ rules, p s → r.priority ≤ s.priority := by
  constructor
  · rintro ⟨before, after, rfl, hr, hbefore, hafter⟩
    refine ⟨by simp, hr, fun s hs hps => ?_⟩
    rcases List.mem_append.1 hs with hs | hs
    · exact Int32.le_of_lt (hbefore s hs hps)
    · rcases List.mem_cons.1 hs with rfl | hs
      · exact Int32.le_refl _
      · exact hafter s hs hps
  · rintro ⟨hmem, hr, hle⟩
    obtain ⟨before, after, rfl⟩ := List.append_of_mem hmem
    refine ⟨before, after, rfl, hr, fun s hs hps => ?_, fun s hs hps => hle s (by simp [hs]) hps⟩
    have hne : s.priority ≠ r.priority := (List.pairwise_append.1 h).2.2 s hs r List.mem_cons_self
    exact Int32.lt_of_le_of_ne (hle s (by simp [hs]) hps) hne.symm

/-! ## The order in which rules are tried -/

theorem priority_trans (r s t : Rule) (hrs : decide (r.priority ≤ s.priority) = true)
    (hst : decide (s.priority ≤ t.priority) = true) : decide (r.priority ≤ t.priority) = true :=
  decide_eq_true (Int32.le_trans (of_decide_eq_true hrs) (of_decide_eq_true hst))

theorem priority_total (r s : Rule) :
    (decide (r.priority ≤ s.priority) || decide (s.priority ≤ r.priority)) = true := by
  simpa using Int32.le_total r.priority s.priority

theorem byPriority_pairwise (rules : List Rule) :
    (byPriority rules).Pairwise fun r s => r.priority ≤ s.priority := by
  have hsorted := List.pairwise_mergeSort priority_trans priority_total rules
  simpa only [byPriority, decide_eq_true_eq] using hsorted

/-- A rule that is listed before others is tried after those of lower priority and before all
others. -/
theorem byPriority_cons (a : Rule) (rules : List Rule) :
    ∃ before after, byPriority (a :: rules) = before ++ a :: after ∧
      byPriority rules = before ++ after ∧
      (∀ s ∈ before, s.priority < a.priority) ∧ ∀ s ∈ after, a.priority ≤ s.priority := by
  obtain ⟨before, after, hcons, hrest, hbefore⟩ :=
    List.mergeSort_cons priority_trans priority_total a rules
  have hsorted := byPriority_pairwise (a :: rules)
  rw [byPriority, hcons] at hsorted
  refine ⟨before, after, hcons, hrest, fun s hs => ?_, ?_⟩
  · simpa [Int32.not_le] using hbefore s hs
  · exact (List.pairwise_cons.1 (List.pairwise_append.1 hsorted).2.1).1

/-- The induction is on the list as it stands, where the sort puts one rule after the other in its
place. -/
theorem find?_byPriority [DecidablePred p] :
    (byPriority rules).find? (fun s => p s) = some r ↔ Foremost p rules r := by
  induction rules with
  | nil => simp [byPriority, not_foremost_nil]
  | cons a rules ih =>
    obtain ⟨before, after, hcons, hrest, hbefore, hafter⟩ := byPriority_cons a rules
    have hmem : ∀ s, s ∈ rules ↔ s ∈ before ∨ s ∈ after := fun s => by
      rw [← List.mem_append, ← hrest]
      exact List.mem_mergeSort.symm
    rw [hcons, foremost_cons, ← ih, hrest, List.find?_append, List.find?_append]
    cases hfound : before.find? (fun s => p s) with
    | some b =>
      -- a rule of lower priority has the property, so `a` is not the one
      have hb : p b := by simpa using List.find?_some hfound
      have hlt := hbefore b (List.mem_of_find?_eq_some hfound)
      have hnot : ¬ ∀ s ∈ rules, p s → a.priority ≤ s.priority := fun hle =>
        Int32.not_le.2 hlt (hle b ((hmem b).2 (.inl (List.mem_of_find?_eq_some hfound))) hb)
      simp only [Option.some_or, Option.some.injEq, hnot, and_false, false_or]
      exact ⟨fun heq => ⟨heq, fun _ => heq ▸ hlt⟩, And.left⟩
    | none =>
      rw [List.find?_cons]
      by_cases ha : p a
      · -- `a` is tried before all others that have the property
        have hle : ∀ s ∈ rules, p s → a.priority ≤ s.priority := fun s hs hps => by
          rcases (hmem s).1 hs with hs | hs
          · exact absurd hps (by simpa using List.find?_eq_none.1 hfound s hs)
          · exact hafter s hs
        have hlast : ∀ s, after.find? (fun s => p s) = some s → ¬ s.priority < a.priority :=
          fun s hs =>
          mt Int32.not_le.2 (not_not.2 (hafter s (List.mem_of_find?_eq_some hs)))
        rw [decide_eq_true ha]
        simp only [Option.none_or, Option.some.injEq, ha, true_and, forall_const]
        constructor
        · exact fun heq => .inl ⟨heq.symm, hle⟩
        · rintro (⟨heq, -⟩ | ⟨hs, hlt⟩)
          · exact heq.symm
          · exact absurd hlt (hlast r hs)
      · simp [ha]

theorem exists_foremost [DecidablePred p] (h : ∃ r ∈ rules, p r) : ∃ r, Foremost p rules r := by
  obtain ⟨s, hs, hps⟩ := h
  have hfound : ((byPriority rules).find? (fun s => p s)).isSome :=
    List.find?_isSome.2 ⟨s, List.mem_mergeSort.2 hs, by simpa using hps⟩
  obtain ⟨r, hr⟩ := Option.isSome_iff_exists.1 hfound
  exact ⟨r, find?_byPriority.1 hr⟩

end Rule

namespace Evaluator

variable {e : Evaluator} {flag : String} {target : Target} {rules rules' : List Rule} {r : Rule}

/-- The target matches all the clauses of the rule, and the rule has something to serve. -/
structure Decides (e : Evaluator) (target : Target) (r : Rule) : Prop where
  matched : ∀ c ∈ r.clauses, c.MatchedBy (e.IsMember target) target
  serves : r.serve.distribution.isSome = true ∨ r.serve.variation.isSome = true

theorem isSome_handOut? (e : Evaluator) (flag : String) (target : Target) (s : Serve) :
    (e.handOut? flag target s).isSome = (s.distribution.isSome || s.variation.isSome) := by
  unfold handOut?
  cases s.distribution <;> cases s.variation <;> rfl

theorem decides_iff :
    e.Decides target r ↔
      ((e.matchesAll target r.clauses).value &&
        (r.serve.distribution.isSome || r.serve.variation.isSome)) =
        true := by
  rw [Bool.and_eq_true, Bool.or_eq_true, matchesAll_iff]
  exact ⟨fun ⟨hmatched, hserves⟩ => ⟨hmatched, hserves⟩,
    fun ⟨hmatched, hserves⟩ => ⟨hmatched, hserves⟩⟩

instance (e : Evaluator) (target : Target) : DecidablePred (e.Decides target) :=
  fun _ => decidable_of_iff _ decides_iff.symm

/-- The rules in the order in which they are tried serve what the first of them that decides hands
out. -/
theorem value_ruleFor (e : Evaluator) (flag : String) (target : Target) (rs : List Rule) :
    (e.ruleFor flag target rs).value =
      (rs.find? fun r => e.Decides target r).bind fun r =>
      (e.handOut? flag target r.serve).join := by
  induction rs with
  | nil => rfl
  | cons r rs ih =>
    rw [value_ruleFor_cons, List.find?_cons, ih]
    have hsome := isSome_handOut? e flag target r.serve
    by_cases hd : e.Decides target r
    · rw [decide_eq_true hd]
      rw [decides_iff, Bool.and_eq_true, ← hsome] at hd
      obtain ⟨outcome, hout⟩ := Option.isSome_iff_exists.1 hd.2
      show _ = (e.handOut? flag target r.serve).join
      rw [if_pos hd.1, hout]
      rfl
    · rw [decide_eq_false hd]
      rw [decides_iff, Bool.and_eq_true, not_and, ← hsome] at hd
      split
      · next hmatched =>
        rw [Option.not_isSome_iff_eq_none.1 (hd hmatched)]
        rfl
      · rfl

theorem value_rulesFor_of_foremost (flag : String) (h : Rule.Foremost (e.Decides target) rules r) :
    (e.rulesFor flag target rules).value = (e.handOut? flag target r.serve).join := by
  rw [rulesFor, value_ruleFor, Rule.find?_byPriority.2 h]
  rfl

theorem value_rulesFor_eq_none (flag : String) (h : ∀ r ∈ rules, ¬ e.Decides target r) :
    (e.rulesFor flag target rules).value = none := by
  have hnone : (Rule.byPriority rules).find? (fun r => e.Decides target r) = none :=
    List.find?_eq_none.2 fun r hr => by simpa using h r (List.mem_mergeSort.1 hr)
  rw [rulesFor, value_ruleFor, hnone]
  rfl

/-- What the rules serve depends on nothing but the foremost of them that decides. -/
theorem value_rulesFor_congr (flag : String)
    (h : ∀ r, Rule.Foremost (e.Decides target) rules' r ↔
      Rule.Foremost (e.Decides target) rules r) :
    (e.rulesFor flag target rules').value = (e.rulesFor flag target rules).value := by
  have hfound : (Rule.byPriority rules').find? (fun r => e.Decides target r) =
      (Rule.byPriority rules).find? fun r => e.Decides target r := by
    refine Option.ext fun r => ?_
    rw [Rule.find?_byPriority, Rule.find?_byPriority, h]
  rw [rulesFor, rulesFor, value_ruleFor, value_ruleFor, hfound]

/-- **The least matching rule serves.** Where no rule decides, the rules serve nothing. Otherwise
one of those that do is the foremost, by priority and then by its place, and the rules serve what
its distribution gives, be it nothing for want of entries or attributes, or else its fixed
variation. So the order of rules of different priorities does not count, nor do rules that decide
nothing, wherever they stand. -/
theorem least_matching_rule_serves (e : Evaluator) (flag : String) (target : Target)
    (rules : List Rule) :
    ((∀ r ∈ rules, ¬ e.Decides target r) → (e.rulesFor flag target rules).value = none) ∧
    ((∃ r ∈ rules, e.Decides target r) → ∃ r, Rule.Foremost (e.Decides target) rules r) ∧
    (∀ r, Rule.Foremost (e.Decides target) rules r →
      (∀ d, r.serve.distribution = some d →
        (e.rulesFor flag target rules).value = d.serve flag target e.config.bucketFallback ∧
          (d.variations = [] ∨ target.attributeText? d.bucketBy = none ∧
            target.attributeText? e.config.bucketFallback = none →
            (e.rulesFor flag target rules).value = none)) ∧
      (r.serve.distribution = none → (e.rulesFor flag target rules).value = r.serve.variation)) ∧
    (rules.Pairwise (fun r s => r.priority ≠ s.priority) →
      ∀ rules', rules.Perm rules' →
        (e.rulesFor flag target rules').value = (e.rulesFor flag target rules).value) ∧
    ∀ rules', Rule.Inserted (e.Decides target) rules rules' →
      (e.rulesFor flag target rules').value = (e.rulesFor flag target rules).value := by
  refine ⟨value_rulesFor_eq_none flag, Rule.exists_foremost, fun r hr => ?_,
    fun hdistinct rules' hperm => ?_, fun rules' hins => value_rulesFor_congr flag fun r =>
      hins.foremost_iff⟩
  · rw [value_rulesFor_of_foremost flag hr, handOut?]
    refine ⟨fun d hd => ?_, fun hd => ?_⟩
    · rw [hd]
      refine ⟨rfl, fun hnothing => ?_⟩
      exact Distribution.serve_eq_none.2 (hnothing.imp_right Distribution.bucket?_eq_none.2)
    · rw [hd]
      cases r.serve.variation <;> rfl
  · have hdistinct' : rules'.Pairwise fun r s => r.priority ≠ s.priority :=
      (hperm.pairwise_iff fun h => h.symm).1 hdistinct
    refine value_rulesFor_congr flag fun r => ?_
    rw [Rule.foremost_iff_of_distinct hdistinct, Rule.foremost_iff_of_distinct hdistinct',
      hperm.mem_iff]
    simp only [hperm.mem_iff]

/-! ## Rules of the same priority -/

/-- Rules of which one is of low priority, one serves nothing, two are of the same priority and one
is matched by nobody. -/
def contenders : List Rule :=
  [.new 7 (.ofVariation "late"), .new (-3) .nothing, .new 1 (.ofVariation "first"),
    .new 1 (.ofVariation "second"), (Rule.new (-9) (.ofVariation "never")).withClause
      ⟨"plan", .unknown, ["gold"]⟩]

/-- Of the two rules that have the same priority the one that is listed first serves. -/
theorem first_of_equals_serves :
    Rule.Foremost ((Evaluator.ofSnapshot ⟨[], []⟩).Decides (.new "ann")) contenders
        (.new 1 (.ofVariation "first")) ∧
      ((Evaluator.ofSnapshot ⟨[], []⟩).rulesFor "lamp" (.new "ann") contenders).value =
        some "first" := by
  have hforemost : Rule.Foremost ((Evaluator.ofSnapshot ⟨[], []⟩).Decides (.new "ann")) contenders
      (.new 1 (.ofVariation "first")) :=
    ⟨contenders.take 2, contenders.drop 3, rfl, by decide, by decide, by decide⟩
  obtain ⟨-, -, hserves, -, -⟩ :=
    least_matching_rule_serves (.ofSnapshot ⟨[], []⟩) "lamp" (.new "ann") contenders
  exact ⟨hforemost, (hserves _ hforemost).2 rfl⟩

end Evaluator
end FeatureFlags
