import FeatureFlags.Proofs.Nesting

/-!
# The law of membership

A target is a member of a list of segments when one of them admits it and all that stand before are
stored and say nothing about it. What a rule asks of other segments is asked by the same law. So
order counts: a segment that excludes the target, or that is not stored, vetoes all that come after
it in its own list, and in no other.

**Results.**
* `lawful_unique`: where segments refer to each other without a cycle, the law has only one
  solution.
* `isMember_iff_admitted`: membership, as it is computed, is that solution.
* `isMember_append_silent`: a segment that says nothing can be left out.
* `membership_law`: the law, and what follows from it for longer lists, for lists without a veto and
  for vetoes inside rules.
-/
namespace FeatureFlags

open Segment

/-! ## The law -/

/-- A target matches a clause, where `member` decides about lists of segments. -/
def Clause.MatchedBy (c : Clause) (member : List String → Prop) (target : Target) : Prop :=
  if c.operator = .segmentMatch then member c.values else c.holds target = true

theorem Clause.MatchedBy.imp {c : Clause} {member member' : List String → Prop} {target : Target}
    (h : c.MatchedBy member target)
    (himp : c.operator = .segmentMatch → member c.values → member' c.values) :
    c.MatchedBy member' target := by
  unfold Clause.MatchedBy at h ⊢
  by_cases hop : c.operator = .segmentMatch
  · rw [if_pos hop] at h ⊢
    exact himp hop h
  · rw [if_neg hop] at h ⊢
    exact h

namespace Segment

/-- There are rule clauses, and the target matches them all. -/
def RulesMatch (s : Segment) (member : List String → Prop) (target : Target) : Prop :=
  s.ruleClauses ≠ [] ∧ ∀ c ∈ s.ruleClauses, c.MatchedBy member target

/-- The segment makes the target a member. -/
@[mk_iff] structure Admits (s : Segment) (member : List String → Prop) (target : Target) :
    Prop where
  notExcluded : s.excludes target.identifier = false
  admitted : s.includes target.identifier = true ∨ s.RulesMatch member target

/-- The segment says nothing about the target. -/
@[mk_iff] structure Silent (s : Segment) (member : List String → Prop) (target : Target) :
    Prop where
  notExcluded : s.excludes target.identifier = false
  notIncluded : s.includes target.identifier = false
  unmatched : ¬ s.RulesMatch member target

/-- One of the segments admits the target, and all before it are stored and silent. -/
def Admitted (table : Table Segment) (member : List String → Prop) (target : Target)
    (ids : List String) : Prop :=
  ∃ before id after s, ids = before ++ id :: after ∧ table.get? id = some s ∧
    s.Admits member target ∧
    ∀ b ∈ before, ∃ t, table.get? b = some t ∧ t.Silent member target

/-- One of the segments is not stored or excludes the target, and all before it are stored and
silent. -/
def Vetoed (table : Table Segment) (member : List String → Prop) (target : Target)
    (ids : List String) : Prop :=
  ∃ before id after, ids = before ++ id :: after ∧
    (∀ s, table.get? id = some s → s.excludes target.identifier = true) ∧
    ∀ b ∈ before, ∃ t, table.get? b = some t ∧ t.Silent member target

/-- The answers that `member` gives are those that the law asks for. -/
def Lawful (table : Table Segment) (member : List String → Prop) (target : Target) : Prop :=
  ∀ ids, member ids ↔ Admitted table member target ids

variable {table : Table Segment} {member member' : List String → Prop} {target : Target}

theorem listing?_eq_none {s : Segment} {identifier : String} :
    s.listing? identifier = none ↔ s.excludes identifier = false ∧
      s.includes identifier = false := by
  unfold listing?
  cases s.excludes identifier <;> cases s.includes identifier <;> simp

theorem admits_or_silent {s : Segment} (h : s.excludes target.identifier = false) :
    s.Admits member target ∨ s.Silent member target := by
  by_cases hadm : s.includes target.identifier = true ∨ s.RulesMatch member target
  · exact .inl ⟨h, hadm⟩
  · rw [not_or, Bool.not_eq_true] at hadm
    exact .inr ⟨h, hadm.1, hadm.2⟩

theorem Silent.not_admits {s : Segment} (h : s.Silent member target) :
    ¬ s.Admits member target := by
  rintro ⟨-, hin | hrules⟩
  · rw [h.notIncluded] at hin
    cases hin
  · exact h.unmatched hrules

theorem not_admitted_nil : ¬ Admitted table member target [] := by
  rintro ⟨before, id, after, s, h, -⟩
  simp at h

theorem admitted_cons {id : String} {rest : List String} :
    Admitted table member target (id :: rest) ↔
      ∃ s, table.get? id = some s ∧
        (s.Admits member target ∨ s.Silent member target ∧ Admitted table member target rest) := by
  constructor
  · rintro ⟨before, x, after, s, h, hs, hadm, hbefore⟩
    cases before with
    | nil =>
      cases h
      exact ⟨s, hs, .inl hadm⟩
    | cons b before =>
      obtain ⟨rfl, rfl⟩ := List.cons.inj h
      obtain ⟨t, ht, hsilent⟩ := hbefore id List.mem_cons_self
      exact ⟨t, ht, .inr ⟨hsilent, before, x, after, s, rfl, hs, hadm,
        fun c hc => hbefore c (List.mem_cons_of_mem _ hc)⟩⟩
  · rintro ⟨s, hs, hadm | ⟨hsilent, before, x, after, t, rfl, ht, hadm, hbefore⟩⟩
    · exact ⟨[], id, rest, s, rfl, hs, hadm, by simp⟩
    · exact ⟨id :: before, x, after, t, rfl, ht, hadm,
        List.forall_mem_cons.2 ⟨⟨s, hs, hsilent⟩, hbefore⟩⟩

theorem Admitted.append {ids : List String} (h : Admitted table member target ids)
    (more : List String) :
    Admitted table member target (ids ++ more) := by
  obtain ⟨before, id, after, s, rfl, hs, hadm, hbefore⟩ := h
  exact ⟨before, id, after ++ more, s, by simp, hs, hadm, hbefore⟩

theorem Vetoed.not_admitted {ids : List String} (h : Vetoed table member target ids) :
    ¬ Admitted table member target ids := by
  obtain ⟨before, id, after, rfl, hveto, hbefore⟩ := h
  induction before with
  | nil =>
    rw [List.nil_append, admitted_cons]
    rintro ⟨s, hs, hadm | ⟨hsilent, -⟩⟩
    · exact Bool.false_ne_true (hadm.notExcluded.symm.trans (hveto s hs))
    · exact Bool.false_ne_true (hsilent.notExcluded.symm.trans (hveto s hs))
  | cons b before ih =>
    obtain ⟨⟨t, ht, hsilent⟩, hbefore⟩ := List.forall_mem_cons.1 hbefore
    rw [List.cons_append, admitted_cons]
    rintro ⟨s, hs, hadm | ⟨-, hrest⟩⟩
    · cases hs.symm.trans ht
      exact hsilent.not_admits hadm
    · exact ih hbefore hrest

/-! ## The law has one solution -/

/-- Where segments refer to each other without a cycle, what holds of a list of segments as soon as
it holds of all lists that their rules ask for holds of every list. -/
theorem Acyclic.induction (hac : Acyclic table) {P : List String → Prop}
    (step : ∀ ids, (∀ id ∈ ids, ∀ s, table.get? id = some s → ∀ c ∈ s.ruleClauses,
      c.operator = .segmentMatch → P c.values) → P ids) (ids : List String) : P ids := by
  have hchain : ∀ n chain ids, Chained table chain (.member ids) → table.size < n + chain.length →
    P ids := by
    intro n
    induction n with
    | zero =>
      intro chain ids hch hlt
      have hle := hch.length_le
      omega
    | succ n ih =>
      intro chain ids hch hlt
      refine step ids fun id hid s hs c hc hop => ?_
      refine ih (chain ++ [id]) c.values ((hch.enter hac hid hs).asked hc hop) ?_
      rw [List.length_append, List.length_singleton]
      omega
  exact hchain (table.size + 1) [] ids (.start _ _) (Nat.lt_succ_self _)

/-- What a list of segments says depends on `member` only through the lists that their rules ask
for. -/
theorem admitted_congr {ids : List String}
    (h : ∀ id ∈ ids, ∀ s, table.get? id = some s → ∀ c ∈ s.ruleClauses, c.operator = .segmentMatch →
      (member c.values ↔ member' c.values)) :
    Admitted table member target ids ↔ Admitted table member' target ids := by
  induction ids with
  | nil => exact iff_of_false not_admitted_nil not_admitted_nil
  | cons id rest ih =>
    have hrules : ∀ s, table.get? id = some s →
        (s.RulesMatch member target ↔ s.RulesMatch member' target) := by
      intro s hs
      refine and_congr_right fun _ => forall₂_congr fun c hc => ?_
      have hasked := h id List.mem_cons_self s hs c hc
      exact ⟨fun hm => hm.imp fun hop => (hasked hop).1, fun hm => hm.imp fun hop => (hasked hop).2⟩
    have hadmits : ∀ s, table.get? id = some s →
      (s.Admits member target ↔ s.Admits member' target) :=
      fun s hs => by rw [admits_iff, admits_iff, hrules s hs]
    have hsilent : ∀ s, table.get? id = some s →
      (s.Silent member target ↔ s.Silent member' target) :=
      fun s hs => by rw [silent_iff, silent_iff, hrules s hs]
    rw [admitted_cons, admitted_cons, ih fun x hx => h x (List.mem_cons_of_mem id hx)]
    exact exists_congr fun s => and_congr_right fun hs => by rw [hadmits s hs, hsilent s hs]

theorem lawful_unique (hac : Acyclic table) (h : Lawful table member target)
    (h' : Lawful table member' target) (ids : List String) : member ids ↔ member' ids := by
  induction ids using hac.induction with
  | step ids ih => rw [h ids, h' ids, admitted_congr ih]

end Segment

/-! ## Membership as it is computed -/

namespace Evaluator

variable {e : Evaluator} {target : Target}

/-- The target is a member of one of the segments. -/
def IsMember (e : Evaluator) (target : Target) (ids : List String) : Prop :=
  (e.inSegments target ids).value = true

theorem matchesAll_iff (cs : List Clause) :
    (e.matchesAll target cs).value = true ↔ ∀ c ∈ cs, c.MatchedBy (e.IsMember target) target := by
  induction cs with
  | nil => exact iff_of_true rfl (by simp)
  | cons c cs ih =>
    rw [value_matchesAll_cons, Bool.and_eq_true, ih, List.forall_mem_cons, Clause.MatchedBy,
      IsMember]
    split <;> rfl

theorem rulesMatch_iff (s : Segment) :
    s.RulesMatch (e.IsMember target) target ↔
      (!s.ruleClauses.isEmpty && (e.matchesAll target s.ruleClauses).value) = true := by
  rw [RulesMatch, Bool.and_eq_true, matchesAll_iff, Bool.not_eq_true', List.isEmpty_eq_false_iff]

theorem isMember_cons (hac : Acyclic e.source.segments) {id : String} {rest : List String} :
    e.IsMember target (id :: rest) ↔
      ∃ s, e.source.segments.get? id = some s ∧
        (s.Admits (e.IsMember target) target ∨
          s.Silent (e.IsMember target) target ∧ e.IsMember target rest) := by
  rw [IsMember, value_inSegments_cons e target hac]
  cases e.source.segments.get? id with
  | none => simp
  | some s =>
    simp only [Option.some.injEq, exists_eq_left', admits_iff, silent_iff, rulesMatch_iff, IsMember]
    cases hex : s.excludes target.identifier with
    | true => simp [listing?, hex]
    | false =>
      cases hin : s.includes target.identifier with
      | true => simp [listing?, hex, hin]
      | false =>
        cases !s.ruleClauses.isEmpty && (e.matchesAll target s.ruleClauses).value <;>
          simp [listing?, hex, hin]

theorem isMember_iff_admitted (hac : Acyclic e.source.segments) (ids : List String) :
    e.IsMember target ids ↔ Admitted e.source.segments (e.IsMember target) target ids := by
  induction ids with
  | nil => exact iff_of_false (by simp [IsMember]) not_admitted_nil
  | cons id rest ih => rw [isMember_cons hac, admitted_cons, ih]

/-! ## Lists without a veto -/

theorem isMember_singleton (hac : Acyclic e.source.segments) {id : String} :
    e.IsMember target [id] ↔
      ∃ s, e.source.segments.get? id = some s ∧ s.Admits (e.IsMember target) target := by
  have hnil : ¬ e.IsMember target [] := by simp [IsMember]
  simp only [isMember_cons hac, hnil, and_false, or_false]

/-- None of the segments is missing or excludes the target. -/
def NoVeto (e : Evaluator) (target : Target) (ids : List String) : Prop :=
  ∀ id ∈ ids, ∃ s, e.source.segments.get? id = some s ∧ s.excludes target.identifier = false

theorem isMember_iff_exists (hac : Acyclic e.source.segments) {ids : List String}
    (h : e.NoVeto target ids) : e.IsMember target ids ↔ ∃ id ∈ ids, e.IsMember target [id] := by
  induction ids with
  | nil => simp [IsMember]
  | cons id rest ih =>
    obtain ⟨⟨s, hs, hex⟩, hrest⟩ := List.forall_mem_cons.1 h
    rw [List.exists_mem_cons_iff, ← ih hrest, isMember_cons hac, isMember_singleton hac]
    simp only [hs, Option.some.injEq, exists_eq_left']
    rcases admits_or_silent hex with hadm | hsilent
    · exact iff_of_true (.inl hadm) (.inl hadm)
    · simp [hsilent, hsilent.not_admits]

theorem isMember_perm (hac : Acyclic e.source.segments) {ids ids' : List String}
    (h : e.NoVeto target ids) (hperm : ids.Perm ids') :
    e.IsMember target ids' ↔ e.IsMember target ids := by
  have h' : e.NoVeto target ids' := fun id hid => h id (hperm.mem_iff.2 hid)
  rw [isMember_iff_exists hac h, isMember_iff_exists hac h']
  exact exists_congr fun id => and_congr_left fun _ => hperm.mem_iff.symm

/-! ## Vetoes inside rules -/

theorem isMember_append_silent (hac : Acyclic e.source.segments) {id : String} {s : Segment}
    (hs : e.source.segments.get? id = some s) (hsilent : s.Silent (e.IsMember target) target)
    (before rest : List String) :
    e.IsMember target (before ++ id :: rest) ↔ e.IsMember target (before ++ rest) := by
  induction before with
  | nil =>
    rw [List.nil_append, List.nil_append, isMember_cons hac]
    simp [hs, hsilent, hsilent.not_admits]
  | cons b before ih =>
    rw [List.cons_append, List.cons_append, isMember_cons hac, isMember_cons hac, ih]

theorem not_matchedBy_of_vetoed (hac : Acyclic e.source.segments) {c : Clause}
    (hop : c.operator = .segmentMatch)
    (hveto : Vetoed e.source.segments (e.IsMember target) target c.values) :
    ¬ c.MatchedBy (e.IsMember target) target := by
  rw [Clause.MatchedBy, if_pos hop, isMember_iff_admitted hac]
  exact hveto.not_admitted

/-- **The law of membership.** A target is a member of a list of segments exactly if one of them
admits it and all before it are stored and silent, where what rules ask of other segments is read by
the same law; and no other answers satisfy the law. So a longer list keeps its members; a list
without a veto is as good as its segments one by one, in any order; and a veto inside the rules of a
segment makes the clause fail that asks, so that the segment is passed over, but not the list. -/
theorem membership_law (e : Evaluator) (target : Target) (hac : Acyclic e.source.segments) :
    (Lawful e.source.segments (e.IsMember target) target ∧
      ∀ member, Lawful e.source.segments member target →
        ∀ ids, member ids ↔ e.IsMember target ids) ∧
    (∀ cs, (e.matchesAll target cs).value = true ↔
      ∀ c ∈ cs, c.MatchedBy (e.IsMember target) target) ∧
    (∀ ids more, e.IsMember target ids → e.IsMember target (ids ++ more)) ∧
    (∀ ids, e.NoVeto target ids →
      (e.IsMember target ids ↔ ∃ id ∈ ids, e.IsMember target [id]) ∧
      ∀ ids', ids.Perm ids' → (e.IsMember target ids' ↔ e.IsMember target ids)) ∧
    ∀ before id rest s c, e.source.segments.get? id = some s →
      s.listing? target.identifier = none → c ∈ s.ruleClauses → c.operator = .segmentMatch →
      Vetoed e.source.segments (e.IsMember target) target c.values →
      ¬ c.MatchedBy (e.IsMember target) target ∧
        (e.IsMember target (before ++ id :: rest) ↔ e.IsMember target (before ++ rest)) := by
  have hlaw : Lawful e.source.segments (e.IsMember target) target := isMember_iff_admitted hac
  refine ⟨⟨hlaw, fun member h => lawful_unique hac h hlaw⟩, matchesAll_iff, ?_, ?_, ?_⟩
  · intro ids more h
    exact (hlaw _).2 (((hlaw ids).1 h).append more)
  · intro ids h
    exact ⟨isMember_iff_exists hac h, fun ids' => isMember_perm hac h⟩
  · intro before id rest s c hs hl hc hop hveto
    have hfails := not_matchedBy_of_vetoed hac hop hveto
    obtain ⟨hex, hin⟩ := listing?_eq_none.1 hl
    refine ⟨hfails, isMember_append_silent hac hs ⟨hex, hin, fun hrules => ?_⟩ before rest⟩
    exact hfails (hrules.2 c hc)

/-! ## A veto inside a rule -/

/-- A segment that excludes a user, one that includes the user, and one whose rule asks for both. -/
def vetoes : Evaluator :=
  .ofSnapshot
    ⟨[], [(Segment.new "blocked").withExcluded "user", (Segment.new "staff").withIncluded "user",
      (Segment.new "either").withRule (.ofSegments ["blocked", "staff"])]⟩

theorem vetoes_acyclic : Acyclic vetoes.source.segments :=
  acyclic_of_order ["blocked", "staff", "either"] (by decide)

/-- The exclusion ends the list that it stands in, and not the one whose rule asks. -/
theorem veto_stays_inside :
    Acyclic vetoes.source.segments ∧
      ¬ vetoes.IsMember (.new "user") ["blocked", "staff"] ∧
      ¬ vetoes.IsMember (.new "user") ["either"] ∧
      vetoes.IsMember (.new "user") ["either", "staff"] ∧
      vetoes.IsMember (.new "user") ["staff", "either"] := by
  obtain ⟨⟨hlaw, -⟩, -, -, hplain, hnested⟩ :=
    membership_law vetoes (.new "user") vetoes_acyclic
  have hstaff : vetoes.IsMember (.new "user") ["staff"] :=
    (hlaw _).2 ⟨[], "staff", [], _, rfl, rfl, ⟨rfl, .inl rfl⟩, by simp⟩
  have hveto : Vetoed vetoes.source.segments (vetoes.IsMember (.new "user")) (.new "user")
      ["blocked", "staff"] :=
    ⟨[], "blocked", ["staff"], rfl, fun s hs => by cases hs; rfl, by simp⟩
  have hrule (rest : List String) :
      vetoes.IsMember (.new "user") ("either" :: rest) ↔ vetoes.IsMember (.new "user") rest :=
    (hnested [] "either" rest _ (.ofSegments ["blocked", "staff"]) rfl rfl (by decide) rfl hveto).2
  refine ⟨vetoes_acyclic, fun h => hveto.not_admitted ((hlaw _).1 h), ?_, (hrule _).2 hstaff, ?_⟩
  · rw [hrule]
    exact fun h => not_admitted_nil ((hlaw _).1 h)
  · have hnone : vetoes.NoVeto (.new "user") ["either", "staff"] := by
      intro id hid
      rcases List.mem_cons.1 hid with rfl | hid
      · exact ⟨_, rfl, rfl⟩
      · rw [List.mem_singleton.1 hid]
        exact ⟨_, rfl, rfl⟩
    exact ((hplain _ hnone).2 _ (List.Perm.swap _ _ _)).2 ((hrule _).2 hstaff)

end Evaluator
end FeatureFlags
