import FeatureFlags.Membership
import Mathlib.Data.List.Nodup
import Mathlib.Data.List.Perm.Subperm
import Mathlib.Logic.Relation

/-!
# Segments within segments

The rules of a segment may ask for membership of further segments, whose rules are asked in turn.
The segments whose rules are being asked inside one another are a chain. Where segments refer to
each other without a cycle, no segment stands twice in a chain, so a chain is never longer than
there are segments and the depth at which `inSegments` would give up is never reached.

**Results.**
* `Chained.enter`: asking the rules of a segment adds one to the chain that was not on it.
* `Chained.length_le`: a chain is never longer than there are segments.
* `inSegments_eq`: membership looks into segments within segments to any depth.
* `value_inSegments_cons`, `value_matchesAll_cons`: the equations that membership and the matching
  of clauses satisfy.
-/
namespace FeatureFlags

/-- What is asked about a target: to be a member of one of the segments, or to match all the
clauses. -/
inductive Question where
  | member (identifiers : List String)
  | clauses (clauses : List Clause)

/-- The segments that a question asks for by name. -/
def Question.Names : Question → String → Prop
  | .member ids, id => id ∈ ids
  | .clauses cs, id => ∃ c ∈ cs, c.operator = .segmentMatch ∧ id ∈ c.values

namespace Table

variable {α : Type} {table : Table α} {ids : List String} {id : String} {a : α}

theorem mem_keys_of_get? (h : table.get? id = some a) : id ∈ table.keys := by
  rw [mem_keys_iff, h]
  rfl

theorem length_le_size (hnd : ids.Nodup) (hkeys : ∀ id ∈ ids, id ∈ table.keys) :
    ids.length ≤ table.size := by
  rw [← size_keys]
  exact (List.subperm_of_subset hnd hkeys).length_le

/-- A stored name that is not on the list can be put at its end. -/
theorem distinct_append (hnd : ids.Nodup) (hkeys : ∀ id ∈ ids, id ∈ table.keys) (hid : id ∉ ids)
    (h : table.get? id = some a) :
    (ids ++ [id]).Nodup ∧ ∀ id' ∈ ids ++ [id], id' ∈ table.keys := by
  refine ⟨List.concat_eq_append ▸ List.Nodup.concat hid hnd, List.forall_mem_append.2 ⟨hkeys, ?_⟩⟩
  intro id' hid'
  rw [List.mem_singleton.1 hid']
  exact mem_keys_of_get? h

end Table

/-- Where every step lowers the rank, nothing leads back to itself. -/
theorem not_transGen_of_rank {r : String → String → Prop} (rank : String → Nat)
    (h : ∀ a b, r a b → rank b < rank a) (a : String) : ¬ Relation.TransGen r a a := by
  have hlt : ∀ a b, Relation.TransGen r a b → rank b < rank a := by
    intro a b hab
    induction hab with
    | single h1 => exact h _ _ h1
    | tail _ h1 ih => exact Nat.lt_trans (h _ _ h1) ih
  exact fun haa => Nat.lt_irrefl _ (hlt a a haa)

namespace Segment

/-- The rules of segment `a` ask for membership of segment `b`. -/
def Refers (table : Table Segment) (a b : String) : Prop :=
  ∃ segment, table.get? a = some segment ∧ (Question.clauses segment.ruleClauses).Names b

/-- No segment leads back to itself. -/
def Acyclic (table : Table Segment) : Prop := ∀ id, ¬ Relation.TransGen (Refers table) id id

theorem acyclic_of_rank {table : Table Segment} (rank : String → Nat)
    (h : ∀ a b, Refers table a b → rank b < rank a) : Acyclic table :=
  not_transGen_of_rank rank h

/-- Where the rules of a segment ask only for segments that stand before it in an order. -/
theorem acyclic_of_order {table : Table Segment} (order : List String)
    (h : ∀ entry ∈ table.entries, ∀ c ∈ entry.2.ruleClauses, ∀ id ∈ c.values,
      order.idxOf id < order.idxOf entry.1) : Acyclic table := by
  refine acyclic_of_rank (order.idxOf ·) ?_
  rintro a b ⟨segment, hs, c, hc, -, hb⟩
  exact h _ (Table.mem_entries_of_get? hs) c hc b hb

/-- Fewer references have no more cycles. -/
theorem Acyclic.of_refers {a b : Table Segment} (hac : Acyclic b)
    (h : ∀ x y, Refers a x y → Refers b x y) :
    Acyclic a :=
  fun id hcycle => hac id (Relation.TransGen.mono h id id hcycle)

theorem acyclic_empty : Acyclic .empty :=
  acyclic_of_rank (fun _ => 0) fun _ _ ⟨_, hs, _⟩ => by cases hs

/-- What the lists of a segment say about a target; exclusion goes before inclusion. -/
def listing? (s : Segment) (identifier : String) : Option Bool :=
  if s.excludes identifier then some false
  else if s.includes identifier then some true
  else none

end Segment

open Segment

/-- Whether a target matches a clause that asks for no segment. -/
def Clause.holds (c : Clause) (target : Target) : Bool :=
  match target.attributeText? c.attr with
  | some text => c.operator.compare text c.values
  | none => false

/-! ## Chains -/

/-- The question is asked by the rules of the last segment of the chain, inside those of the ones
before. -/
structure Chained (table : Table Segment) (chain : List String) (q : Question) : Prop where
  nodup : chain.Nodup
  stored : ∀ id ∈ chain, id ∈ table.keys
  leads : ∀ a ∈ chain, ∀ b, q.Names b → Relation.TransGen (Refers table) a b

namespace Chained

variable {table : Table Segment} {chain : List String} {q : Question}

theorem start (table : Table Segment) (q : Question) : Chained table [] q :=
  ⟨List.nodup_nil, by simp, by simp⟩

theorem of_names {q' : Question} (h : Chained table chain q) (hq : ∀ b, q'.Names b → q.Names b) :
    Chained table chain q' :=
  ⟨h.nodup, h.stored, fun a ha b hb => h.leads a ha b (hq b hb)⟩

theorem length_le (h : Chained table chain q) : chain.length ≤ table.size :=
  Table.length_le_size h.nodup h.stored

/-- A segment that is asked for is not on the chain: it would lead back to itself. -/
theorem notMem (hac : Acyclic table) (h : Chained table chain q) {id : String} (hid : q.Names id) :
    id ∉ chain :=
  fun hmem => hac id (h.leads id hmem id hid)

theorem enter (hac : Acyclic table) {ids : List String} {id : String} {segment : Segment}
    (h : Chained table chain (.member ids)) (hid : id ∈ ids) (hs : table.get? id = some segment) :
    Chained table (chain ++ [id]) (.clauses segment.ruleClauses) := by
  obtain ⟨hnodup, hstored⟩ := Table.distinct_append h.nodup h.stored (h.notMem hac hid) hs
  refine ⟨hnodup, hstored, ?_⟩
  intro a ha b hb
  have hstep : Refers table id b := ⟨segment, hs, hb⟩
  rcases List.mem_append.1 ha with ha | ha
  · exact (h.leads a ha id hid).tail hstep
  · rw [List.mem_singleton.1 ha]
    exact .single hstep

theorem asked {clauses : List Clause} (h : Chained table chain (.clauses clauses)) {c : Clause}
    (hc : c ∈ clauses) (hop : c.operator = .segmentMatch) :
    Chained table chain (.member c.values) :=
  h.of_names fun _ hb => ⟨c, hc, hop, hb⟩

end Chained

/-! ## The depth does not matter -/

namespace Evaluator

variable (e : Evaluator) (target : Target)

theorem clausesMatch_congr {m m' : List String → Traced Bool} {clauses : List Clause}
    (h : ∀ c ∈ clauses, c.operator = .segmentMatch → m c.values = m' c.values) :
    clausesMatch m target clauses = clausesMatch m' target clauses := by
  induction clauses with
  | nil => rfl
  | cons c rest ih =>
    have hc : clauseMatches m target c = clauseMatches m' target c := by
      unfold clauseMatches
      split
      · rfl
      · split
        · rfl
        · next hop => exact h c List.mem_cons_self hop
        · rfl
    simp only [clausesMatch, hc, ih fun c' hc' => h c' (List.mem_cons_of_mem c hc')]

theorem walkSegments_congr {m m' : List String → Traced Bool} {ids : List String}
    (h : ∀ id ∈ ids, ∀ segment, e.source.segments.get? id = some segment →
      ∀ c ∈ segment.ruleClauses, c.operator = .segmentMatch → m c.values = m' c.values) :
    e.walkSegments m target ids = e.walkSegments m' target ids := by
  induction ids with
  | nil => rfl
  | cons id rest ih =>
    have hid : e.standing m target id = e.standing m' target id := by
      unfold standing Source.lookupSegment
      cases hs : e.source.segments.get? id with
      | none => rfl
      | some segment => simp only [clausesMatch_congr target (h id List.mem_cons_self segment hs)]
    simp only [walkSegments, hid, ih fun x hx => h x (List.mem_cons_of_mem id hx)]

/-- A depth that exceeds what the chain leaves of the segments is as good as the next one. -/
theorem inSegmentsTo_succ (hac : Acyclic e.source.segments) :
    ∀ depth chain ids, Chained e.source.segments chain (.member ids) →
      e.source.segmentCount < depth + chain.length →
      e.inSegmentsTo target (depth + 1) ids = e.inSegmentsTo target depth ids := by
  intro depth
  induction depth with
  | zero =>
    intro chain ids hch hlt
    have hle : chain.length ≤ e.source.segmentCount := hch.length_le
    omega
  | succ depth ih =>
    intro chain ids hch hlt
    refine walkSegments_congr e target fun id hid segment hs c hc hop => ?_
    refine ih (chain ++ [id]) c.values ((hch.enter hac hid hs).asked hc hop) ?_
    rw [List.length_append, List.length_singleton]
    omega

/-- Membership of segments is decided by the same law inside their rules, however deep. -/
theorem inSegments_eq (hac : Acyclic e.source.segments) (ids : List String) :
    e.inSegments target ids = e.walkSegments (e.inSegments target) target ids := by
  have hstable := inSegmentsTo_succ e target hac (e.source.segmentCount + 1) [] ids (.start _ _)
    (Nat.lt_succ_self _)
  exact hstable.symm

/-! ## The equations of membership -/

theorem value_clauseMatches {m : List String → Traced Bool} (hm : (m []).value = false)
    (c : Clause) :
    (clauseMatches m target c).value =
      if c.operator = .segmentMatch then (m c.values).value else c.holds target := by
  unfold clauseMatches Clause.holds
  split
  · next hv =>
    rw [List.isEmpty_iff.1 hv, hm]
    split
    · rfl
    · cases target.attributeText? c.attr <;> rfl
  · split
    · next hop =>
      rw [if_neg (by simp [hop]), hop]
      cases target.attributeText? c.attr with
      | none => rfl
      | some text => cases hv : c.values <;> rfl
    · next hop => rw [if_pos hop]
    · next hop =>
      rw [if_neg hop]
      cases target.attributeText? c.attr <;> rfl

/-- What a segment decides about a target, in terms of its lists and its rules. -/
theorem value_standing (m : List String → Traced Bool) (id : String) :
    (e.standing m target id).value.decision? =
      match e.source.segments.get? id with
      | none => some false
      | some segment =>
        match segment.listing? target.identifier with
        | some listed => some listed
        | none =>
          if !segment.ruleClauses.isEmpty &&
            (clausesMatch m target segment.ruleClauses).value then some true
          else none := by
  unfold standing Source.lookupSegment listing?
  cases e.source.segments.get? id with
  | none => rfl
  | some segment =>
    dsimp only
    by_cases hex : segment.excludes target.identifier
    · rw [if_pos hex, if_pos hex]
      rfl
    rw [if_neg hex, if_neg hex]
    by_cases hin : segment.includes target.identifier
    · rw [if_pos hin, if_pos hin]
      rfl
    rw [if_neg hin, if_neg hin]
    by_cases hr : segment.ruleClauses.isEmpty
    · rw [if_pos hr, hr]
      rfl
    rw [if_neg hr, Bool.not_eq_true _ |>.mp hr]
    rw [Traced.value_bind]
    cases (clausesMatch m target segment.ruleClauses).value <;> rfl

theorem value_walkSegments_cons (m : List String → Traced Bool) (id : String) (rest : List String) :
    (e.walkSegments m target (id :: rest)).value =
      match e.source.segments.get? id with
      | none => false
      | some segment =>
        match segment.listing? target.identifier with
        | some listed => listed
        | none =>
          (!segment.ruleClauses.isEmpty && (clausesMatch m target segment.ruleClauses).value) ||
            (e.walkSegments m target rest).value := by
  have hstep : (e.walkSegments m target (id :: rest)).value =
      ((e.standing m target id).value.decision?).getD (e.walkSegments m target rest).value := by
    rw [walkSegments, Traced.value_bind, Traced.value_bind]
    cases (e.standing m target id).value.decision? <;> rfl
  rw [hstep, value_standing]
  cases e.source.segments.get? id with
  | none => rfl
  | some segment =>
    dsimp only
    cases segment.listing? target.identifier with
    | some listed => rfl
    | none => cases !segment.ruleClauses.isEmpty &&
      (clausesMatch m target segment.ruleClauses).value <;> rfl

@[simp] theorem value_inSegments_nil : (e.inSegments target []).value = false := rfl

theorem value_inSegments_cons (hac : Acyclic e.source.segments) (id : String) (rest : List String) :
    (e.inSegments target (id :: rest)).value =
      match e.source.segments.get? id with
      | none => false
      | some segment =>
        match segment.listing? target.identifier with
        | some listed => listed
        | none =>
          (!segment.ruleClauses.isEmpty && (e.matchesAll target segment.ruleClauses).value) ||
            (e.inSegments target rest).value := by
  rw [inSegments_eq e target hac, value_walkSegments_cons, ← inSegments_eq e target hac]
  rfl

theorem value_matchesAll_cons (c : Clause) (rest : List Clause) :
    (e.matchesAll target (c :: rest)).value =
      ((if c.operator = .segmentMatch then
        (e.inSegments target c.values).value else c.holds target) &&
        (e.matchesAll target rest).value) := by
  have hc := value_clauseMatches target (value_inSegments_nil e target) c
  rw [← hc]
  show (clausesMatch (e.inSegments target) target (c :: rest)).value = _
  rw [clausesMatch, Traced.value_bind]
  cases (clauseMatches (e.inSegments target) target c).value <;> rfl

end Evaluator
end FeatureFlags
