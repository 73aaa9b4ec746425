import FeatureFlags.Proofs.MembershipLaw

/-!
# Membership fails closed

No clause negates, and a segment that is lost ends its list just as one that excludes. So whoever is
a member where segments are missing or stricter is one where they are all there and wider, however
deep inside the rules of other segments the difference lies.

**Results.**
* `AllWithin.acyclic`: fewer segments have no more cycles.
* `isMember_of_within`, `matchesAll_of_within`: members stay members where segments are wider.
* `allWithin_of_tightened`: segments that are lost or made stricter, one after the other, are within
  the former ones.
* `membership_fails_closed`: the two together.
-/
namespace FeatureFlags

open Segment Relation

namespace Segment

/-- The second segment has the same rules, includes all whom the first includes and excludes only
whom the first excludes. -/
structure Within (s t : Segment) : Prop where
  rules : s.ruleClauses = t.ruleClauses
  included : ∀ id, s.includes id = true → t.includes id = true
  excluded : ∀ id, t.excludes id = true → s.excludes id = true

/-- The segments of the first table are stored in the second, and as wide there or wider. -/
def AllWithin (a b : Table Segment) : Prop :=
  ∀ id s, a.get? id = some s → ∃ t, b.get? id = some t ∧ s.Within t

theorem Within.refl (s : Segment) : s.Within s := ⟨rfl, fun _ => id, fun _ => id⟩

theorem Within.trans {s t u : Segment} (h : s.Within t) (h' : t.Within u) : s.Within u :=
  ⟨h.rules.trans h'.rules, fun id hs => h'.included id (h.included id hs),
    fun id hu => h.excluded id (h'.excluded id hu)⟩

theorem AllWithin.refl (a : Table Segment) : AllWithin a a := fun _ s hs => ⟨s, hs, .refl s⟩

theorem AllWithin.trans {a b c : Table Segment} (h : AllWithin a b) (h' : AllWithin b c) :
    AllWithin a c := by
  intro id s hs
  obtain ⟨t, ht, hst⟩ := h id s hs
  obtain ⟨u, hu, htu⟩ := h' id t ht
  exact ⟨u, hu, hst.trans htu⟩

theorem AllWithin.acyclic {a b : Table Segment} (h : AllWithin a b) (hac : Acyclic b) :
    Acyclic a := by
  refine hac.of_refers fun x y ⟨s, hs, hy⟩ => ?_
  obtain ⟨t, ht, hst⟩ := h x s hs
  exact ⟨t, ht, hst.rules ▸ hy⟩

/-! ## Wider segments -/

variable {s t : Segment} {member member' : List String → Prop} {target : Target}

theorem Within.notExcluded (h : s.Within t) (hs : s.excludes target.identifier = false) :
    t.excludes target.identifier = false := by
  by_contra ht
  rw [Bool.not_eq_false] at ht
  exact Bool.false_ne_true (hs.symm.trans (h.excluded _ ht))

theorem Within.admits (h : s.Within t)
    (hmember : ∀ c ∈ s.ruleClauses, c.operator = .segmentMatch → member c.values → member' c.values)
    (hs : s.Admits member target) : t.Admits member' target := by
  refine ⟨h.notExcluded hs.notExcluded, hs.admitted.imp (h.included _) fun ⟨hne, hall⟩ => ?_⟩
  rw [RulesMatch, ← h.rules]
  exact ⟨hne, fun c hc => (hall c hc).imp (hmember c hc)⟩

end Segment

namespace Evaluator

variable {e e' : Evaluator} {target : Target}

/-- The induction is on the segments that the rules ask for; for one list it is a walk in both
tables. -/
theorem isMember_of_within (hac : Acyclic e'.source.segments)
    (h : AllWithin e.source.segments e'.source.segments) (ids : List String) :
    e.IsMember target ids → e'.IsMember target ids := by
  have hac₀ := h.acyclic hac
  induction ids using hac₀.induction with
  | step ids ih =>
    induction ids with
    | nil => simp [IsMember]
    | cons id rest ihrest =>
      rw [isMember_cons hac₀, isMember_cons hac]
      rintro ⟨s, hs, hcase⟩
      obtain ⟨t, ht, hst⟩ := h id s hs
      refine ⟨t, ht, ?_⟩
      rcases hcase with hadm | ⟨hsilent, hrest⟩
      · exact .inl (hst.admits (ih id List.mem_cons_self s hs) hadm)
      · have hrest' := ihrest (fun x hx => ih x (List.mem_cons_of_mem id hx)) hrest
        exact (admits_or_silent (hst.notExcluded hsilent.notExcluded)).imp_right fun ht =>
          ⟨ht, hrest'⟩

theorem matchesAll_of_within (hac : Acyclic e'.source.segments)
    (h : AllWithin e.source.segments e'.source.segments) {cs : List Clause}
    (hcs : (e.matchesAll target cs).value = true) : (e'.matchesAll target cs).value = true := by
  rw [matchesAll_iff] at hcs ⊢
  exact fun c hc => (hcs c hc).imp fun _ => isMember_of_within hac h c.values

end Evaluator

/-! ## Losing segments and making them stricter -/

/-- The segment with all inclusions of an identifier dropped. -/
def Segment.withoutIncluded (s : Segment) (identifier : String) : Segment :=
  { s with included := s.included.map fun refs => refs.filter fun r => r.identifier != identifier }

theorem Segment.withExcluded_within (s : Segment) (identifier : String) :
    (s.withExcluded identifier).Within s := by
  refine ⟨rfl, fun _ => id, fun id hid => ?_⟩
  unfold excludes listsTarget withExcluded at *
  cases hrefs : s.excluded with
  | none => simp [hrefs] at hid
  | some refs =>
    rw [hrefs] at hid
    simp only [Option.getD_some, List.any_append, Bool.or_eq_true]
    exact .inl hid

theorem Segment.withoutIncluded_within (s : Segment) (identifier : String) :
    (s.withoutIncluded identifier).Within s := by
  refine ⟨rfl, fun id hid => ?_, fun _ => id⟩
  unfold includes listsTarget withoutIncluded at *
  cases hrefs : s.included with
  | none => simp [hrefs] at hid
  | some refs =>
    simp only [hrefs, Option.map_some, List.any_filter, List.any_eq_true, Bool.and_eq_true] at hid ⊢
    obtain ⟨r, hr, -, hid⟩ := hid
    exact ⟨r, hr, hid⟩

namespace Definitions

/-- A segment is lost, or excludes one more, or includes one less. -/
inductive Tightened (s : Definitions) : Definitions → Prop where
  | lost (id : String) : Tightened s (s.removeSegment id)
  | excluding {t : Segment} (ht : s.segments.get? t.identifier = some t) (id : String) :
      Tightened s (s.setSegment (t.withExcluded id))
  | notIncluding {t : Segment} (ht : s.segments.get? t.identifier = some t) (id : String) :
      Tightened s (s.setSegment (t.withoutIncluded id))

theorem allWithin_setSegment {s : Definitions} {t u : Segment}
    (hu : s.segments.get? u.identifier = some t)
    (h : u.Within t) : AllWithin (s.setSegment u).segments s.segments := by
  intro id x hx
  rw [setSegment, Table.get?_insert] at hx
  split at hx
  · next hid =>
    cases hx
    exact ⟨t, hid ▸ hu, h⟩
  · exact ⟨x, hx, .refl x⟩

theorem allWithin_removeSegment (s : Definitions) (id : String) :
    AllWithin (s.removeSegment id).segments s.segments := by
  intro x t ht
  rw [removeSegment, Table.get?_erase] at ht
  split at ht
  · cases ht
  · exact ⟨t, ht, .refl t⟩

theorem Tightened.allWithin {s s' : Definitions} (h : s.Tightened s') :
    AllWithin s'.segments s.segments := by
  cases h with
  | lost id => exact allWithin_removeSegment s id
  | excluding ht id => exact allWithin_setSegment ht (withExcluded_within _ id)
  | notIncluding ht id => exact allWithin_setSegment ht (withoutIncluded_within _ id)

theorem allWithin_of_tightened {s s' : Definitions} (h : ReflTransGen Tightened s s') :
    AllWithin s'.segments s.segments := by
  induction h with
  | refl => exact .refl _
  | tail _ hstep ih => exact hstep.allWithin.trans ih

end Definitions

namespace Evaluator

/-- The evaluator with other definitions in the place of its own. -/
def withStore (e : Evaluator) (s : Definitions) : Evaluator :=
  { e with source := { e.source with toDefinitions := s } }

/-- **Membership fails closed.** Whoever is a member of segments, or matches clauses, is so too
wherever the same segments are stored with the same rules, no fewer inclusions and no more
exclusions. So nobody becomes a member by the loss of segments, by further exclusions or by dropped
inclusions, however many. -/
theorem membership_fails_closed (e e' : Evaluator) (target : Target)
    (hac : Acyclic e'.source.segments)
    (h : AllWithin e.source.segments e'.source.segments) :
    (∀ ids, (e.inSegments target ids).value = true → (e'.inSegments target ids).value = true) ∧
    (∀ cs, (e.matchesAll target cs).value = true → (e'.matchesAll target cs).value = true) ∧
    ∀ s, ReflTransGen Definitions.Tightened e'.source.toDefinitions s →
      (∀ ids, ((e'.withStore s).inSegments target ids).value = true →
        (e'.inSegments target ids).value = true) ∧
      ∀ cs, ((e'.withStore s).matchesAll target cs).value = true →
        (e'.matchesAll target cs).value = true := by
  refine ⟨isMember_of_within hac h, fun _ => matchesAll_of_within hac h, fun s hs => ?_⟩
  have hwithin : AllWithin (e'.withStore s).source.segments e'.source.segments :=
    Definitions.allWithin_of_tightened hs
  exact ⟨isMember_of_within hac hwithin, fun _ => matchesAll_of_within hac hwithin⟩

/-! ## A stricter club -/

/-- A lounge for members and their guests. -/
def club : Evaluator :=
  .ofSnapshot
    ⟨[], [(Segment.new "members").withIncluded "ann", (Segment.new "guests").withIncluded "bob",
      (Segment.new "lounge").withRule (.ofSegments ["members", "guests"])]⟩

/-- The club without the list of guests, which keeps one of them out by name. -/
def stricterClub : Evaluator :=
  club.withStore ((club.source.removeSegment "guests").setSegment
    (((Segment.new "members").withIncluded "ann").withExcluded "bob"))

theorem stricterClub_tightened :
    ReflTransGen Definitions.Tightened club.source.toDefinitions
      stricterClub.source.toDefinitions :=
  .tail (.tail .refl (.lost "guests"))
    (.excluding (t := (Segment.new "members").withIncluded "ann") rfl "bob")

/-- A member of the stricter club is one of the club; its guests have lost their place. -/
theorem stricterClub_members :
    Acyclic club.source.segments ∧
      AllWithin stricterClub.source.segments club.source.segments ∧
      (stricterClub.inSegments (.new "ann") ["lounge"]).value = true ∧
      (club.inSegments (.new "ann") ["lounge"]).value = true ∧
      (stricterClub.inSegments (.new "bob") ["lounge"]).value = false ∧
      (club.inSegments (.new "bob") ["lounge"]).value = true := by
  have hac : Acyclic club.source.segments :=
    acyclic_of_order ["members", "guests", "lounge"] (by decide)
  have hwithin := Definitions.allWithin_of_tightened stricterClub_tightened
  have hann : (stricterClub.inSegments (.new "ann") ["lounge"]).value = true := rfl
  exact ⟨hac, hwithin, hann,
    (membership_fails_closed stricterClub club (.new "ann") hac hwithin).1 ["lounge"] hann, rfl,
    rfl⟩

end Evaluator
end FeatureFlags
