import FeatureFlags.Proofs.Reach

/-!
# What is seen of a target

Lists name a target by its identifier; clauses and distributions see the texts of its attributes,
and only those of the attributes that they name. So targets with the same identifier and the same
texts are served alike. It makes no difference of which type a value is, nor what else a target
carries; and a custom attribute with the name of a field of the target is never seen at all.

**Results.**
* `attributeText?_congr`: the texts of a target do not change with values that print alike, nor with
  attributes that are hidden.
* `seen_by_identifier_and_texts`: all that an evaluation sees of a target.
-/
namespace FeatureFlags

open Segment

theorem AttributeValue.toText_list (items : List AttributeValue) :
    (list items).toText = String.intercalate "," (items.map toText) := by
  have htexts : itemTexts items = items.map toText := by
    induction items with
    | nil => rfl
    | cons item rest ih => rw [itemTexts, ih, List.map_cons]
  rw [toText, htexts]

namespace Target

/-- The name is that of a field of targets, in any ASCII letter case. -/
def Hidden (attr : String) : Prop :=
  ∃ word ∈ ["identifier", "name", "anonymous"], Text.equalIgnoringAsciiCase attr word = true

theorem builtIn?_eq_none {attr : String} : builtIn? attr = none ↔ ¬ Hidden attr := by
  unfold builtIn? Hidden
  simp only [List.mem_cons, List.not_mem_nil, or_false, exists_eq_or_imp, exists_eq_left]
  grind

variable {t : Target} {attributes : Table AttributeValue} {attr : String}

/-- The text of an attribute is that of a field of the target, or of the custom attribute. -/
theorem attributeText?_congr
    (h : ¬ Hidden attr →
      (attributes.get? attr).map AttributeValue.toText =
        (t.attributes.get? attr).map AttributeValue.toText) :
    { t with attributes }.attributeText? attr = t.attributeText? attr := by
  unfold attributeText? attribute?
  cases hb : builtIn? attr with
  | none => exact h (builtIn?_eq_none.1 hb)
  | some field => cases field <;> rfl

theorem attributeText?_withAttribute {key : String} {v w : AttributeValue}
    (h : v.toText = w.toText) :
    (t.withAttribute key w).attributeText? attr = (t.withAttribute key v).attributeText? attr := by
  refine attributeText?_congr (t := t.withAttribute key v) fun _ => ?_
  show ((t.attributes.insert key w).get? attr).map _ = ((t.attributes.insert key v).get? attr).map _
  rw [Table.get?_insert, Table.get?_insert]
  split
  · rw [Option.map_some, Option.map_some, h]
  · rfl

end Target

namespace Evaluator

variable {e : Evaluator} {target target' : Target} {root : String}

theorem value_evaluate_of_texts (hac : Acyclic e.source.segments)
    (hid : target.identifier = target'.identifier)
    (hattrs : ∀ a, e.source.Sees root e.config.bucketFallback a →
      target.attributeText? a = target'.attributeText? a) (kind : Flag.Kind) :
    (e.evaluate root target' kind).value = (e.evaluate root target kind).value :=
  value_evaluate_of_agreeOn hac hac rfl rfl (.refl _ _) hid hattrs kind

/-- **Seen of a target.** Targets are served alike that have the same identifier and, for every
attribute which the definitions in the reach of the flag look at or which stands in for a missing
one, both none or the same text. So a value may be replaced by one that prints alike, such as an
integer by its digits and a list by its joined items; and custom attributes may be set, changed or
removed that are not looked at, or that have the name of a field. -/
theorem seen_by_identifier_and_texts (e : Evaluator) (root : String) (kind : Flag.Kind)
    (hac : Acyclic e.source.segments) :
    (∀ t t' : Target, t.identifier = t'.identifier →
      (∀ a, e.source.Sees root e.config.bucketFallback a →
        t.attributeText? a = t'.attributeText? a) →
      (e.evaluate root t' kind).value = (e.evaluate root t kind).value) ∧
    (∀ (t : Target) (key : String),
      (∀ v w : AttributeValue, v.toText = w.toText →
        (e.evaluate root (t.withAttribute key w) kind).value =
          (e.evaluate root (t.withAttribute key v) kind).value) ∧
      (∀ i : Int64, (e.evaluate root (t.withAttribute key (.string i.toInt.repr)) kind).value =
        (e.evaluate root (t.withAttribute key (.int i)) kind).value) ∧
      ∀ items, (e.evaluate root
          (t.withAttribute key (.string (String.intercalate "," (items.map AttributeValue.toText))))
          kind).value =
        (e.evaluate root (t.withAttribute key (.list items)) kind).value) ∧
    (∀ (t : Target) (attributes : Table AttributeValue),
      (∀ a, e.source.Sees root e.config.bucketFallback a → ¬ Target.Hidden a →
        attributes.get? a = t.attributes.get? a) →
      (e.evaluate root { t with attributes } kind).value = (e.evaluate root t kind).value) := by
  have hprint : ∀ (t : Target) (key : String) (v w : AttributeValue), v.toText = w.toText →
      (e.evaluate root (t.withAttribute key w) kind).value =
        (e.evaluate root (t.withAttribute key v) kind).value := by
    intro t key v w h
    have hid : (t.withAttribute key v).identifier = (t.withAttribute key w).identifier := rfl
    exact value_evaluate_of_texts hac hid
      (fun a _ => (Target.attributeText?_withAttribute h).symm) kind
  refine ⟨fun t t' hid hattrs => value_evaluate_of_texts hac hid hattrs kind,
    fun t key => ⟨hprint t key, ?_, ?_⟩, fun t attributes h => ?_⟩
  · exact fun i => hprint t key (.int i) _ rfl
  · exact fun items => hprint t key (.list items) _ (AttributeValue.toText_list items)
  · have hid : t.identifier = { t with attributes }.identifier := rfl
    refine value_evaluate_of_texts hac hid (fun a ha => ?_) kind
    exact (Target.attributeText?_congr fun hopen => by rw [h a ha hopen]).symm

/-! ## A ferry with decks -/

/-- A flag that is on for those on one of two decks. -/
def ferryFlag : Flag :=
  ((Flag.boolean "ferry").withState .on).withRule
    ((Rule.new 1 (.ofVariation "true")).withClause ⟨"deck", .oneOf, ["42", "upper,lower"]⟩)

def ferry : Evaluator := .ofSnapshot ⟨[ferryFlag], []⟩

theorem ferry_sails (target : Target) (hdeck : target.attributeText? "deck" = some "42") :
    (ferry.evaluate "ferry" target .boolean).value = .ok (.new "true" "true") := by
  have hholds : Clause.holds ⟨"deck", .oneOf, ["42", "upper,lower"]⟩ target = true := by
    rw [Clause.holds, hdeck]
    rfl
  have hclauses : Course.Answers ferry.source.segments target []
      (.clauses [⟨"deck", .oneOf, ["42", "upper,lower"]⟩]) true _ :=
    .holds (by decide) hholds .noClause
  have hr : Course.Resolves ferry.source.segments ferry.config.bucketFallback target
      ferryFlag _ _ :=
    .by_only_rule rfl rfl rfl hclauses rfl rfl
  exact (evaluates_iff acyclic_empty).1 ⟨_, .met rfl rfl .done hr⟩

theorem ferry_sees {a : String} (h : ferry.source.Sees "ferry" ferry.config.bucketFallback a) :
    a = "identifier" ∨ a = "deck" := by
  cases h with
  | fallback => exact .inl rfl
  | flag _ hf ha =>
    have hall : ∀ entry ∈ ferry.source.flags.entries, ∀ a ∈ entry.2.attributes, a = "deck" := by
      decide
    exact .inr (hall _ (Table.mem_entries_of_get? hf) _ ha)
  | segment _ hx => cases hx

/-- A passenger on a deck that has a number. -/
def passenger : Target := (Target.new "ann").withAttribute "deck" (.int 42)

/-- A number and its digits get on board alike, as do two decks and their names in one text; a shoe
size and a second name change nothing. -/
theorem ferry_sees_texts :
    Acyclic ferry.source.segments ∧
      (ferry.evaluate "ferry" passenger .boolean).value = .ok (.new "true" "true") ∧
      (ferry.evaluate "ferry" ((Target.new "ann").withAttribute "deck" (.string "42"))
        .boolean).value = .ok (.new "true" "true") ∧
      (ferry.evaluate "ferry" ((Target.new "ann").withAttribute "deck" (.string "upper,lower"))
        .boolean).value =
        (ferry.evaluate "ferry" ((Target.new "ann").withAttribute "deck"
          (.list [.string "upper", .string "lower"])) .boolean).value ∧
      (ferry.evaluate "ferry"
        ((passenger.withAttribute "shoe" (.int 38)).withAttribute "Name" (.string "bob"))
        .boolean).value = .ok (.new "true" "true") := by
  have hsails := ferry_sails passenger (by decide)
  have h := seen_by_identifier_and_texts ferry "ferry" .boolean acyclic_empty
  have hprint := (h.2.1 (.new "ann") "deck").1
  have hladen :=
    h.1 passenger ((passenger.withAttribute "shoe" (.int 38)).withAttribute "Name" (.string "bob"))
    rfl fun a ha => by rcases ferry_sees ha with rfl | rfl <;> decide
  exact ⟨acyclic_empty, hsails, (hprint (.int 42) (.string "42") (by decide)).trans hsails,
    hprint (.list [.string "upper", .string "lower"]) (.string "upper,lower") (by decide),
    hladen.trans hsails⟩

end Evaluator
end FeatureFlags
