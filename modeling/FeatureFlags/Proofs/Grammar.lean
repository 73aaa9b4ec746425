import FeatureFlags.Proofs.Schema
import FeatureFlags.Store

/-!
# The grammar of definitions

The schema of each kind of definition, and that its reader keeps to it.

**Results.**
* `Flag.describes`, `Segment.describes`, `Snapshot.describes` and the like: the schema describes the
  reader.
* `definitions_follow_their_grammar`: all of them together.
-/
namespace FeatureFlags

open Json Json.Schema Json.Schema.Field

/-! ## Names -/

def Flag.Kind.schema : Schema := .name (some ["boolean", "string", "int", "json"])

def Flag.State.schema : Schema := .name (some ["on", "off"])

/-- Every name is an operator. -/
def Operator.schema : Schema := .name none

theorem Flag.Kind.describes : schema.Describes codec.decode := describes_names names

theorem Flag.State.describes : schema.Describes codec.decode := describes_names names

theorem Operator.describes : schema.Describes codec.decode := describes_names names

theorem Operator.find_name (name : String) : names.find name = .ok (ofName name) := by
  unfold Names.find ofName
  cases names.known.lookup name <;> rfl

theorem Operator.decode_eq_ok_iff {json : Json} {operator : Operator} :
    codec.decode json = .ok operator ↔
    ∃ name, (json = .string name ∨ json = .object [(name, .null)]) ∧ operator = ofName name := by
  refine decode_name_eq_ok_iff.trans (exists_congr fun name => and_congr_right fun _ => ?_)
  rw [find_name, Except.ok.injEq, eq_comm]

/-! ## The parts of a flag -/

def Variation.schema : Schema :=
  .record [needed "identifier" .string, needed "value" .string, spare "name" (.nullable .string),
    spare "description" (.nullable .string)]

def Distribution.Share.schema : Schema :=
  .record [needed "variation" .string, needed "weight" (.integer 0 4294967295)]

def Distribution.schema : Schema :=
  .record [needed "bucketBy" .string, needed "variations" (.list Share.schema)]

def Serve.schema : Schema :=
  .record [spare "distribution" (.nullable Distribution.schema),
    spare "variation" (.nullable .string)]

def Clause.schema : Schema :=
  .record [spare "attribute" .string, needed "op" Operator.schema, spare "values" (.list .string)]

def Rule.schema : Schema :=
  .record [spare "ruleId" (.nullable .string),
    needed "priority" (.integer (-2147483648) 2147483647), needed "clauses" (.list Clause.schema),
      needed "serve" Serve.schema]

def TargetRef.schema : Schema :=
  .record [needed "identifier" .string, spare "name" (.nullable .string)]

def Override.schema : Schema :=
  .record [needed "variation" .string, spare "targets" (.nullable (.list TargetRef.schema)),
    spare "targetSegments" (.nullable (.list .string))]

def Prerequisite.schema : Schema :=
  .record [needed "flag" .string ["feature"], needed "variations" (.list .string)]

theorem Variation.describes : schema.Describes record.decode :=
  DescribesFields.describes
    (.cons (describes_required describes_string _ _) <|
      .cons (describes_required describes_string _ _) <|
      .cons (describes_optional describes_string _) <|
      .cons (describes_optional describes_string _) .nil)
    (by decide)

theorem Distribution.Share.describes : schema.Describes record.decode :=
  DescribesFields.describes
    (.cons (describes_required describes_string _ _) <|
      .cons (describes_required describes_uint32 _ _) .nil)
    (by decide)

theorem Distribution.describes : schema.Describes record.decode := by
  have hshares := describes_list (c := Share.record.codec) Share.describes
  exact DescribesFields.describes
    (.cons (describes_required describes_string _ _) <| .cons (describes_required hshares _ _) .nil)
      (by decide)

theorem Serve.describes : schema.Describes record.decode :=
  DescribesFields.describes
    (.cons (describes_optional (c := Distribution.record.codec) Distribution.describes _) <|
      .cons (describes_optional describes_string _) .nil)
    (by decide)

theorem Clause.describes : schema.Describes record.decode := by
  have hvalues := describes_list describes_string
  exact DescribesFields.describes
    (.cons (describes_defaulting describes_string _ _) <|
      .cons (describes_required Operator.describes _ _) <|
      .cons (describes_defaulting hvalues _ _) .nil)
    (by decide)

theorem Rule.describes : schema.Describes record.decode := by
  have hclauses := describes_list (c := Clause.record.codec) Clause.describes
  exact DescribesFields.describes
    (.cons (describes_optional describes_string _) <|
      .cons (describes_required describes_int32 _ _) <|
      .cons (describes_required hclauses _ _) <|
      .cons (describes_required (c := Serve.record.codec) Serve.describes _ _) .nil)
    (by decide)

theorem TargetRef.describes : schema.Describes record.decode :=
  DescribesFields.describes
    (.cons (describes_required describes_string _ _) <|
      .cons (describes_optional describes_string _) .nil)
    (by decide)

theorem Override.describes : schema.Describes record.decode := by
  have htargets := describes_list (c := TargetRef.record.codec) TargetRef.describes
  have hsegments := describes_list describes_string
  exact DescribesFields.describes
    (.cons (describes_required describes_string _ _) <| .cons (describes_optional htargets _) <|
      .cons (describes_optional hsegments _) .nil)
    (by decide)

theorem Prerequisite.describes : schema.Describes record.decode := by
  have hvariations := describes_list describes_string
  exact DescribesFields.describes
    (.cons (describes_required describes_string _ _) <|
      .cons (describes_required hvariations _ _) .nil)
    (by decide)

/-! ## Flags and segments -/

def Flag.schema : Schema :=
  .record [needed "identifier" .string ["feature"], needed "kind" Kind.schema,
    spare "state" State.schema, needed "variations" (.list Variation.schema),
      needed "offVariation" .string,
    spare "defaultServe" Serve.schema, spare "rules" (.nullable (.list Rule.schema)),
    spare "variationToTargetMap" (.nullable (.list Override.schema)),
    spare "prerequisites" (.nullable (.list Prerequisite.schema))]

def Segment.schema : Schema :=
  .record [needed "identifier" .string, spare "name" .string,
    spare "excluded" (.nullable (.list TargetRef.schema)),
    spare "included" (.nullable (.list TargetRef.schema)),
    spare "rules" (.nullable (.list Clause.schema))]

def Snapshot.schema : Schema :=
  .record [spare "flags" (.list Flag.schema), spare "segments" (.list Segment.schema)]

theorem Flag.describes : schema.Describes record.decode := by
  have hvariations := describes_list (c := Variation.record.codec) Variation.describes
  have hrules := describes_list (c := Rule.record.codec) Rule.describes
  have hoverrides := describes_list (c := Override.record.codec) Override.describes
  have hprerequisites := describes_list (c := Prerequisite.record.codec) Prerequisite.describes
  exact DescribesFields.describes
    (.cons (describes_required describes_string _ _) <|
      .cons (describes_required Kind.describes _ _) <|
      .cons (describes_defaulting State.describes _ _) <|
      .cons (describes_required hvariations _ _) <|
      .cons (describes_required describes_string _ _) <|
      .cons (describes_defaulting (c := Serve.record.codec) Serve.describes _ _) <|
      .cons (describes_optional hrules _) <| .cons (describes_optional hoverrides _) <|
      .cons (describes_optional hprerequisites _) .nil)
    (by decide)

theorem Segment.describes : schema.Describes record.decode := by
  have htargets := describes_list (c := TargetRef.record.codec) TargetRef.describes
  have hrules := describes_list (c := Clause.record.codec) Clause.describes
  exact DescribesFields.describes
    (.cons (describes_required describes_string _ _) <|
      .cons (describes_defaulting describes_string _ _) <|
      .cons (describes_optional htargets _) <| .cons (describes_optional htargets _) <|
      .cons (describes_optional hrules _) .nil)
    (by decide)

theorem Snapshot.describes : schema.Describes record.decode := by
  have hflags := describes_list (c := Flag.record.codec) Flag.describes
  have hsegments := describes_list (c := Segment.record.codec) Segment.describes
  exact DescribesFields.describes
    (.cons (describes_defaulting hflags _ _) <| .cons (describes_defaulting hsegments _ _) .nil)
      (by decide)

/-! ## Targets and settings -/

def Target.schema : Schema :=
  .record [needed "identifier" .string, spare "name" .string, spare "anonymous" (.nullable .bool),
    spare "attributes" (.table .attribute)]

def Config.schema : Schema :=
  .record [spare "bucketFallbackAttribute" .string, spare "logAbsorbedErrors" .bool]

theorem Target.describes : schema.Describes record.decode := by
  have hattributes := describes_table describes_attribute
  exact DescribesFields.describes
    (.cons (describes_required describes_string _ _) <|
      .cons (describes_defaulting describes_string _ _) <|
      .cons (describes_optional describes_bool _) <|
      .cons (describes_defaulting hattributes _ _) .nil)
    (by decide)

theorem Config.describes : schema.Describes record.decode :=
  DescribesFields.describes
    (.cons (describes_defaulting describes_string _ _) <|
      .cons (describes_defaulting describes_bool _ _) .nil)
    (by decide)

/-! ## Every definition -/

/-- **Definitions follow their grammar.** A definition, a target, the settings or a snapshot is read
from the documents that its schema accepts and from no others, and what is read does not depend on
how the document is spelled, at any depth: not on the order of members, on unknown ones, on the name
of a field that has several, or on whether a record is an object or the array of its fields. Every
name is an operator, and may stand as the only key of an object as well. -/
theorem definitions_follow_their_grammar :
    Flag.schema.Describes Flag.record.decode ∧
    Variation.schema.Describes Variation.record.decode ∧
    Serve.schema.Describes Serve.record.decode ∧
    Distribution.schema.Describes Distribution.record.decode ∧
    Distribution.Share.schema.Describes Distribution.Share.record.decode ∧
    Rule.schema.Describes Rule.record.decode ∧
    Clause.schema.Describes Clause.record.decode ∧
    Override.schema.Describes Override.record.decode ∧
    TargetRef.schema.Describes TargetRef.record.decode ∧
    Prerequisite.schema.Describes Prerequisite.record.decode ∧
    Flag.Kind.schema.Describes Flag.Kind.codec.decode ∧
    Flag.State.schema.Describes Flag.State.codec.decode ∧
    Segment.schema.Describes Segment.record.decode ∧
    Target.schema.Describes Target.record.decode ∧
    Config.schema.Describes Config.record.decode ∧
    Snapshot.schema.Describes Snapshot.record.decode ∧
    Operator.schema.Describes Operator.codec.decode ∧
    ∀ (json : Json) (operator : Operator), Operator.codec.decode json = .ok operator ↔
      ∃ name, (json = .string name ∨ json = .object [(name, .null)]) ∧
        operator = Operator.ofName name :=
  ⟨Flag.describes, Variation.describes, Serve.describes, Distribution.describes,
    Distribution.Share.describes, Rule.describes, Clause.describes, Override.describes,
    TargetRef.describes, Prerequisite.describes, Flag.Kind.describes, Flag.State.describes,
    Segment.describes, Target.describes, Config.describes, Snapshot.describes, Operator.describes,
    fun _ _ => Operator.decode_eq_ok_iff⟩

/-- Two spellings of the clause that asks for the crew: its members in another order, with one that
no clause has and the operator as a key, and its fields one after the other. Without an operator it
is no clause. -/
example :
    Clause.record.decode (.object [("values", .array [.string "crew"]), ("deck", .null),
      ("op", .object [("segmentMatch", .null)])]) = .ok (.ofSegments ["crew"]) ∧
    Clause.record.decode (.array [.string "", .string "segmentMatch", .array [.string "crew"]]) =
      .ok (.ofSegments ["crew"]) ∧
    Clause.record.decode (.object [("values", .array [.string "crew"])]) =
      .error (.missingField "op") :=
  ⟨rfl, rfl, rfl⟩

end FeatureFlags
