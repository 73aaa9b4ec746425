import FeatureFlags.Config
import FeatureFlags.Flag
import FeatureFlags.Json.Reader
import FeatureFlags.Json.Record
import FeatureFlags.Target

/-!
# Definitions as documents

The document form of flags, segments, targets and settings: the names of fields, their aliases and
defaults, and the names of the values of enumerations.

Mirrors the document attributes of the engine's definitions, which say how they are read and
written.

**Results.**
* `readDocument_eq_ok_iff`: what it takes for a text to be read.
-/
namespace FeatureFlags

open Json

/-! ## Enumerations -/

def Flag.Kind.names : Names Flag.Kind where
  known := [("boolean", .boolean), ("string", .string), ("int", .int), ("json", .json)]
  other := none

def Flag.Kind.codec : Codec Flag.Kind := names.codec name

def Flag.State.name : Flag.State → String
  | on => "on"
  | off => "off"

def Flag.State.names : Names Flag.State where
  known := [("on", .on), ("off", .off)]
  other := none

def Flag.State.codec : Codec Flag.State := names.codec name

def Operator.name : Operator → String
  | startsWith => "starts_with"
  | endsWith => "ends_with"
  | pattern => "match"
  | contains => "contains"
  | equal => "equal"
  | equalSensitive => "equal_sensitive"
  | oneOf => "in"
  | greater => "gt"
  | segmentMatch => "segmentMatch"
  | unknown => "Unknown"

/-- Every name that is not listed is an operator too, though one that never matches. -/
def Operator.names : Names Operator where
  known :=
    [.startsWith, .endsWith, .pattern, .contains, .equal, .equalSensitive, .oneOf, .greater,
      .segmentMatch].map fun op => (op.name, op)
  other := some .unknown

def Operator.codec : Codec Operator := names.codec name

/-- The operator with this name. -/
def Operator.ofName (name : String) : Operator := (names.known.lookup name).getD .unknown

/-! ## Records of a flag -/

def Variation.record : Record Variation where
  name := "Variation"
  types := [String, String, Option String, Option String]
  fields :=
    .cons (.required "identifier" .string) <| .cons (.required "value" .string) <|
    .cons (.optional "name" .string) <| .cons (.optional "description" .string) .nil
  toValues v := (v.identifier, v.value, v.name, v.description, ())
  ofValues := fun (identifier, value, name, description, ()) =>
    ⟨identifier, value, name, description⟩

def Distribution.Share.record : Record Distribution.Share where
  name := "WeightedVariation"
  types := [String, UInt32]
  fields := .cons (.required "variation" .string) <| .cons (.required "weight" .uint32) .nil
  toValues s := (s.variation, s.weight, ())
  ofValues := fun (variation, weight, ()) => ⟨variation, weight⟩

def Distribution.record : Record Distribution where
  name := "Distribution"
  types := [String, List Share]
  fields :=
    .cons (.required "bucketBy" .string) <|
      .cons (.required "variations" Share.record.codec.list) .nil
  toValues d := (d.bucketBy, d.variations, ())
  ofValues := fun (bucketBy, variations, ()) => ⟨bucketBy, variations⟩

def Serve.record : Record Serve where
  name := "Serve"
  types := [Option Distribution, Option String]
  fields :=
    .cons (.optional "distribution" Distribution.record.codec) <|
      .cons (.optional "variation" .string) .nil
  toValues s := (s.distribution, s.variation, ())
  ofValues := fun (distribution, variation, ()) => ⟨distribution, variation⟩

def Clause.record : Record Clause where
  name := "Clause"
  types := [String, Operator, List String]
  fields :=
    .cons (.defaulting "attribute" .string "") <| .cons (.required "op" Operator.codec) <|
    .cons (.defaulting "values" Codec.string.list []) .nil
  toValues c := (c.attr, c.operator, c.values, ())
  ofValues := fun (attr, operator, values, ()) => ⟨attr, operator, values⟩

def Rule.record : Record Rule where
  name := "ServingRule"
  types := [Option String, Int32, List Clause, Serve]
  fields :=
    .cons (.optional "ruleId" .string) <| .cons (.required "priority" .int32) <|
    .cons (.required "clauses" Clause.record.codec.list) <|
    .cons (.required "serve" Serve.record.codec) .nil
  toValues r := (r.ruleId, r.priority, r.clauses, r.serve, ())
  ofValues := fun (ruleId, priority, clauses, serve, ()) => ⟨ruleId, priority, clauses, serve⟩

def TargetRef.record : Record TargetRef where
  name := "TargetRef"
  types := [String, Option String]
  fields := .cons (.required "identifier" .string) <| .cons (.optional "name" .string) .nil
  toValues t := (t.identifier, t.name, ())
  ofValues := fun (identifier, name, ()) => ⟨identifier, name⟩

def Override.record : Record Override where
  name := "VariationMap"
  types := [String, Option (List TargetRef), Option (List String)]
  fields :=
    .cons (.required "variation" .string) <|
      .cons (.optional "targets" TargetRef.record.codec.list) <|
    .cons (.optional "targetSegments" Codec.string.list) .nil
  toValues o := (o.variation, o.targets, o.segments, ())
  ofValues := fun (variation, targets, segments, ()) => ⟨variation, targets, segments⟩

def Prerequisite.record : Record Prerequisite where
  name := "Prerequisite"
  types := [String, List String]
  fields :=
    .cons (.required "flag" .string ["feature"]) <|
      .cons (.required "variations" Codec.string.list) .nil
  toValues p := (p.flag, p.variations, ())
  ofValues := fun (flag, variations, ()) => ⟨flag, variations⟩

def Flag.record : Record Flag where
  name := "Flag"
  types :=
    [String, Kind, State, List Variation, String, Serve, Option (List Rule), Option (List Override),
      Option (List Prerequisite)]
  fields :=
    .cons (.required "identifier" .string ["feature"]) <|
    .cons (.required "kind" Kind.codec) <|
    .cons (.defaulting "state" State.codec .off) <|
    .cons (.required "variations" Variation.record.codec.list) <|
    .cons (.required "offVariation" .string) <|
    .cons (.defaulting "defaultServe" Serve.record.codec .nothing) <|
    .cons (.optional "rules" Rule.record.codec.list) <|
    .cons (.optional "variationToTargetMap" Override.record.codec.list) <|
    .cons (.optional "prerequisites" Prerequisite.record.codec.list) .nil
  toValues f :=
    (f.identifier, f.kind, f.state, f.variations, f.offVariation, f.defaultServe, f.rules,
      f.overrides, f.prerequisites, ())
  ofValues :=
    fun (identifier, kind, state, variations, off, serve, rules, overrides, prerequisites, ()) =>
    ⟨identifier, kind, state, variations, off, serve, rules, overrides, prerequisites⟩

/-! ## Segments, settings and targets -/

def Segment.record : Record Segment where
  name := "Segment"
  types :=
    [String, String, Option (List TargetRef), Option (List TargetRef), Option (List Clause)]
  fields :=
    .cons (.required "identifier" .string) <| .cons (.defaulting "name" .string "") <|
    .cons (.optional "excluded" TargetRef.record.codec.list) <|
    .cons (.optional "included" TargetRef.record.codec.list) <|
    .cons (.optional "rules" Clause.record.codec.list) .nil
  toValues s := (s.identifier, s.name, s.excluded, s.included, s.rules, ())
  ofValues := fun (identifier, name, excluded, included, rules, ()) =>
    ⟨identifier, name, excluded, included, rules⟩

def Config.record : Record Config where
  name := "EvaluatorConfig"
  types := [String, Bool]
  fields :=
    .cons (.defaulting "bucketFallbackAttribute" .string Config.default.bucketFallback) <|
    .cons (.defaulting "logAbsorbedErrors" .bool Config.default.logAbsorbedErrors) .nil
  toValues c := (c.bucketFallback, c.logAbsorbedErrors, ())
  ofValues := fun (bucketFallback, logAbsorbedErrors, ()) => ⟨bucketFallback, logAbsorbedErrors⟩

namespace AttributeValue

mutual

/-- Reads a document as the first of the variants that takes it: a truth value, an integer of 64
signed bits, a binary64 number, a text and a list, in this order. Why a variant does not take it is
forgotten, for lists with the fault of an item. -/
def decode (json : Json) : Except Fault AttributeValue :=
  Codec.firstOf "AttributeValue"
    [(Codec.bool.decode json).map .bool,
      (Codec.int64.decode json).map .int,
      (Codec.binary64.decode json).map .number,
      (Codec.string.decode json).map .string,
      match json with
      | .array items => (decodeItems items).map .list
      | json => .error (mismatch "a sequence" json)]

/-- Reads the items of a list from the left up to the first that no variant takes. -/
def decodeItems : List Json → Except Fault (List AttributeValue)
  | [] => .ok []
  | item :: rest => do
    let value ← decode item
    let values ← decodeItems rest
    return value :: values

end

theorem decode_int (i : Int) :
    decode (.int i) =
      if Int64.minValue.toInt ≤ i ∧ i ≤ Int64.maxValue.toInt then .ok (.int (.ofInt i))
      else .ok (.number (.ofInt i)) := by
  simp only [decode, Json.int, Codec.int64, Codec.decodeInt]
  split <;> rfl

theorem decodeItems_cons_eq_ok_iff {item : Json} {rest : List Json} {values : List AttributeValue} :
    decodeItems (item :: rest) = .ok values ↔
      ∃ v vs, decode item = .ok v ∧ decodeItems rest = .ok vs ∧ v :: vs = values := by
  rw [decodeItems]
  cases decode item with
  | error fault => exact iff_of_false nofun nofun
  | ok v => cases decodeItems rest <;> simp [bind, Except.bind, pure, Except.pure]

/-- A list is taken by no other variant, so nobody hears of what is wrong with its items. -/
theorem decode_array_eq_ok_iff {items : List Json} {v : AttributeValue} :
    decode (.array items) = .ok v ↔ ∃ vs, decodeItems items = .ok vs ∧ .list vs = v := by
  have hlast : decode (.array items) =
      Codec.firstOf "AttributeValue" [(decodeItems items).map .list] := rfl
  rw [hlast]
  cases decodeItems items <;> simp [Codec.firstOf, Except.map]

/-- The attribute value that a document is read as. -/
def ofJson? (json : Json) : Option AttributeValue := (decode json).toOption

mutual

/-- The document of an attribute value. -/
def toJson : AttributeValue → Json
  | bool b => .bool b
  | int i => Codec.int64.encode i
  | number x => Codec.binary64.encode x
  | string s => .string s
  | list items => .array (itemsJson items)

def itemsJson : List AttributeValue → List Json
  | [] => []
  | item :: rest => item.toJson :: itemsJson rest

end

def codec : Codec AttributeValue := ⟨decode, toJson⟩

end AttributeValue

/-- Reads the members of an object into a table; the last value of a repeated key stays. -/
def Table.decodeMembers (decode : Json → Except Fault α) (t : Table α) :
    List (String × Json) → Except Fault (Table α)
  | [] => .ok t
  | (key, json) :: rest => do
    let value ← decode json
    decodeMembers decode (t.insert key value) rest

/-- A table is an object with its keys. -/
def Table.codec (c : Codec α) : Codec (Table α) where
  decode
    | .object members => decodeMembers c.decode .empty members
    | json => .error (mismatch "a map" json)
  encode t := .object (t.entries.map fun e => (e.1, c.encode e.2))

def Target.record : Record Target where
  name := "Target"
  types := [String, String, Option Bool, Table AttributeValue]
  fields :=
    .cons (.required "identifier" .string) <| .cons (.defaulting "name" .string "") <|
    .cons (.optional "anonymous" .bool) <|
    .cons (.defaulting "attributes" (Table.codec AttributeValue.codec) .empty) .nil
  toValues t := (t.identifier, t.name, t.anonymous, t.attributes, ())
  ofValues := fun (identifier, name, anonymous, attributes, ()) =>
    ⟨identifier, name, anonymous, attributes⟩

/-! ## Texts -/

/-- Reads a value from a text. A fault is named only when every part of the text stands for a
value. -/
def readDocument (decode : Json → Except Fault α) (text : String) : Except Fault α :=
  match Json.ofText? text with
  | none => .error .malformed
  | some json =>
    match decode json with
    | .ok a => .ok a
    | .error fault => .error (if json.readable then fault else .malformed)

theorem readDocument_eq_ok_iff {decode : Json → Except Fault α} {text : String} {a : α} :
    readDocument decode text = .ok a ↔ ∃ json, Json.ofText? text = some json ∧
      decode json = .ok a := by
  unfold readDocument
  cases Json.ofText? text with
  | none => simp
  | some json =>
    simp only [Option.some.injEq, exists_eq_left']
    cases decode json <;> simp

end FeatureFlags
