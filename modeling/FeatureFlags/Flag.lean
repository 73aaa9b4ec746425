import FeatureFlags.Segment

/-!
# Flags

A flag has variations, one of which a target is served. Overrides assign a variation to single
targets and segments, rules to those who match their clauses, and the default serve to everybody
else; a distribution shares targets out by weight. Prerequisites tie a flag to the variations of
other flags.

Mirrors the engine's `Flag` and what it is made of, with the builders.
-/
namespace FeatureFlags

/-- How the values of a flag's variations are to be read; numbers of every sort are of kind
`int`. -/
inductive Flag.Kind where
  | boolean
  | string
  | int
  | json
  deriving DecidableEq, Repr, Inhabited

def Flag.Kind.name : Flag.Kind → String
  | boolean => "boolean"
  | string => "string"
  | int => "int"
  | json => "json"

/-- Whether a flag serves by its targeting. -/
inductive Flag.State where
  | on
  | off
  deriving DecidableEq, Repr, Inhabited

/-- A value that a flag can serve. -/
structure Variation where
  identifier : String
  value : String
  name : Option String
  description : Option String
  deriving DecidableEq, Repr, Inhabited

/-- A variation and its share of a distribution. -/
structure Distribution.Share where
  variation : String
  weight : UInt32
  deriving DecidableEq, Repr, Inhabited

/-- Shares of the targets by an attribute; the weights are percentages. -/
structure Distribution where
  bucketBy : String
  variations : List Distribution.Share
  deriving DecidableEq, Repr, Inhabited

/-- What a rule or the default hands out; a distribution goes before a variation. -/
structure Serve where
  distribution : Option Distribution
  variation : Option String
  deriving DecidableEq, Repr, Inhabited

/-- What those who match all the clauses are served; rules of lower priority number go first. -/
structure Rule where
  ruleId : Option String
  priority : Int32
  clauses : List Clause
  serve : Serve
  deriving DecidableEq, Repr, Inhabited

/-- A variation for the targets named and for the members of segments. -/
structure Override where
  variation : String
  targets : Option (List TargetRef)
  segments : Option (List String)
  deriving DecidableEq, Repr, Inhabited

/-- The condition that another flag serves one of the variations. -/
structure Prerequisite where
  flag : String
  variations : List String
  deriving DecidableEq, Repr, Inhabited

/-- The definition of a feature flag. -/
structure Flag where
  identifier : String
  kind : Flag.Kind
  state : Flag.State
  variations : List Variation
  /-- Served when the flag is off or its prerequisites are not met. -/
  offVariation : String
  /-- Served when no override and no rule decides. -/
  defaultServe : Serve
  rules : Option (List Rule)
  overrides : Option (List Override)
  prerequisites : Option (List Prerequisite)
  deriving DecidableEq, Repr, Inhabited

/-- Whether the flag serves by its targeting. -/
def Flag.isOn (f : Flag) : Bool := f.state == .on

/-- The first variation with this identifier. -/
def Flag.variation? (f : Flag) (identifier : String) : Option Variation :=
  f.variations.find? fun v => v.identifier == identifier

/-! ## Building definitions -/

def Variation.new (identifier value : String) : Variation := ⟨identifier, value, none, none⟩

def Variation.withName (v : Variation) (name : String) : Variation := { v with name := some name }

def Distribution.new (bucketBy : String) : Distribution := ⟨bucketBy, []⟩

def Distribution.withWeight (d : Distribution) (variation : String) (weight : UInt32) :
    Distribution :=
  { d with variations := d.variations ++ [⟨variation, weight⟩] }

def Serve.nothing : Serve := ⟨none, none⟩

def Serve.ofVariation (identifier : String) : Serve := ⟨none, some identifier⟩

def Serve.ofDistribution (d : Distribution) : Serve := ⟨some d, none⟩

def Rule.new (priority : Int32) (serve : Serve) : Rule := ⟨none, priority, [], serve⟩

def Rule.withClause (r : Rule) (clause : Clause) : Rule :=
  { r with clauses := r.clauses ++ [clause] }

def Override.new (variation : String) : Override := ⟨variation, none, none⟩

def Override.withTarget (o : Override) (identifier : String) : Override :=
  { o with targets := some (o.targets.getD [] ++ [.new identifier]) }

def Override.withSegment (o : Override) (segment : String) : Override :=
  { o with segments := some (o.segments.getD [] ++ [segment]) }

namespace Flag

/-- A flag that is off and serves nothing when it is on. -/
def new (identifier : String) (kind : Kind) (variations : List Variation) (offVariation : String) :
    Flag where
  identifier := identifier
  kind := kind
  state := .off
  variations := variations
  offVariation := offVariation
  defaultServe := .nothing
  rules := none
  overrides := none
  prerequisites := none

/-- A flag with the variations `true` and `false`; off, it serves `false`. -/
def boolean (identifier : String) : Flag :=
  new identifier .boolean [.new "true" "true", .new "false" "false"] "false"

def withState (f : Flag) (state : State) : Flag := { f with state }

def withDefaultServe (f : Flag) (serve : Serve) : Flag := { f with defaultServe := serve }

def withRule (f : Flag) (rule : Rule) : Flag := { f with rules := some (f.rules.getD [] ++ [rule]) }

def withOverride (f : Flag) (o : Override) : Flag :=
  { f with overrides := some (f.overrides.getD [] ++ [o]) }

def withPrerequisite (f : Flag) (p : Prerequisite) : Flag :=
  { f with prerequisites := some (f.prerequisites.getD [] ++ [p]) }

end Flag
end FeatureFlags
