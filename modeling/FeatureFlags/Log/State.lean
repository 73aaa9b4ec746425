import FeatureFlags.Config
import FeatureFlags.Log.Level

/-!
# The state of the log

A threshold level and the debug mode decide which records pass. Both start as the environment says
and may be changed while the program runs.

Mirrors the log's `LogConfig` with its `from_env`, and `is_level_enabled`, `set_level` and
`set_debug`.
-/
namespace FeatureFlags.Log

/-- What the environment says about the log. -/
structure Config where
  debug : Bool
  level : Level
  format : Format
  timestamps : Bool
  deriving DecidableEq, Repr

namespace Config

def default : Config := ⟨false, .info, .json, true⟩

instance : Inhabited Config := ⟨default⟩

/-- The defaults, as the environment changes them; debug mode lowers the level unless one is
given. -/
def ofEnvironment (env : Environment) : Config :=
  let debug := ((env "PENNANT_DEBUG").map saysYes).getD default.debug
  { debug
    level := ((env "PENNANT_LOG_LEVEL").bind Level.ofName?).getD
      (if debug then .debug else default.level)
    format := ((env "PENNANT_LOG_FORMAT").bind Format.ofName?).getD default.format
    timestamps := ((env "PENNANT_LOG_TIMESTAMPS").map saysYes).getD default.timestamps }

end Config

/-- Which records pass: those at the level or above it and, in debug mode, those of level
`debug`. -/
structure State where
  level : Level
  debug : Bool
  deriving DecidableEq, Repr, Inhabited

namespace State

/-- The state that a configuration starts with. -/
def ofConfig (c : Config) : State := ⟨c.level, c.debug⟩

/-- The state in which every record passes. -/
def all : State := ⟨.trace, true⟩

/-- Whether records of a level pass. -/
def enabled (s : State) : Level → Bool
  | .off => false
  | .debug => s.debug || s.level ≤ .debug
  | level => s.level ≤ level

def setLevel (s : State) (level : Level) : State := { s with level }

/-- Turns debug mode on or off; turning it on also lowers a level above `debug` to it. -/
def setDebug (s : State) (on : Bool) : State :=
  if on ∧ ¬ s.level ≤ .debug then ⟨.debug, true⟩ else { s with debug := on }

end State
end FeatureFlags.Log
