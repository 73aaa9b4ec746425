import FeatureFlags.Text.LowerCase

/-!
# Log levels and formats

Names are read without regard to letter case.

Mirrors the log's `Level` and `Format`.
-/
namespace FeatureFlags.Log

/-- The severity of a record; `off` as a threshold lets nothing pass. -/
inductive Level where
  | trace
  | debug
  | info
  | warn
  | error
  | off
  deriving DecidableEq, Repr, Inhabited

namespace Level

/-- The place of a level in the order of severity. -/
def rank : Level → Nat
  | trace => 0
  | debug => 1
  | info => 2
  | warn => 3
  | error => 4
  | off => 5

instance : LE Level := ⟨fun a b => a.rank ≤ b.rank⟩

instance (a b : Level) : Decidable (a ≤ b) := inferInstanceAs (Decidable (a.rank ≤ b.rank))

def name : Level → String
  | trace => "TRACE"
  | debug => "DEBUG"
  | info => "INFO"
  | warn => "WARN"
  | error => "ERROR"
  | off => "OFF"

/-- Every level, the least severe first. -/
def all : List Level := [trace, debug, info, warn, error, off]

def ofName? (text : String) : Option Level :=
  [("trace", trace), ("debug", debug), ("info", info), ("warn", warn), ("warning", warn),
    ("error", error), ("off", off), ("none", off)].lookup (Text.lowerCase text)

end Level

/-- Where records go and in which form. -/
inductive Format where
  /-- One JSON object a line. -/
  | json
  /-- One line for a reader's eye. -/
  | compact
  /-- Handed on to the logger of the host. -/
  | facade
  deriving DecidableEq, Repr, Inhabited

namespace Format

def name : Format → String
  | json => "Json"
  | compact => "Compact"
  | facade => "Facade"

def ofName? (text : String) : Option Format :=
  [("json", json), ("compact", compact), ("facade", facade), ("log", facade)].lookup
    (Text.lowerCase text)

end Format
end FeatureFlags.Log
