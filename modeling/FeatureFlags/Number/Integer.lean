/-!
# Reading 64-bit integers

An integer is an optional sign and at least one ASCII digit, with a value from -2^63 to 2^63 - 1.
Characters are read from the left and the first one that spoils the text names the fault.

**Results.**
* `readDigits_eq_ok`: what a run of digits reads as, when its value is within the limit.
-/
namespace FeatureFlags.Integer

/-- Why a text is not a 64-bit integer. -/
inductive Fault where
  | empty
  | invalidDigit
  | tooLarge
  | tooSmall
  deriving DecidableEq, Repr

def Fault.message : Fault → String
  | .empty => "cannot parse integer from empty string"
  | .invalidDigit => "invalid digit found in string"
  | .tooLarge => "number too large to fit in target type"
  | .tooSmall => "number too small to fit in target type"

def isDigit (c : Char) : Bool := '0' ≤ c && c ≤ '9'

def digitValue (c : Char) : Nat := c.toNat - '0'.toNat

/-- The value of a run of digits, on top of the value read so far. -/
def digitsValue (value : Nat) (cs : List Char) : Nat :=
  cs.foldl (fun n c => n * 10 + digitValue c) value

/-- Reads digits up to the end of the text while the value stays within the limit. -/
def readDigits (limit : Nat) (beyond : Fault) (value : Nat) : List Char → Except Fault Nat
  | [] => .ok value
  | c :: cs =>
    if isDigit c then
      let next := value * 10 + digitValue c
      if next ≤ limit then readDigits limit beyond next cs else .error beyond
    else .error .invalidDigit

/-- Reads an unsigned run of at least one digit. -/
def readRun (limit : Nat) (beyond : Fault) : List Char → Except Fault Nat
  | [] => .error .invalidDigit
  | cs => readDigits limit beyond 0 cs

/-- Reads a 64-bit integer from the whole text. -/
def read (text : String) : Except Fault Int64 :=
  match text.toList with
  | [] => .error .empty
  | '-' :: cs => (readRun (1 <<< 63) .tooSmall cs).map fun n => Int64.ofInt (-n)
  | '+' :: cs => (readRun (1 <<< 63 - 1) .tooLarge cs).map fun n => Int64.ofInt n
  | cs => (readRun (1 <<< 63 - 1) .tooLarge cs).map fun n => Int64.ofInt n

theorem le_digitsValue (value : Nat) (cs : List Char) : value ≤ digitsValue value cs := by
  induction cs generalizing value with
  | nil => exact Nat.le_refl _
  | cons c cs ih => exact Nat.le_trans (by omega) (ih (value * 10 + digitValue c))

theorem readDigits_eq_ok {limit : Nat} {beyond : Fault} {value n : Nat} {cs : List Char}
    (hv : value ≤ limit) :
    readDigits limit beyond value cs = .ok n ↔
      cs.all isDigit = true ∧ digitsValue value cs = n ∧ n ≤ limit := by
  induction cs generalizing value with
  | nil => simp [readDigits, digitsValue]; grind
  | cons c cs ih =>
    have hle := le_digitsValue (value * 10 + digitValue c) cs
    have hcons : digitsValue value (c :: cs) = digitsValue (value * 10 + digitValue c) cs := rfl
    rw [readDigits]
    split
    · next hc =>
      dsimp only
      split
      · next hl => simp [ih hl, hc, hcons]
      · next hl => simp only [List.all_cons, hc, hcons]; grind
    · next hc => simp [hc]

end FeatureFlags.Integer
