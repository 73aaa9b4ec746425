import FeatureFlags.Flag
import FeatureFlags.Sha256
import FeatureFlags.Target

/-!
# Buckets

A distribution shares targets out over a hundred buckets. The bucket of a target is a digest of the
flag's identifier, an attribute's name and its text, so it is the same wherever it is computed. Each
variation owns as many buckets as its weight, in order, and the last one all that are left.

Mirrors the engine's `bucket_of` and `bucket`.

**Results.**
* `bucketOf_lt`: a bucket is a number below a hundred.
-/
namespace FeatureFlags

/-- The number of buckets. -/
def bucketCount : Nat := 100

/-- The text whose digest decides about a bucket. -/
def hashInput (flag attr value : String) : String := flag ++ ":" ++ attr ++ ":" ++ value

/-- The bucket of an attribute's value for a flag. -/
def bucketOf (flag attr value : String) : Nat :=
  (Sha256.digest (hashInput flag attr value).toUTF8.toList).a.toNat % bucketCount

theorem bucketOf_lt (flag attr value : String) : bucketOf flag attr value < bucketCount :=
  Nat.mod_lt _ (by decide)

/-- Adds weights without leaving 32 bits. -/
def addWeight (total : Nat) (weight : UInt32) : Nat := min (total + weight.toNat) (UInt32.size - 1)

/-- The first share whose running total exceeds the bucket, and the last share if none does. -/
def pickShare (bucket total : Nat) : List Distribution.Share → Option Distribution.Share
  | [] => none
  | share :: rest =>
    if bucket < addWeight total share.weight then some share
    else (pickShare bucket (addWeight total share.weight) rest).or (some share)

/-- The attribute that a target is bucketed on, with its text: that of the distribution, or
`fallback` when the target lacks it. -/
def Distribution.key? (d : Distribution) (target : Target) (fallback : String) :
    Option (String × String) :=
  match target.attributeText? d.bucketBy with
  | some value => some (d.bucketBy, value)
  | none => (target.attributeText? fallback).map fun value => (fallback, value)

/-- The variation of a flag that a distribution gives a target: none when there is no share, or the
target has neither attribute. -/
def Distribution.serve (d : Distribution) (flag : String) (target : Target) (fallback : String) :
    Option String :=
  match d.key? target fallback with
  | none => none
  | some (attr, value) => (pickShare (bucketOf flag attr value) 0 d.variations).map (·.variation)

end FeatureFlags
