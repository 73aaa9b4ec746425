import FeatureFlags.Definition.Codec
import FeatureFlags.Error

/-!
# Definitions, stores and sources

Definitions are flags and segments by the identifiers that they are asked for under. A store has
each of them under its own identifier. A source is what an evaluation looks definitions up in: it
may answer an identifier with a definition that carries another one, and it has an error for each
identifier that it does not answer.

`Store` mirrors the engine's `InMemoryQuery` and `Source` what its `Query` promises; a snapshot is
what `from_json` takes.

**Results.**
* `Definitions.Keyed.setFlag`, `Definitions.Keyed.removeFlag` and the like: what keeps definitions
  under their own identifiers.
* `lookupFlag_failing`: a lookup that fails finds nothing, whatever is stored.
-/
namespace FeatureFlags

/-- Flags and segments, each under the identifier that it is asked for under. -/
structure Definitions where
  flags : Table Flag
  segments : Table Segment

namespace Definitions

/-- Inserts or replaces a flag under its own identifier. -/
def setFlag (d : Definitions) (flag : Flag) : Definitions :=
  { d with flags := d.flags.insert flag.identifier flag }

/-- Inserts or replaces a segment under its own identifier. -/
def setSegment (d : Definitions) (segment : Segment) : Definitions :=
  { d with segments := d.segments.insert segment.identifier segment }

def removeFlag (d : Definitions) (identifier : String) : Definitions :=
  { d with flags := d.flags.erase identifier }

def removeSegment (d : Definitions) (identifier : String) : Definitions :=
  { d with segments := d.segments.erase identifier }

/-- The definitions that are not under any of the identifiers. -/
def without (d : Definitions) (identifiers : List String) : Definitions :=
  ⟨d.flags.without identifiers, d.segments.without identifiers⟩

def flagCount (d : Definitions) : Nat := d.flags.size

def segmentCount (d : Definitions) : Nat := d.segments.size

/-- Each definition is under its own identifier. -/
structure Keyed (d : Definitions) : Prop where
  flags : ∀ {id flag}, d.flags.get? id = some flag → flag.identifier = id
  segments : ∀ {id segment}, d.segments.get? id = some segment → segment.identifier = id

namespace Keyed

variable {d : Definitions}

theorem setFlag (h : d.Keyed) (flag : Flag) : (d.setFlag flag).Keyed where
  flags := by
    intro id f hf
    have := @h.flags id f
    grind [Definitions.setFlag, Table.get?_insert]
  segments := h.segments

theorem setSegment (h : d.Keyed) (segment : Segment) : (d.setSegment segment).Keyed where
  flags := h.flags
  segments := by
    intro id x hx
    have := @h.segments id x
    grind [Definitions.setSegment, Table.get?_insert]

theorem removeFlag (h : d.Keyed) (identifier : String) : (d.removeFlag identifier).Keyed where
  flags := by
    intro id f hf
    have := @h.flags id f
    grind [Definitions.removeFlag, Table.get?_erase]
  segments := h.segments

theorem removeSegment (h : d.Keyed) (identifier : String) : (d.removeSegment identifier).Keyed where
  flags := h.flags
  segments := by
    intro id x hx
    have := @h.segments id x
    grind [Definitions.removeSegment, Table.get?_erase]

end Keyed
end Definitions

/-! ## Stores -/

/-- Flags and segments, each under its own identifier. -/
structure Store extends Definitions where
  keyed : toDefinitions.Keyed

namespace Store

def empty : Store := ⟨⟨.empty, .empty⟩, ⟨by simp, by simp⟩⟩

instance : Inhabited Store := ⟨empty⟩

def setFlag (s : Store) (flag : Flag) : Store :=
  ⟨s.toDefinitions.setFlag flag, s.keyed.setFlag flag⟩

def setSegment (s : Store) (segment : Segment) : Store :=
  ⟨s.toDefinitions.setSegment segment, s.keyed.setSegment segment⟩

def removeFlag (s : Store) (identifier : String) : Store :=
  ⟨s.toDefinitions.removeFlag identifier, s.keyed.removeFlag identifier⟩

def removeSegment (s : Store) (identifier : String) : Store :=
  ⟨s.toDefinitions.removeSegment identifier, s.keyed.removeSegment identifier⟩

/-- Removes a flag and hands it out, if there is one under the identifier. -/
def takeFlag (s : Store) (identifier : String) : Option Flag × Store :=
  (s.flags.get? identifier, s.removeFlag identifier)

/-- Removes a segment and hands it out, if there is one under the identifier. -/
def takeSegment (s : Store) (identifier : String) : Option Segment × Store :=
  (s.segments.get? identifier, s.removeSegment identifier)

end Store

/-! ## Snapshots -/

/-- The document that a store is loaded from. -/
structure Snapshot where
  flags : List Flag
  segments : List Segment
  deriving DecidableEq, Repr

open Json in
def Snapshot.record : Record Snapshot where
  name := "Snapshot"
  types := [List Flag, List Segment]
  fields :=
    .cons (.defaulting "flags" Flag.record.codec.list []) <|
    .cons (.defaulting "segments" Segment.record.codec.list []) .nil
  toValues s := (s.flags, s.segments, ())
  ofValues := fun (flags, segments, ()) => ⟨flags, segments⟩

/-- The store with the flags and then the segments of a snapshot set in order. -/
def Store.ofSnapshot (s : Snapshot) : Store :=
  s.segments.foldl Store.setSegment (s.flags.foldl Store.setFlag .empty)

/-- The store that a document holds. -/
def Store.ofText (text : String) : Except EvaluationError Store :=
  match readDocument Snapshot.record.decode text with
  | .ok snapshot => .ok (.ofSnapshot snapshot)
  | .error fault => .error (.load fault)

/-! ## Sources -/

/-- What definitions are looked up in: definitions, and an error for every identifier without
one. -/
structure Source extends Definitions where
  flagFailure : String → EvaluationError
  segmentFailure : String → EvaluationError

namespace Source

def lookupFlag (s : Source) (identifier : String) : Except EvaluationError Flag :=
  match s.flags.get? identifier with
  | some flag => .ok flag
  | none => .error (s.flagFailure identifier)

def lookupSegment (s : Source) (identifier : String) : Except EvaluationError Segment :=
  match s.segments.get? identifier with
  | some segment => .ok segment
  | none => .error (s.segmentFailure identifier)

/-- The source whose lookups of some identifiers fail with a message. -/
def failing (s : Source) (identifiers : List String) (message : String) : Source where
  toDefinitions := s.without identifiers
  flagFailure id := if id ∈ identifiers then .query message else s.flagFailure id
  segmentFailure id := if id ∈ identifiers then .query message else s.segmentFailure id

end Source

/-- Definitions as a source: what is not among them is not found. -/
def Definitions.source (d : Definitions) : Source := ⟨d, .flagNotFound, .segmentNotFound⟩

def Store.getFlag (s : Store) (identifier : String) : Except EvaluationError Flag :=
  s.source.lookupFlag identifier

def Store.getSegment (s : Store) (identifier : String) : Except EvaluationError Segment :=
  s.source.lookupSegment identifier

namespace Source

section

variable {s : Source} {id : String}

theorem lookupFlag_eq_ok {f : Flag} : s.lookupFlag id = .ok f ↔ s.flags.get? id = some f := by
  unfold lookupFlag
  cases s.flags.get? id <;> simp

theorem lookupSegment_eq_ok {x : Segment} :
    s.lookupSegment id = .ok x ↔ s.segments.get? id = some x := by
  unfold lookupSegment
  cases s.segments.get? id <;> simp

theorem lookupFlag_eq_error {cause : EvaluationError} (h : s.lookupFlag id = .error cause) :
    s.flags.get? id = none := by
  unfold lookupFlag at h
  cases hf : s.flags.get? id with
  | none => rfl
  | some f => rw [hf] at h; cases h

end

theorem lookupFlag_failing (s : Source) (ids : List String) (message id : String) :
    (s.failing ids message).lookupFlag id =
      if id ∈ ids then .error (.query message) else s.lookupFlag id := by
  simp only [lookupFlag, failing, Definitions.without, Table.get?_without]
  by_cases h : id ∈ ids <;> simp [h]

theorem lookupSegment_failing (s : Source) (ids : List String) (message id : String) :
    (s.failing ids message).lookupSegment id =
      if id ∈ ids then .error (.query message) else s.lookupSegment id := by
  simp only [lookupSegment, failing, Definitions.without, Table.get?_without]
  by_cases h : id ∈ ids <;> simp [h]

end Source
end FeatureFlags
