import FeatureFlags.Proofs.Operators
import FeatureFlags.Proofs.Shares
import FeatureFlags.Proofs.Visibility

/-!
# Hash inputs of different flags

What is hashed for a target is one text: the identifier of the flag, the name of an attribute and
its text, with a colon between them. Each of the three may have colons of its own, so the text does
not tell where the identifier ends. Two flags can hash the same text just if one identifier begins
with the other one and a colon: what is left of the longer identifier then stands where the shorter
flag has the beginning of its attribute.

**Results.**
* `append_colon_eq_iff`: the ways to cut one text at a colon.
* `hashBytes_eq_iff`: when two flags hash the same bytes.
* `serve_continued`: how a flag repeats the population of the one that it continues.
* `hash_inputs_apart_iff`: which flags never hash the same bytes.
* `lamps_coincide`: two flags that do.
-/
namespace FeatureFlags

/-! ## Cutting a text at a colon -/

section

variable {α : Type} {c : α} {as bs cs ds : List α}

/-- A cut that does not come before another one is the same, or the separator of the other one lies
before it. -/
theorem exists_later_cut_iff : (∃ ms, cs = as ++ ms ∧ c :: bs = ms ++ c :: ds) ↔
    as = cs ∧ bs = ds ∨ ∃ ms, cs = as ++ c :: ms ∧ bs = ms ++ c :: ds := by
  constructor
  · rintro ⟨ms, rfl, hbs⟩
    cases ms with
    | nil => exact .inl ⟨(List.append_nil as).symm, (List.cons.inj hbs).2⟩
    | cons m ms =>
      obtain ⟨rfl, hrest⟩ := List.cons.inj hbs
      exact .inr ⟨ms, rfl, hrest⟩
  · rintro (⟨rfl, rfl⟩ | ⟨ms, rfl, rfl⟩)
    · exact ⟨[], (List.append_nil as).symm, rfl⟩
    · exact ⟨c :: ms, rfl, rfl⟩

/-- Two cuts of one list at the same separator are the same cut, or one of them comes first. -/
theorem append_cons_eq_append_cons_iff : as ++ c :: bs = cs ++ c :: ds ↔
    as = cs ∧ bs = ds ∨
      (∃ ms, cs = as ++ c :: ms ∧ bs = ms ++ c :: ds) ∨ ∃ ms, as = cs ++ c :: ms ∧
        ds = ms ++ c :: bs := by
  have hsame : cs = as ∧ ds = bs ↔ as = cs ∧ bs = ds := and_congr eq_comm eq_comm
  rw [List.append_eq_append_iff, exists_later_cut_iff, exists_later_cut_iff, hsame, or_or_or_comm,
    or_self]

end

theorem append_colon_eq_iff {a b c d : String} :
    a ++ ":" ++ b = c ++ ":" ++ d ↔ a = c ∧ b = d ∨
      (∃ rest, c = a ++ ":" ++ rest ∧ b = rest ++ ":" ++ d) ∨
        ∃ rest, a = c ++ ":" ++ rest ∧ d = rest ++ ":" ++ b := by
  have hcolon : ":".toList = [':'] := rfl
  have hsurj : Function.Surjective String.toList := fun cs =>
    ⟨String.ofList cs, String.toList_ofList⟩
  simp only [← String.toList_inj, String.toList_append, hcolon, List.append_assoc,
    List.singleton_append]
  rw [append_cons_eq_append_cons_iff, hsurj.exists, hsurj.exists]

/-! ## What flags hash -/

/-- The bytes whose digest decides about a bucket. -/
def hashBytes (flag attr value : String) : List UInt8 := utf8 (hashInput flag attr value)

/-- The longer identifier begins with the other one and a colon. -/
def Continues (longer flag : String) : Prop := ∃ rest, longer = flag ++ ":" ++ rest

/-- Neither identifier begins with the other one and a colon. -/
def Apart (flag flag' : String) : Prop := ¬ Continues flag' flag ∧ ¬ Continues flag flag'

/-- The second flag continues the first one, and what is left of its identifier, followed by its
attribute and text, reads like attribute and text of the first. -/
def RunsInto (flag attr value flag' attr' value' : String) : Prop :=
  ∃ rest, flag' = flag ++ ":" ++ rest ∧ attr ++ ":" ++ value = hashInput rest attr' value'

section

variable {flag attr value flag' attr' value' : String}

theorem continues_iff : Continues flag' flag ↔ (flag ++ ":").toList <+: flag'.toList := by
  constructor
  · rintro ⟨rest, rfl⟩
    rw [String.toList_append (s := flag ++ ":")]
    exact List.prefix_append _ _
  · rintro ⟨cs, hcs⟩
    refine ⟨String.ofList cs, ?_⟩
    rw [← String.toList_inj, String.toList_append, String.toList_ofList, hcs]

instance : DecidableRel Continues := fun _ _ => decidable_of_iff _ continues_iff.symm

instance : DecidableRel Apart := fun flag flag' =>
  inferInstanceAs (Decidable (¬ Continues flag' flag ∧ ¬ Continues flag flag'))

theorem not_continues_of_notMem (h : ':' ∉ flag'.toList) : ¬ Continues flag' flag := by
  rintro ⟨rest, rfl⟩
  simp at h

/-- Identifiers without colons are apart. -/
theorem apart_of_notMem (h : ':' ∉ flag.toList) (h' : ':' ∉ flag'.toList) : Apart flag flag' :=
  ⟨not_continues_of_notMem h', not_continues_of_notMem h⟩

theorem RunsInto.continues (h : RunsInto flag attr value flag' attr' value') :
    Continues flag' flag := by
  obtain ⟨rest, hflag, -⟩ := h
  exact ⟨rest, hflag⟩

theorem hashInput_eq (flag attr value : String) :
    hashInput flag attr value = flag ++ ":" ++ (attr ++ ":" ++ value) := by
  simp only [hashInput, String.append_assoc]

/-- Flags that differ hash the same bytes just if one of them runs into the other. -/
theorem hashBytes_eq_iff (hne : flag ≠ flag') :
    hashBytes flag attr value = hashBytes flag' attr' value' ↔
      RunsInto flag attr value flag' attr' value' ∨
        RunsInto flag' attr' value' flag attr value := by
  rw [hashBytes, hashBytes, utf8_inj, hashInput_eq, hashInput_eq, append_colon_eq_iff]
  simp only [hne, false_and, false_or, RunsInto, hashInput_eq]

theorem hashBytes_ne_of_apart (hne : flag ≠ flag') (h : Apart flag flag') :
    hashBytes flag attr value ≠ hashBytes flag' attr' value' := by
  rw [Ne, hashBytes_eq_iff hne]
  rintro (hruns | hruns)
  · exact h.1 hruns.continues
  · exact h.2 hruns.continues

/-- What a flag hashes that continues another one, the other flag can hash, too. -/
theorem hashBytes_continued (flag rest attr value : String) :
    hashBytes (flag ++ ":" ++ rest) attr value = hashBytes flag (rest ++ ":" ++ attr) value := by
  simp only [hashBytes, hashInput, String.append_assoc]

theorem apart_of_hashBytes_ne
    (h : ∀ attr value attr' value', hashBytes flag attr value ≠ hashBytes flag' attr' value') :
    Apart flag flag' := by
  constructor
  · rintro ⟨rest, rfl⟩
    exact h _ _ _ _ (hashBytes_continued flag rest "" "").symm
  · rintro ⟨rest, rfl⟩
    exact h _ _ _ _ (hashBytes_continued flag' rest "" "")

end

/-! ## What distributions hash -/

namespace Target

/-- No field of a target has a name with a colon. -/
theorem not_hidden_of_colon {attr : String} (h : ':' ∈ attr.toList) : ¬ Hidden attr := by
  rintro ⟨word, hword, hsame⟩
  have hplain : ∀ word ∈ ["identifier", "name", "anonymous"],
    ':' ∉ word.toList.map Char.toLower := by decide
  refine hplain word hword ?_
  rw [Text.equalIgnoringAsciiCase, beq_iff_eq] at hsame
  rw [← hsame]
  exact List.mem_map_of_mem (f := Char.toLower) h

theorem attributeText?_identifier (t : Target) :
    t.attributeText? "identifier" = some t.identifier := by
  have hfield : builtIn? "identifier" = some .identifier := by decide
  rw [attributeText?, attribute?, hfield]
  rfl

theorem attributeText?_withAttribute_self {t : Target} {attr text : String} (h : ¬ Hidden attr) :
    (t.withAttribute attr (.string text)).attributeText? attr = some text := by
  rw [attributeText?, attribute?_custom (builtIn?_eq_none.2 h), withAttribute, Table.get?_insert,
    if_pos rfl]
  rfl

end Target

namespace Distribution

/-- The bytes whose digest decides what a target is served: none when the target has neither
attribute. -/
def hashed? (d : Distribution) (flag : String) (target : Target) (fallback : String) :
    Option (List UInt8) :=
  (d.key? target fallback).map fun (attr, value) => hashBytes flag attr value

variable {d d' : Distribution} {flag flag' rest value fallback fallback' : String}
  {target target' : Target}
  {bytes : List UInt8}

theorem hashed?_eq_some (h : target.attributeText? d.bucketBy = some value) :
    d.hashed? flag target fallback = some (hashBytes flag d.bucketBy value) := by
  rw [hashed?, key?, h]
  rfl

theorem exists_of_hashed? (h : bytes ∈ d.hashed? flag target fallback) :
    ∃ attr value, bytes = hashBytes flag attr value := by
  obtain ⟨key, -, hkey⟩ := Option.map_eq_some_iff.1 h
  exact ⟨key.1, key.2, hkey.symm⟩

/-- The hashed bytes are all that the walk depends on, the shares apart. -/
theorem serve_eq_hashed (d : Distribution) (flag : String) (target : Target) (fallback : String) :
    d.serve flag target fallback = (d.hashed? flag target fallback).bind fun bytes =>
      (pickShare ((Sha256.digest bytes).a.toNat % bucketCount) 0 d.variations).map
        (·.variation) := by
  rw [serve, hashed?]
  cases d.key? target fallback <;> rfl

theorem hashed?_continued (hby : d.bucketBy = rest ++ ":" ++ d'.bucketBy)
    (hvalue : target.attributeText? d.bucketBy = some value)
    (hvalue' : target'.attributeText? d'.bucketBy = some value) :
    d'.hashed? (flag ++ ":" ++ rest) target' fallback' = d.hashed? flag target fallback := by
  rw [hashed?_eq_some hvalue, hashed?_eq_some hvalue', hby, hashBytes_continued]

/-- A flag that continues another one repeats its population, share by share, when the other flag is
bucketed on the same attribute with what is left of the identifier in front of its name. -/
theorem serve_continued (hshares : d'.variations = d.variations)
    (hby : d.bucketBy = rest ++ ":" ++ d'.bucketBy)
    (hvalue : target.attributeText? d.bucketBy = some value)
    (hvalue' : target'.attributeText? d'.bucketBy = some value) :
    d'.serve (flag ++ ":" ++ rest) target' fallback' = d.serve flag target fallback := by
  rw [serve_eq_hashed, serve_eq_hashed, hashed?_continued hby hvalue hvalue', hshares]

theorem notMem_hashed?_of_apart (hne : flag ≠ flag') (h : Apart flag flag')
    (hbytes : bytes ∈ d.hashed? flag target fallback) :
    bytes ∉ d'.hashed? flag' target' fallback' := by
  intro hbytes'
  obtain ⟨attr, value, rfl⟩ := exists_of_hashed? hbytes
  obtain ⟨attr', value', hsame⟩ := exists_of_hashed? hbytes'
  exact hashBytes_ne_of_apart hne h hsame

/-- For one and the same target, a flag and one that continues it may hash the same bytes. -/
theorem exists_hashed?_of_continues (h : Continues flag' flag) :
    ∃ (d d' : Distribution) (target : Target) (bytes : List UInt8),
      bytes ∈ d.hashed? flag target "identifier" ∧
        bytes ∈ d'.hashed? flag' target "identifier" := by
  obtain ⟨rest, rfl⟩ := h
  let longer := Distribution.new "identifier"
  let shorter := Distribution.new (rest ++ ":" ++ "identifier")
  let target := (Target.new "").withAttribute shorter.bucketBy (.string "")
  have hcolon : ':' ∈ shorter.bucketBy.toList := by simp [shorter, Distribution.new]
  have hvalue : target.attributeText? shorter.bucketBy = some "" :=
    Target.attributeText?_withAttribute_self (Target.not_hidden_of_colon hcolon)
  have hvalue' : target.attributeText? longer.bucketBy = some "" := target.attributeText?_identifier
  have hbytes : shorter.hashed? flag target "identifier" =
    some (hashBytes flag shorter.bucketBy "") :=
    hashed?_eq_some hvalue
  exact ⟨shorter, longer, target, _, hbytes, (hashed?_continued rfl hvalue hvalue').trans hbytes⟩

theorem apart_of_notMem_hashed?
    (h : ∀ (d d' : Distribution) (target target' : Target) (fallback fallback' : String),
      ∀ bytes ∈ d.hashed? flag target fallback, bytes ∉ d'.hashed? flag' target' fallback') :
    Apart flag flag' := by
  constructor
  · intro hcontinues
    obtain ⟨d, d', target, bytes, hbytes, hbytes'⟩ := exists_hashed?_of_continues hcontinues
    exact h d d' target target _ _ bytes hbytes hbytes'
  · intro hcontinues
    obtain ⟨d, d', target, bytes, hbytes, hbytes'⟩ := exists_hashed?_of_continues hcontinues
    exact h d' d target target _ _ bytes hbytes' hbytes

end Distribution

/-- **Hash inputs of different flags.** Two flags hash the same bytes just if one of them, with its
attribute and text, runs into the other one. Whatever they hash, it is never the same exactly if
their identifiers are apart, as identifiers without colons are. That is also what it takes for no
two distributions of theirs to hash the same bytes for any targets, be it for the attribute that
they ask for or for a fallback. -/
theorem hash_inputs_apart_iff (flag flag' : String) (hne : flag ≠ flag') :
    (∀ attr value attr' value', hashBytes flag attr value = hashBytes flag' attr' value' ↔
      RunsInto flag attr value flag' attr' value' ∨ RunsInto flag' attr' value' flag attr value) ∧
    ((∀ attr value attr' value', hashBytes flag attr value ≠ hashBytes flag' attr' value') ↔
      Apart flag flag') ∧
    ((∀ (d d' : Distribution) (target target' : Target) (fallback fallback' : String),
      ∀ bytes ∈ d.hashed? flag target fallback, bytes ∉ d'.hashed? flag' target' fallback') ↔
        Apart flag flag') ∧
    (':' ∉ flag.toList → ':' ∉ flag'.toList → Apart flag flag') := by
  refine ⟨fun _ _ _ _ => hashBytes_eq_iff hne, ⟨apart_of_hashBytes_ne, fun hapart _ _ _ _ => ?_⟩,
    ⟨Distribution.apart_of_notMem_hashed?, fun hapart _ _ _ _ _ _ _ hbytes => ?_⟩, apart_of_notMem⟩
  · exact hashBytes_ne_of_apart hne hapart
  · exact Distribution.notMem_hashed?_of_apart hne hapart hbytes

/-- One of the flags goes by the fallback, the other one by the attribute that it asks for. -/
theorem tides_apart :
    "tide:low" ≠ "tide:high" ∧ Apart "tide:low" "tide:high" ∧
      hashBytes "tide:low" "identifier" "ann" ∈
        (Distribution.new "plan").hashed? "tide:low" (.new "ann") "identifier" ∧
      hashBytes "tide:low" "identifier" "ann" ∉
        (Distribution.new "name").hashed? "tide:high" (.new "ann") "identifier" := by
  have hne : "tide:low" ≠ "tide:high" := by decide
  have hapart : Apart "tide:low" "tide:high" := by decide
  have hlacks : (Target.new "ann").attributeText? "plan" = none := by decide
  have hbytes : hashBytes "tide:low" "identifier" "ann" ∈
      (Distribution.new "plan").hashed? "tide:low" (.new "ann") "identifier" := by
    rw [Distribution.hashed?, Distribution.key?,
      show (Distribution.new "plan").bucketBy = "plan" from rfl, hlacks]
    rfl
  obtain ⟨-, -, hdistributions, -⟩ := hash_inputs_apart_iff "tide:low" "tide:high" hne
  exact ⟨hne, hapart, hbytes, hdistributions.2 hapart _ _ _ _ _ _ _ hbytes⟩

/-- Both flags are bucketed on the identifiers of their targets. -/
theorem lamps_coincide :
    "lamp" ≠ "lamp:identifier" ∧
      hashBytes "lamp" "identifier" "identifier:user-0" =
        hashBytes "lamp:identifier" "identifier" "user-0" := by
  decide +kernel

end FeatureFlags
