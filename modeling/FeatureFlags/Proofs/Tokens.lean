import FeatureFlags.Json.Reader
import FeatureFlags.Json.Writer
import FeatureFlags.Proofs.Lexemes

/-!
# The tokens of a written document

A document without blanks is cut at its brackets, commas and colons, and every piece between them is
read as what was written there. For an integer is written as a numeral and a string as its escaped
characters, and what comes after a numeral in a written document is a comma or a bracket, which
cannot go on with it.

Numbers that are not integers of 64 bits are left out: for them the text keeps only a binary64
number.

**Results.**
* `written_repr`, `value?_ofInt`: the numeral of an integer and its value.
* `stringText_escape`: an escaped string is written as the string.
* `Plain.cut`: a written document is cut into its tokens.
-/
namespace FeatureFlags

/-! ## Integers -/

namespace Integer

theorem digitsValue_toDigits (n : Nat) : digitsValue 0 (Nat.toDigits 10 n) = n := by
  have h : digitsValue 0 (Nat.toDigits 10 n) = Nat.ofDigitChars 10 (Nat.toDigits 10 n) 0 := by
    simp only [digitsValue, digitValue, Nat.ofDigitChars_eq_foldl, Nat.mul_comm 10]
  rw [h, Nat.ofDigitChars_ten_toDigits]

theorem isDigit_of_mem_toDigits {n : Nat} {c : Char} (h : c ∈ Nat.toDigits 10 n) :
    isDigit c = true :=
  Nat.isDigit_of_mem_toDigits (by decide) (by decide) h

theorem exists_toDigits_cons (n : Nat) :
    ∃ c ds, Nat.toDigits 10 n = c :: ds ∧ isDigit c = true := by
  obtain ⟨c, ds, hds⟩ := List.exists_cons_of_ne_nil (Nat.toDigits_ne_nil (n := n) (b := 10))
  exact ⟨c, ds, hds, isDigit_of_mem_toDigits (hds ▸ List.mem_cons_self)⟩

end Integer

namespace Json
open Integer

/-- Only zero is written with a zero in front. -/
theorem eq_zero_of_toDigits {n : Nat} {ds : List Char} (h : Nat.toDigits 10 n = '0' :: ds) :
    n = 0 := by
  induction n using Nat.strongRecOn generalizing ds with
  | ind n ih =>
    rw [Nat.toDigits_eq_if (by decide)] at h
    split at h
    · next hlt =>
      have hdigit : ∀ i : Fin 10, Nat.digitChar i = '0' → i.val = 0 := by decide
      exact hdigit ⟨n, hlt⟩ (List.cons.inj h).1
    · next hge =>
      obtain ⟨c, cs, hcs, -⟩ := exists_toDigits_cons (n / 10)
      rw [hcs] at h
      rw [(List.cons.inj h).1] at hcs
      have := ih (n / 10) (by omega) hcs
      omega

/-- The numeral that an integer is written as. -/
def Numeral.ofInt (i : Int) : Numeral := ⟨decide (i < 0), Nat.toDigits 10 i.natAbs, [], none⟩

theorem repr_toList (i : Int) :
    i.repr.toList = (if i < 0 then ['-'] else []) ++ Nat.toDigits 10 i.natAbs := by
  rw [Int.repr_eq_if]
  split
  · next hi =>
    have hnat : i.toNat = i.natAbs := by omega
    rw [Nat.repr_eq_ofList_toDigits, String.toList_ofList, hnat, if_neg (Int.not_lt.2 hi),
      List.nil_append]
  · next hi =>
    have hnat : (-i).toNat = i.natAbs := by omega
    rw [Nat.repr_eq_ofList_toDigits, String.toList_append, hnat, if_pos (Int.lt_of_not_ge hi)]
    simp

theorem wholeDigits_toDigits (n : Nat) : WholeDigits (Nat.toDigits 10 n) := by
  refine ⟨⟨Nat.toDigits_ne_nil, fun _ => isDigit_of_mem_toDigits⟩, fun rest h => ?_⟩
  rw [eq_zero_of_toDigits h] at h
  exact (List.cons.inj h).2.symm

theorem written_repr (i : Int) : (Numeral.ofInt i).Written i.repr.toList := by
  have h : (Numeral.ofInt i).Written _ := .mk (wholeDigits_toDigits i.natAbs) .absent .absent
  simpa [repr_toList] using h

theorem names_ofInt (i : Int) : (Numeral.ofInt i).Names i where
  fraction := rfl
  exponent := rfl
  value := by
    simp only [Numeral.ofInt, digitsValue_toDigits, decide_eq_true_eq]
    split <;> omega
  signed h := by
    have hi : i < 0 := of_decide_eq_true h
    omega

theorem value?_ofInt {i : Int} (h : Exact i) : (Numeral.ofInt i).value? = some (.integer i) :=
  value?_eq_integer_iff.2 ⟨names_ofInt i, h⟩

theorem takeToken_repr {i : Int} (hi : Exact i) {rest : List Char} (h : Numeral.Ends rest) :
    takeToken (i.repr.toList ++ rest) = some (.atom (.int i), rest) :=
  takeToken_of_written (.number (written_repr i) (value?_ofInt hi)) fun _ _ => h

/-! ## Strings -/

theorem stringText_escapeChar (c : Char) {cs text : List Char} (h : StringText cs text) :
    StringText (c :: cs) (escapeChar c ++ text) := by
  unfold escapeChar
  split
  case h_8 hquote hback _ _ _ _ _ =>
    split
    · next hlow =>
      have hhex : ∀ i : Fin 0x20, ['0', '0', hexChar (i / 16), hexChar (i % 16)].all isHex = true ∧
          hexValue ['0', '0', hexChar (i / 16), hexChar (i % 16)] = i := by decide
      obtain ⟨hall, hvalue⟩ := hhex ⟨c.toNat, hlow⟩
      have hunit := Piece.Written.unit hall
      rw [hvalue] at hunit
      have htext := StringText.unit hunit (by simp [isHighSurrogate]; omega)
        (by simp [isLowSurrogate]; omega) h
      rwa [Char.ofNat_toNat] at htext
    · next hlow => exact .char (.plain (Nat.le_of_not_lt hlow) hquote hback) h
  -- The characters with a letter of their own after the backslash.
  all_goals exact .char (.letter rfl) h

theorem stringText_escape (cs : List Char) : StringText cs (cs.flatMap escapeChar) := by
  induction cs with
  | nil => exact .nil
  | cons c cs ih => exact stringText_escapeChar c ih

theorem takeToken_writeString (s : String) (rest : List Char) :
    takeToken (writeString s ++ rest) = some (.string (some s), rest) := by
  have hwritten : Token.Written _ (writeString s) := .string (stringText_escape s.toList)
  rw [String.ofList_toList] at hwritten
  exact takeToken_of_written hwritten nofun

/-! ## The tokens of a document -/

mutual

/-- The tokens that a document is written as. -/
def toTokens : Json → List Token
  | string s => [.string (some s)]
  | array items => .openArray :: (itemTokens items ++ [.closeArray])
  | object members => .openObject :: (memberTokens members ++ [.closeObject])
  | json => [.atom json]

def itemTokens : List Json → List Token
  | [] => []
  | item :: rest => item.toTokens ++ moreItemTokens rest

def moreItemTokens : List Json → List Token
  | [] => []
  | item :: rest => .comma :: (item.toTokens ++ moreItemTokens rest)

def memberTokens : List (String × Json) → List Token
  | [] => []
  | (key, value) :: rest =>
    .string (some key) :: .colon :: (value.toTokens ++ moreMemberTokens rest)

def moreMemberTokens : List (String × Json) → List Token
  | [] => []
  | (key, value) :: rest =>
    .comma :: .string (some key) :: .colon :: (value.toTokens ++ moreMemberTokens rest)

end

/-- A document without a part that may be changed by writing and reading it: every number in it is
an integer of 64 bits. Arrays and objects are nested at most `n` deep. -/
inductive Plain : Nat → Json → Prop
  | null {n} : Plain n .null
  | bool {n} (b : Bool) : Plain n (.bool b)
  | int {n} {i : Int} (h : Exact i) : Plain n (.int i)
  | string {n} (s : String) : Plain n (.string s)
  | array {n} {items : List Json} (h : ∀ item ∈ items, Plain n item) : Plain (n + 1) (.array items)
  | object {n} {members : List (String × Json)} (h : ∀ m ∈ members, Plain n m.2) :
    Plain (n + 1) (.object members)

theorem writeItems_cons (item : Json) (rest : List Json) :
    writeItems (item :: rest) = item.write ++ rest.flatMap fun item => ',' :: item.write := by
  induction rest generalizing item with
  | nil => simp [writeItems]
  | cons next rest ih => simp [writeItems, ih next]

theorem writeMembers_cons (m : String × Json) (rest : List (String × Json)) :
    writeMembers (m :: rest) = writeString m.1 ++ ':' :: m.2.write ++
      rest.flatMap fun m => ',' :: (writeString m.1 ++ ':' :: m.2.write) := by
  induction rest generalizing m with
  | nil => simp [writeMembers]
  | cons next rest ih => simp [writeMembers, ih next]

/-- The written form of the document is cut into its tokens, whatever comes after it. -/
def Cut (json : Json) : Prop :=
  ∀ rest, Numeral.Ends rest → tokens (json.write ++ rest) = (tokens rest).map (json.toTokens ++ ·)

theorem ends_cons {c : Char} (hc : c ∈ [',', ']', '\x7d']) (rest : List Char) :
    Numeral.Ends (c :: rest) := by
  intro d hd
  cases hd
  simp only [List.mem_cons, List.not_mem_nil, or_false] at hc
  rcases hc with rfl | rfl | rfl <;> decide

theorem tokens_key (key : String) (cs : List Char) :
    tokens (writeString key ++ ':' :: cs) =
      (tokens cs).map (.string (some key) :: .colon :: ·) := by
  have hcolon : tokens (':' :: cs) = (tokens cs).map (.colon :: ·) := tokens_of_takeToken rfl
  rw [tokens_of_takeToken (takeToken_writeString key _), hcolon, Option.map_map]
  rfl

theorem tokens_comma (cs : List Char) : tokens (',' :: cs) = (tokens cs).map (.comma :: ·) :=
  tokens_of_takeToken rfl

/-- After items or members each led by a comma there is either a comma or what comes next. -/
theorem ends_flatMap {α : Type} (as : List α) (f : α → List Char) {rest : List Char}
    (h : Numeral.Ends rest) :
    Numeral.Ends (as.flatMap (',' :: f ·) ++ rest) := by
  cases as with
  | nil => exact h
  | cons => exact ends_cons (by decide) _

theorem tokens_moreItems {items : List Json} (h : ∀ item ∈ items, Cut item) {rest : List Char}
    (hrest : Numeral.Ends rest) :
    tokens (items.flatMap (',' :: ·.write) ++ rest) =
      (tokens rest).map (moreItemTokens items ++ ·) := by
  induction items with
  | nil => simp [moreItemTokens]
  | cons item items ih =>
    have hitem := h item List.mem_cons_self _ (ends_flatMap items write hrest)
    have hmore := ih fun i hi => h i (List.mem_cons_of_mem item hi)
    simp only [List.flatMap_cons, List.cons_append, List.append_assoc, tokens_comma, hitem, hmore,
      moreItemTokens, Option.map_map, Function.comp_def]

theorem tokens_moreMembers {members : List (String × Json)} (h : ∀ m ∈ members, Cut m.2)
    {rest : List Char} (hrest : Numeral.Ends rest) :
    tokens (members.flatMap (fun m => ',' :: (writeString m.1 ++ ':' :: m.2.write)) ++ rest) =
      (tokens rest).map (moreMemberTokens members ++ ·) := by
  induction members with
  | nil => simp [moreMemberTokens]
  | cons m members ih =>
    have hends := ends_flatMap members (fun m => writeString m.1 ++ ':' :: m.2.write) hrest
    have hvalue := h m List.mem_cons_self _ hends
    have hmore := ih fun n hn => h n (List.mem_cons_of_mem m hn)
    simp only [List.flatMap_cons, List.cons_append, List.append_assoc, tokens_comma, tokens_key,
      hvalue, hmore, moreMemberTokens, Option.map_map, Function.comp_def]

theorem cut_array {items : List Json} (h : ∀ item ∈ items, Cut item) : Cut (.array items) := by
  intro rest hrest
  have hopen : ∀ cs, tokens ('[' :: cs) = (tokens cs).map (.openArray :: ·) := fun _ =>
    tokens_of_takeToken rfl
  have hclose : tokens (']' :: rest) = (tokens rest).map (.closeArray :: ·) :=
    tokens_of_takeToken rfl
  have hend : Numeral.Ends (']' :: rest) := ends_cons (by decide) rest
  cases items with
  | nil => simp [write, writeItems, toTokens, itemTokens, hopen, hclose, Function.comp_def]
  | cons item items =>
    have hitem := h item List.mem_cons_self _ (ends_flatMap items write hend)
    have hmore := tokens_moreItems (fun i hi => h i (List.mem_cons_of_mem item hi)) hend
    simp only [write, writeItems_cons, toTokens, itemTokens, List.cons_append, List.append_assoc,
      List.nil_append, hopen, hitem, hmore, hclose, Option.map_map, Function.comp_def]

theorem cut_object {members : List (String × Json)} (h : ∀ m ∈ members, Cut m.2) :
    Cut (.object members) := by
  intro rest hrest
  have hopen : ∀ cs, tokens ('\x7b' :: cs) = (tokens cs).map (.openObject :: ·) := fun _ =>
    tokens_of_takeToken rfl
  have hclose : tokens ('\x7d' :: rest) = (tokens rest).map (.closeObject :: ·) :=
    tokens_of_takeToken rfl
  have hend : Numeral.Ends ('\x7d' :: rest) := ends_cons (by decide) rest
  cases members with
  | nil => simp [write, writeMembers, toTokens, memberTokens, hopen, hclose, Function.comp_def]
  | cons m members =>
    have hends := ends_flatMap members (fun m => writeString m.1 ++ ':' :: m.2.write) hend
    have hvalue := h m List.mem_cons_self _ hends
    have hmore := tokens_moreMembers (fun n hn => h n (List.mem_cons_of_mem m hn)) hend
    simp only [write, writeMembers_cons, toTokens, memberTokens, List.cons_append,
      List.append_assoc, List.nil_append, hopen, tokens_key, hvalue, hmore, hclose, Option.map_map,
        Function.comp_def]

/-- A plain document is cut into its tokens. -/
theorem Plain.cut {n : Nat} {json : Json} (h : Plain n json) : Cut json := by
  induction h with
  | null => exact fun _ _ => tokens_of_takeToken rfl
  | bool b => cases b <;> exact fun _ _ => tokens_of_takeToken rfl
  | int hi => exact fun _ hrest => tokens_of_takeToken (takeToken_repr hi hrest)
  | string s => exact fun rest _ => tokens_of_takeToken (takeToken_writeString s rest)
  | array _ ih => exact cut_array ih
  | object _ ih => exact cut_object ih

end Json
end FeatureFlags
