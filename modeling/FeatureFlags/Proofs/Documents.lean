import FeatureFlags.Proofs.Reading

/-!
# The documents that texts hold

A text holds a document when the tokens of the document are written in it, blanks aside, and the
document is not nested too deep. Just these texts are read as documents without an unreadable part.
So what a text holds can be said without the machine that reads it, and a reader of values is a
relation between what is written and a value.

The machine is followed through the arrays and objects that are open: at every point the document
that it will return is made of what they hold, of the value that is complete and of the tokens still
to come.

**Results.**
* `DistinctKeys.lastWins_eq`: an object without repeated keys keeps all its members.
* `readIn_of_readable`: the machine on the tokens of a readable document.
* `toTokens_of_expectValue`: what the machine returns has the tokens that it was given.
* `ofText?_eq_some_iff`: the documents that texts are read as.
* `Holds.unique`: a text holds one document at most.
* `Plain.holds`, `ofText?_toText`: the text of a plain document holds it, so a plain document reads
  back.
-/
namespace FeatureFlags.Json

/-! ## Readable documents -/

theorem depth_lt_of_item {item : Json} {items : List Json} (h : item ∈ items) :
    item.depth < (array items).depth :=
  Nat.lt_succ_of_le (depthOfItems_le.1 (Nat.le_refl _) item h)

theorem depth_lt_of_member {m : String × Json} {members : List (String × Json)} (h : m ∈ members) :
    m.2.depth < (object members).depth :=
  Nat.lt_succ_of_le (depthOfMembers_le.1 (Nat.le_refl _) m h)

/-- What holds of an array or object whenever it holds of its parts, and of all that has no parts,
holds of every document. -/
theorem byParts {P : Json → Prop}
    (leaf : ∀ json, (∀ items, json ≠ array items) → (∀ members, json ≠ object members) → P json)
    (array : ∀ items, (∀ item ∈ items, P item) → P (array items))
    (object : ∀ members, (∀ m ∈ members, P m.2) → P (object members)) (json : Json) : P json :=
  match json with
  | .array items => array items fun item _ => byParts leaf array object item
  | .object members => object members fun m _ => byParts leaf array object m.2
  | .null | .bool _ | .number _ | .string _ | .unreadable =>
    leaf _ (fun _ => nofun) (fun _ => nofun)
termination_by json.depth
decreasing_by
  · exact depth_lt_of_item ‹_›
  · exact depth_lt_of_member ‹_›

/-- The document is in the other one, or is it: an item of an array, a value of an object, or a part
of these. -/
inductive HasPart : Json → Json → Prop where
  | self (json : Json) : HasPart json json
  | item {items : List Json} {item part : Json} (hitem : item ∈ items) (h : HasPart item part) :
    HasPart (.array items) part
  | member {members : List (String × Json)} {m : String × Json} {part : Json} (hm : m ∈ members)
    (h : HasPart m.2 part) : HasPart (.object members) part

theorem readableItems_iff {items : List Json} :
    readableItems items = true ↔ ∀ item ∈ items, item.readable = true := by
  induction items with
  | nil => simp [readableItems]
  | cons item rest ih => rw [readableItems, Bool.and_eq_true, ih, List.forall_mem_cons]

theorem readableMembers_iff {members : List (String × Json)} :
    readableMembers members = true ↔ ∀ m ∈ members, m.2.readable = true := by
  induction members with
  | nil => simp [readableMembers]
  | cons m rest ih => rw [readableMembers, Bool.and_eq_true, ih, List.forall_mem_cons]

/-- With room for the document, the machine reads its tokens as the document. -/
theorem readIn_of_readable {json : Json} {open' : List Frame} (h : json.readable = true)
    (hdepth : json.depth + open'.length ≤ maxDepth) : ReadIn open' json := by
  induction json using byParts generalizing open' with
  | leaf json harray hobject =>
    cases json with
    | array items => exact absurd rfl (harray items)
    | object members => exact absurd rfl (hobject members)
    | unreadable => cases h
    | _ => exact fun _ => by rfl
  | array items ih =>
    refine readIn_array (by rw [depth] at hdepth; omega) fun item hitem before =>
      ih item hitem ?_ ?_
    · exact readableItems_iff.1 h item hitem
    · have hlt := depth_lt_of_item hitem
      rw [List.length_cons]
      omega
  | object members ih =>
    refine readIn_object (by rw [depth] at hdepth; omega) fun m hm before key => ih m hm ?_ ?_
    · exact readableMembers_iff.1 h m hm
    · have hlt := depth_lt_of_member hm
      rw [List.length_cons]
      omega

/-! ## Objects that repeat no key -/

/-- No object in the document, at any depth, repeats a key. -/
def DistinctKeys (json : Json) : Prop := ∀ members, json.HasPart (.object members) →
    (members.map Prod.fst).Nodup

theorem distinctKeys_array {items : List Json} :
    (array items).DistinctKeys ↔ ∀ item ∈ items, item.DistinctKeys := by
  constructor
  · exact fun h item hitem members hpart => h members (.item hitem hpart)
  · intro h members hpart
    cases hpart with
    | item hitem hpart => exact h _ hitem members hpart

theorem distinctKeys_object {members : List (String × Json)} :
    (object members).DistinctKeys ↔ (members.map Prod.fst).Nodup ∧
      ∀ m ∈ members, m.2.DistinctKeys := by
  constructor
  · exact fun h => ⟨h members (.self _), fun m hm inner hpart => h inner (.member hm hpart)⟩
  · rintro ⟨hkeys, h⟩ inner hpart
    cases hpart with
    | self => exact hkeys
    | member hm hpart => exact h _ hm inner hpart

theorem setMember_of_notMem {key : String} {members : List (String × Json)}
    (h : key ∉ members.map Prod.fst) (value : Json) :
    setMember key value members = members ++ [(key, value)] := by
  induction members with
  | nil => rfl
  | cons m members ih =>
    obtain ⟨hne, hrest⟩ := not_or.1 (List.mem_cons.not.1 h)
    rw [setMember, if_neg (Ne.symm hne), ih hrest, List.cons_append]

theorem lastWinsMembers_of_nodup {kept members : List (String × Json)}
    (h : ((kept ++ members).map Prod.fst).Nodup) (hvalues : ∀ m ∈ members, m.2.lastWins = m.2) :
    lastWinsMembers kept members = kept ++ members := by
  induction members generalizing kept with
  | nil => rw [lastWinsMembers, List.append_nil]
  | cons m members ih =>
    obtain ⟨hvalue, hrest⟩ := List.forall_mem_cons.1 hvalues
    have hnew : m.1 ∉ kept.map Prod.fst := by
      rw [List.map_append, List.map_cons] at h
      exact fun hm => (List.nodup_append.1 h).2.2 m.1 hm m.1 List.mem_cons_self rfl
    have happend : kept ++ m :: members = kept ++ [m] ++ members := by simp
    rw [lastWinsMembers, hvalue, setMember_of_notMem hnew, happend]
    exact ih (happend ▸ h) hrest

theorem lastWinsItems_eq_map (items : List Json) : lastWinsItems items = items.map lastWins := by
  induction items with
  | nil => rfl
  | cons item items ih => rw [lastWinsItems, ih, List.map_cons]

/-- Where no key is repeated there is nothing to be won. -/
theorem DistinctKeys.lastWins_eq {json : Json} (h : json.DistinctKeys) : json.lastWins = json := by
  induction json using byParts with
  | leaf json harray hobject =>
    cases json with
    | array items => exact absurd rfl (harray items)
    | object members => exact absurd rfl (hobject members)
    | _ => rfl
  | array items ih =>
    have hitems : ∀ item ∈ items, item.lastWins = item := fun item hitem =>
      ih item hitem (distinctKeys_array.1 h item hitem)
    rw [lastWins, lastWinsItems_eq_map, List.map_congr_left hitems, List.map_id']
  | object members ih =>
    obtain ⟨hkeys, hdistinct⟩ := distinctKeys_object.1 h
    have hmembers : lastWinsMembers [] members = members :=
      lastWinsMembers_of_nodup hkeys fun m hm => ih m hm (hdistinct m hm)
    rw [lastWins, hmembers]

/-! ## Tokens of readable documents -/

/-- Every token has a value. -/
def AllValued (ts : List Token) : Prop := ∀ t ∈ ts, t.Valued

@[simp] theorem allValued_nil : AllValued [] := fun _ h => by cases h

@[simp] theorem allValued_cons {t : Token} {ts : List Token} :
    AllValued (t :: ts) ↔ t.Valued ∧ AllValued ts :=
  List.forall_mem_cons

@[simp] theorem allValued_append {ts us : List Token} :
    AllValued (ts ++ us) ↔ AllValued ts ∧ AllValued us :=
  List.forall_mem_append

theorem allValued_itemTokens {items : List Json} :
    AllValued (itemTokens items) ↔ ∀ item ∈ items, AllValued item.toTokens := by
  have hmore : ∀ items, AllValued (moreItemTokens items) ↔
    ∀ item ∈ items, AllValued item.toTokens := by
    intro items
    induction items with
    | nil => simp [moreItemTokens]
    | cons item items ih => simp [moreItemTokens, ih, Token.Valued]
  cases items with
  | nil => simp [itemTokens]
  | cons item items => simp [itemTokens, hmore]

theorem allValued_memberTokens {members : List (String × Json)} :
    AllValued (memberTokens members) ↔ ∀ m ∈ members, AllValued m.2.toTokens := by
  have hmore : ∀ members, AllValued (moreMemberTokens members) ↔
    ∀ m ∈ members, AllValued m.2.toTokens := by
    intro members
    induction members with
    | nil => simp [moreMemberTokens]
    | cons m members ih => rw [moreMemberTokens, List.forall_mem_cons, ← ih]; simp [Token.Valued]
  cases members with
  | nil => simp [memberTokens]
  | cons m members => rw [memberTokens, List.forall_mem_cons, ← hmore]; simp [Token.Valued]

/-- A document is readable just when every token of it has a value. -/
theorem readable_iff_allValued {json : Json} : json.readable = true ↔ AllValued json.toTokens := by
  induction json using byParts with
  | leaf json harray hobject =>
    cases json with
    | array items => exact absurd rfl (harray items)
    | object members => exact absurd rfl (hobject members)
    | _ => simp [readable, toTokens, Token.Valued]
  | array items ih =>
    have hitems : (∀ item ∈ items, item.readable = true) ↔
      ∀ item ∈ items, AllValued item.toTokens :=
      forall₂_congr ih
    rw [readable, readableItems_iff, hitems, ← allValued_itemTokens]
    simp [toTokens, Token.Valued]
  | object members ih =>
    have hmembers : (∀ m ∈ members, m.2.readable = true) ↔ ∀ m ∈ members, AllValued m.2.toTokens :=
      forall₂_congr ih
    rw [readable, readableMembers_iff, hmembers, ← allValued_memberTokens]
    simp [toTokens, Token.Valued]

/-! ## What the machine has read -/

/-- The tokens that an open array or object was opened with and filled from so far. -/
def Frame.toTokens : Frame → List Token
  | .array items => .openArray :: items.reverse.flatMap fun item => item.toTokens ++ [.comma]
  | .object members key =>
    .openObject :: (members.reverse.flatMap
      (fun m => .string m.1 :: .colon :: (m.2.toTokens ++ [.comma])) ++
      [.string key, .colon])

/-- The tokens of all that is open, the outermost first. -/
def openTokens (open' : List Frame) : List Token := open'.reverse.flatMap Frame.toTokens

theorem openTokens_cons (frame : Frame) (outer : List Frame) :
    openTokens (frame :: outer) = openTokens outer ++ frame.toTokens := by
  simp [openTokens]

theorem itemTokens_concat (before : List Json) (item : Json) :
    itemTokens (before ++ [item]) = before.flatMap (fun item => item.toTokens ++ [.comma]) ++
      item.toTokens := by
  have hmore : ∀ before : List Json,
      moreItemTokens (before ++ [item]) = .comma :: itemTokens (before ++ [item]) := by
    intro before
    cases before <;> rfl
  induction before with
  | nil => simp [itemTokens, moreItemTokens]
  | cons first before ih => simp [itemTokens, hmore, ih]

theorem memberTokens_concat (before : List (String × Json)) (m : String × Json) :
    memberTokens (before ++ [m]) =
      before.flatMap (fun m => .string (some m.1) :: .colon :: (m.2.toTokens ++ [.comma])) ++
        .string (some m.1) :: .colon :: m.2.toTokens := by
  have hmore : ∀ before : List (String × Json),
      moreMemberTokens (before ++ [m]) = .comma :: memberTokens (before ++ [m]) := by
    intro before
    cases before <;> rfl
  induction before with
  | nil => simp [memberTokens, moreMemberTokens]
  | cons first before ih => simp [memberTokens, hmore, ih]

theorem toTokens_ofString {value : Option String} (h : AllValued (ofString value).toTokens) :
    (ofString value).toTokens = [.string value] := by
  cases value with
  | none => simp [ofString, toTokens, Token.Valued] at h
  | some s => rfl

theorem toTokens_ofItems (value : Json) (items : List Json) :
    (ofItems (value :: items)).toTokens = (Frame.array items).toTokens ++
      (value.toTokens ++ [.closeArray]) := by
  simp [ofItems, toTokens, Frame.toTokens, itemTokens_concat]

theorem toTokens_ofMembers {value : Json} {members : List (Option String × Json)}
    {key : Option String} (h : AllValued (ofMembers ((key, value) :: members)).toTokens) :
    (ofMembers ((key, value) :: members)).toTokens =
      (Frame.object members key).toTokens ++ (value.toTokens ++ [.closeObject]) := by
  rw [ofMembers] at h ⊢
  split at h
  · next ms hms =>
    have hmembers := eq_map_of_known hms
    rw [List.reverse_cons] at hmembers
    obtain ⟨before, last, rfl, hbefore, hlast⟩ := List.append_eq_map_iff.1 hmembers
    obtain ⟨m, rfl, hm⟩ := List.map_eq_singleton_iff.1 hlast
    cases hm
    simp [toTokens, memberTokens_concat, Frame.toTokens, ← hbefore, List.flatMap_map]
  · simp [toTokens, Token.Valued] at h

/-- A container that was closed is part of a readable document only when it was not given up. -/
theorem tokens_of_closed {json container : Json} {outer : List Frame} {ts : List Token}
    (hj : AllValued json.toTokens)
    (h : json.toTokens = openTokens outer ++ ((closed outer container).toTokens ++ ts)) :
    AllValued container.toTokens ∧ json.toTokens = openTokens outer ++
      (container.toTokens ++ ts) := by
  rw [h] at hj
  simp only [allValued_append] at hj
  rw [closed] at h hj
  split at h
  · next hroom =>
    rw [if_pos hroom] at hj
    exact ⟨hj.2.1, h⟩
  · next hdeep =>
    rw [if_neg hdeep] at hj
    simp [toTokens, Token.Valued] at hj

mutual

/-- What the machine returns is made of what was open and of the tokens that it was given. -/
theorem toTokens_of_expectValue {open' : List Frame} {ts : List Token} {json : Json}
    (hatomic : Atomic ts) (hj : AllValued json.toTokens) (h : expectValue open' ts = some json) :
    json.toTokens = openTokens open' ++ ts := by
  unfold expectValue at h
  split at h
  · next value ts =>
    rw [toTokens_of_afterValue hatomic.tail hj h, hatomic value List.mem_cons_self]
    rfl
  · next value ts =>
    have htokens := toTokens_of_afterValue hatomic.tail hj h
    -- the string is part of what is readable, so it has a value
    rw [htokens, allValued_append, allValued_append] at hj
    rw [htokens, toTokens_ofString hj.2.1]
    rfl
  · next ts => exact (tokens_of_closed hj (toTokens_of_afterValue hatomic.tail.tail hj h)).2
  · next ts _ =>
    rw [toTokens_of_expectValue hatomic.tail hj h, openTokens_cons]
    simp [Frame.toTokens]
  · next ts => exact (tokens_of_closed hj (toTokens_of_afterValue hatomic.tail.tail hj h)).2
  · next key ts =>
    rw [toTokens_of_expectValue hatomic.tail.tail.tail hj h, openTokens_cons]
    simp [Frame.toTokens]
  · cases h
termination_by ts.length

theorem toTokens_of_afterValue {value : Json} {open' : List Frame} {ts : List Token} {json : Json}
    (hatomic : Atomic ts) (hj : AllValued json.toTokens)
    (h : afterValue value open' ts = some json) :
    json.toTokens = openTokens open' ++ (value.toTokens ++ ts) := by
  unfold afterValue at h
  split at h
  · split at h
    · next hempty =>
      cases h
      rw [List.isEmpty_iff.1 hempty, List.append_nil]
      rfl
    · cases h
  · next key ts =>
    split at h
    · next members key₀ outer =>
      rw [toTokens_of_expectValue hatomic.tail.tail.tail hj h]
      simp [openTokens_cons, Frame.toTokens]
    · cases h
  · next ts _ =>
    split at h
    · next items outer =>
      rw [toTokens_of_expectValue hatomic.tail hj h]
      simp [openTokens_cons, Frame.toTokens]
    · cases h
  · next ts =>
    split at h
    · next items outer =>
      rw [(tokens_of_closed hj (toTokens_of_afterValue hatomic.tail hj h)).2, toTokens_ofItems]
      simp [openTokens_cons]
    · cases h
  · next ts =>
    split at h
    · next members key outer =>
      obtain ⟨hmembers, htokens⟩ := tokens_of_closed hj (toTokens_of_afterValue hatomic.tail hj h)
      rw [htokens, toTokens_ofMembers hmembers]
      simp [openTokens_cons]
    · cases h
  · cases h
termination_by ts.length

end

/-! ## What a text holds -/

/-- The text holds the document: its tokens are written in the text, and it is not nested too
deep. -/
structure Holds (text : String) (json : Json) : Prop where
  written : Lexed json.toTokens text.toList
  depth : json.depth ≤ maxDepth

/-- What a text holds is what it is read as, unless that has an unreadable part. -/
theorem ofText?_eq_some_iff {text : String} {json : Json} :
    ofText? text = some json ∧ json.readable = true ↔ Holds text json := by
  constructor
  · rintro ⟨h, hreadable⟩
    have hdepth := depth_ofText? h
    obtain ⟨ts, hts, hread⟩ := Option.bind_eq_some_iff.1 h
    have hvalued := readable_iff_allValued.1 hreadable
    have htokens : json.toTokens = ts := toTokens_of_expectValue (atomic_tokens hts) hvalued hread
    exact ⟨lexed_iff.2 ⟨htokens ▸ hts, hvalued⟩, hdepth⟩
  · rintro ⟨hwritten, hdepth⟩
    obtain ⟨htokens, hvalued⟩ := lexed_iff.1 hwritten
    have hreadable := readable_iff_allValued.2 hvalued
    have hall : ReadIn [] json := readIn_of_readable hreadable hdepth
    have hread := hall []
    rw [List.append_nil] at hread
    rw [ofText?, htokens]
    exact ⟨hread, hreadable⟩

theorem Holds.unique {text : String} {json json' : Json} (h : Holds text json)
    (h' : Holds text json') :
    json = json' :=
  Option.some.inj ((ofText?_eq_some_iff.2 h).1.symm.trans (ofText?_eq_some_iff.2 h').1)

theorem Plain.readable {n : Nat} {json : Json} (h : Plain n json) : json.readable = true := by
  induction h with
  | array _ ih => exact readableItems_iff.2 ih
  | object _ ih => exact readableMembers_iff.2 ih
  | _ => rfl

theorem Plain.depth_le {n : Nat} {json : Json} (h : Plain n json) : json.depth ≤ n := by
  induction h with
  | array _ ih => exact Nat.succ_le_succ (depthOfItems_le.2 ih)
  | object _ ih => exact Nat.succ_le_succ (depthOfMembers_le.2 ih)
  | _ => exact Nat.zero_le _

/-- The text of a plain document that is not nested too deep holds it. -/
theorem Plain.holds {n : Nat} {json : Json} (h : Plain n json) (hdepth : n ≤ maxDepth) :
    Holds json.toText json := by
  have hcut := h.cut [] (by simp [Numeral.Ends])
  have htokens : tokens json.toText.toList = some json.toTokens := by
    simpa [toText, tokens] using hcut
  exact ⟨lexed_iff.2 ⟨htokens, readable_iff_allValued.1 h.readable⟩, Nat.le_trans h.depth_le hdepth⟩

/-- A plain document that is not nested too deep reads back. -/
theorem ofText?_toText {n : Nat} {json : Json} (h : Plain n json) (hdepth : n ≤ maxDepth) :
    ofText? json.toText = some json :=
  (ofText?_eq_some_iff.2 (h.holds hdepth)).1

end FeatureFlags.Json
