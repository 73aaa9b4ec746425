import FeatureFlags.Proofs.Tokens

/-!
# Reading a written document

The machine that puts a document together from its tokens goes, from any stack of open arrays and
objects, over the tokens of an array or object to the state in which it is complete, if it does so
over those of its parts and there is room for one more.

Nothing that is read is nested too deep: while `k` arrays and objects are open, whatever is complete
inside them is nested at most `maxDepth - k` deep, because one that is not is given up when it
closes.

**Results.**
* `readIn_array`, `readIn_object`: the machine on the tokens of an array and of an object.
* `depth_ofText?`: how deep what is read is nested.
-/
namespace FeatureFlags.Json

/-! ## Documents from tokens -/

theorem expectValue_openArray {open' : List Frame} {ts : List Token}
    (h : ∀ rest, ts ≠ .closeArray :: rest) :
    expectValue open' (.openArray :: ts) = expectValue (.array [] :: open') ts := by
  rw [expectValue]
  exact h

/-- A comma in an array. After a comma the machine looks for a key and a colon first, even in an
array. -/
theorem afterValue_comma {value : Json} {items : List Json} {outer : List Frame} {ts : List Token}
    (h : ∀ key rest, ts ≠ .string key :: .colon :: rest) :
    afterValue value (.array items :: outer) (.comma :: ts) =
      expectValue (.array (value :: items) :: outer) ts := by
  rw [afterValue]
  exact h

theorem toTokens_ne_closeArray (json : Json) (ts rest : List Token) :
    json.toTokens ++ ts ≠ .closeArray :: rest := by
  cases json <;> simp [toTokens]

/-- A value begins no member of an object unless a colon comes after it. -/
theorem toTokens_ne_member (json : Json) {ts : List Token} (h : ∀ rest, ts ≠ .colon :: rest)
    (key : Option String) (rest : List Token) :
    json.toTokens ++ ts ≠ .string key :: .colon :: rest := by
  cases json <;> simp [toTokens, h]

theorem moreItemTokens_ne_colon (items : List Json) (ts rest : List Token) :
    moreItemTokens items ++ .closeArray :: ts ≠ .colon :: rest := by
  cases items <;> simp [moreItemTokens]

/-- Inside these open arrays and objects the machine reads the tokens of the document as the
document. -/
def ReadIn (open' : List Frame) (json : Json) : Prop :=
  ∀ ts, expectValue open' (json.toTokens ++ ts) = afterValue json open' ts

theorem afterValue_moreItems {outer : List Frame} {items : List Json}
    (h : ∀ item ∈ items, ∀ before, ReadIn (.array before :: outer) item) (value : Json)
    (before : List Json) (ts : List Token) :
    afterValue value (.array before :: outer) (moreItemTokens items ++ .closeArray :: ts) =
      afterValue (closed outer (.array (before.reverse ++ value :: items))) outer ts := by
  -- The items read so far move into the frame, which holds them in reverse.
  induction items generalizing value before with
  | nil => simp [moreItemTokens, afterValue, ofItems]
  | cons item items ih =>
    have hmember := toTokens_ne_member item (moreItemTokens_ne_colon items ts)
    simp only [moreItemTokens, List.cons_append, List.append_assoc]
    rw [afterValue_comma hmember, h item List.mem_cons_self,
      ih (fun i hi => h i (List.mem_cons_of_mem item hi))]
    simp

/-- Members whose keys all have a value make an object. -/
theorem ofMembers_some (members : List (String × Json)) :
    ofMembers (members.map fun m => (some m.1, m.2)) = .object members.reverse := by
  have hkeys : ∀ ms : List (String × Json),
      (ms.map fun m => (some m.1, m.2)).mapM (fun m => m.1.map fun key => (key, m.2)) =
        some ms := by
    intro ms
    induction ms with
    | nil => rfl
    | cons m ms ih => simp [ih]
  rw [ofMembers, ← List.map_reverse, hkeys]

theorem afterValue_moreMembers {outer : List Frame} {members : List (String × Json)}
    (h : ∀ m ∈ members, ∀ before key, ReadIn (.object before key :: outer) m.2) (m : String × Json)
    (before : List (String × Json)) (ts : List Token) :
    afterValue m.2 (.object (before.map fun m => (some m.1, m.2)) (some m.1) :: outer)
        (moreMemberTokens members ++ .closeObject :: ts) =
      afterValue (closed outer (.object (before.reverse ++ m :: members))) outer ts := by
  induction members generalizing m before with
  | nil =>
    have hmembers := ofMembers_some (m :: before)
    rw [List.map_cons] at hmembers
    simp [moreMemberTokens, afterValue, hmembers]
  | cons next members ih =>
    have hmore := ih (fun n hn => h n (List.mem_cons_of_mem next hn)) next (m :: before)
    simp only [moreMemberTokens, List.cons_append, List.append_assoc, afterValue]
    rw [h next List.mem_cons_self]
    simpa using hmore

theorem readIn_array {open' : List Frame} {items : List Json} (hdepth : open'.length < maxDepth)
    (h : ∀ item ∈ items, ∀ before, ReadIn (.array before :: open') item) :
    ReadIn open' (.array items) := by
  intro ts
  have hclosed : ∀ container, closed open' container = container := fun _ => if_pos hdepth
  cases items with
  | nil => simp [toTokens, itemTokens, expectValue, hclosed]
  | cons item items =>
    simp only [toTokens, itemTokens, List.cons_append, List.append_assoc, List.nil_append]
    rw [expectValue_openArray (toTokens_ne_closeArray item _), h item List.mem_cons_self,
      afterValue_moreItems fun i hi => h i (List.mem_cons_of_mem item hi), hclosed]
    rfl

theorem readIn_object {open' : List Frame} {members : List (String × Json)}
    (hdepth : open'.length < maxDepth)
    (h : ∀ m ∈ members, ∀ before key, ReadIn (.object before key :: open') m.2) :
    ReadIn open' (.object members) := by
  intro ts
  have hclosed : ∀ container, closed open' container = container := fun _ => if_pos hdepth
  cases members with
  | nil => simp [toTokens, memberTokens, expectValue, hclosed]
  | cons m members =>
    simp only [toTokens, memberTokens, List.cons_append, List.append_assoc, List.nil_append,
      expectValue]
    have hmore := afterValue_moreMembers (fun n hn => h n (List.mem_cons_of_mem m hn)) m [] ts
    rw [hclosed] at hmore
    rw [h m List.mem_cons_self]
    exact hmore

/-! ## How deep documents are nested -/

mutual

/-- How deep arrays and objects are nested. -/
def depth : Json → Nat
  | array items => depthOfItems items + 1
  | object members => depthOfMembers members + 1
  | _ => 0

def depthOfItems : List Json → Nat
  | [] => 0
  | item :: rest => max item.depth (depthOfItems rest)

def depthOfMembers : List (String × Json) → Nat
  | [] => 0
  | (_, value) :: rest => max value.depth (depthOfMembers rest)

end

theorem depthOfItems_le {items : List Json} {n : Nat} :
    depthOfItems items ≤ n ↔ ∀ item ∈ items, item.depth ≤ n := by
  induction items with
  | nil => simp [depthOfItems]
  | cons item rest ih => simp only [depthOfItems, ih, Nat.max_le, List.forall_mem_cons]

theorem depthOfMembers_le {members : List (String × Json)} {n : Nat} :
    depthOfMembers members ≤ n ↔ ∀ m ∈ members, m.2.depth ≤ n := by
  induction members with
  | nil => simp [depthOfMembers]
  | cons m rest ih => simp only [depthOfMembers, ih, Nat.max_le, List.forall_mem_cons]

/-- What an open array or object holds so far is nested at most `n` deep. -/
def Frame.Within (n : Nat) : Frame → Prop
  | .array items => ∀ item ∈ items, item.depth ≤ n
  | .object members _ => ∀ m ∈ members, m.2.depth ≤ n

theorem Frame.Within.addItem {n : Nat} {items : List Json} (h : (Frame.array items).Within n)
    {item : Json} (hitem : item.depth ≤ n) : (Frame.array (item :: items)).Within n :=
  List.forall_mem_cons.2 ⟨hitem, h⟩

theorem Frame.Within.addMember {n : Nat} {members : List (Option String × Json)}
    {key : Option String} (h : (Frame.object members key).Within n) {value : Json}
    (hvalue : value.depth ≤ n) (next : Option String) :
    (Frame.object ((key, value) :: members) next).Within n :=
  List.forall_mem_cons.2 ⟨hvalue, h⟩

/-- Every open array or object leaves room for those around it. -/
def Nested : List Frame → Prop
  | [] => True
  | frame :: outer => frame.Within (maxDepth - (outer.length + 1)) ∧ Nested outer

theorem Nested.push {frame : Frame} {outer : List Frame}
    (hframe : frame.Within (maxDepth - (outer.length + 1)))
    (ho : Nested outer) : Nested (frame :: outer) :=
  ⟨hframe, ho⟩

/-- A container that would be nested too deep is given up when it is closed. -/
theorem depth_closed {outer : List Frame} {container : Json}
    (h : container.depth ≤ maxDepth - (outer.length + 1) + 1) :
    (closed outer container).depth ≤ maxDepth - outer.length := by
  rw [closed]
  split
  · omega
  · exact Nat.zero_le _

theorem depth_ofItems {items : List Json} {n : Nat} (h : (Frame.array items).Within n) :
    (ofItems items).depth ≤ n + 1 := by
  rw [ofItems, depth]
  exact Nat.succ_le_succ (depthOfItems_le.2 fun item hi => h item (List.mem_reverse.1 hi))

/-- Members whose keys all have a value are those of an object. -/
theorem eq_map_of_known {members : List (Option String × Json)} {ms : List (String × Json)}
    (h : (members.mapM fun m => m.1.map fun key => (key, m.2)) = some ms) :
    members = ms.map fun m => (some m.1, m.2) := by
  induction members generalizing ms with
  | nil =>
    cases h
    rfl
  | cons m members ih =>
    obtain ⟨key?, value⟩ := m
    rw [List.mapM_cons] at h
    simp only [Option.bind_eq_bind, Option.bind_eq_some_iff, Option.pure_def,
      Option.map_eq_some_iff] at h
    obtain ⟨_, ⟨key, rfl, rfl⟩, rest, hrest, hms⟩ := h
    cases hms
    rw [ih hrest, List.map_cons]

theorem depth_ofMembers {members : List (Option String × Json)} {key : Option String} {n : Nat}
    (h : (Frame.object members key).Within n) : (ofMembers members).depth ≤ n + 1 := by
  rw [ofMembers]
  split
  · next ms hms =>
    rw [depth]
    refine Nat.succ_le_succ (depthOfMembers_le.2 fun m hm =>
      h (some m.1, m.2) (List.mem_reverse.1 ?_))
    rw [eq_map_of_known hms]
    exact List.mem_map_of_mem hm
  · exact Nat.zero_le _

theorem depth_ofString (value : Option String) : (ofString value).depth = 0 := by
  cases value <;> rfl

/-- The values that are tokens are one token by themselves: they are neither strings nor arrays nor
objects. -/
def Atomic (ts : List Token) : Prop := ∀ value, .atom value ∈ ts → value.toTokens = [.atom value]

theorem Atomic.tail {t : Token} {ts : List Token} (h : Atomic (t :: ts)) : Atomic ts :=
  fun value hv => h value (List.mem_cons_of_mem t hv)

theorem depth_of_atom {value : Json} (h : value.toTokens = [.atom value]) : value.depth = 0 := by
  cases value <;> first | rfl | simp [toTokens] at h

mutual

theorem depth_expectValue {open' : List Frame} {ts : List Token} {json : Json} (hatomic : Atomic ts)
    (ho : Nested open') (h : expectValue open' ts = some json) : json.depth ≤ maxDepth := by
  unfold expectValue at h
  split at h
  · next value ts =>
    have hvalue := depth_of_atom (hatomic value List.mem_cons_self)
    exact depth_afterValue hatomic.tail (by omega) ho h
  · next value ts =>
    have hvalue := depth_ofString value
    exact depth_afterValue hatomic.tail (by omega) ho h
  · next ts => exact depth_afterValue hatomic.tail.tail (depth_closed (Nat.le_add_left 1 _)) ho h
  · next ts _ => exact depth_expectValue hatomic.tail (.push (by simp [Frame.Within]) ho) h
  · next ts => exact depth_afterValue hatomic.tail.tail (depth_closed (Nat.le_add_left 1 _)) ho h
  · next key ts =>
      exact depth_expectValue hatomic.tail.tail.tail (.push (by simp [Frame.Within]) ho) h
  · cases h
termination_by ts.length

theorem depth_afterValue {value : Json} {open' : List Frame} {ts : List Token} {json : Json}
    (hatomic : Atomic ts) (hv : value.depth ≤ maxDepth - open'.length) (ho : Nested open')
    (h : afterValue value open' ts = some json) :
    json.depth ≤ maxDepth := by
  unfold afterValue at h
  split at h
  · split at h
    · cases h
      omega
    · cases h
  · next key ts =>
    split at h
    · next members key₀ outer =>
      exact depth_expectValue hatomic.tail.tail.tail (.push (ho.1.addMember hv key) ho.2) h
    · cases h
  · next ts _ =>
    split at h
    · next items outer => exact depth_expectValue hatomic.tail (.push (ho.1.addItem hv) ho.2) h
    · cases h
  · next ts =>
    split at h
    · next items outer =>
      exact depth_afterValue hatomic.tail (depth_closed (depth_ofItems (ho.1.addItem hv))) ho.2 h
    · cases h
  · next ts =>
    split at h
    · next members key outer =>
      have hmembers := depth_ofMembers (ho.1.addMember hv key)
      exact depth_afterValue hatomic.tail (depth_closed hmembers) ho.2 h
    · cases h
  · cases h
termination_by ts.length

end

/-- The tokenizer takes as an atom only what is one token by itself. -/
theorem toTokens_atom {cs rest : List Char} {value : Json}
    (h : takeToken cs = some (.atom value, rest)) :
    value.toTokens = [.atom value] := by
  unfold takeToken at h
  split at h
  case h_9 =>
    unfold takeAtom at h
    split at h
    · cases h; rfl
    · split at h
      · cases h; rfl
      · split at h
        · cases h; rfl
        · obtain ⟨⟨n, _⟩, _, he⟩ := Option.map_eq_some_iff.1 h
          cases he
          cases n.value? <;> rfl
  all_goals simp at h

theorem atomic_tokens {cs : List Char} {ts : List Token} (h : tokens cs = some ts) : Atomic ts := by
  fun_induction tokens cs generalizing ts with
  | case1 =>
    cases h
    exact fun _ hv => by cases hv
  | case2 _ _ _ ih => exact ih h
  | case3 => cases h
  | case4 c cs _ t rest ht ih =>
    obtain ⟨ts', hts', rfl⟩ := Option.map_eq_some_iff.1 h
    intro value hv
    rcases List.mem_cons.1 hv with rfl | hv
    · exact toTokens_atom ht
    · exact ih hts' value hv

theorem depth_ofText? {text : String} {json : Json} (h : ofText? text = some json) :
    json.depth ≤ maxDepth := by
  obtain ⟨ts, hts, hread⟩ := Option.bind_eq_some_iff.1 h
  have hnone : Nested [] := trivial
  exact depth_expectValue (atomic_tokens hts) hnone hread

end FeatureFlags.Json
