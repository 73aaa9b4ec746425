/-!
# Tables with unique keys

A `Table α` holds entries in the order in which their keys first came in, and no key twice.

**Results.**
* `get?_insert`, `get?_erase`, `get?_without`: what a lookup gives after each change.
-/
namespace FeatureFlags

/-- Entries with pairwise different keys, in order of first insertion. -/
structure Table (α : Type u) where
  entries : List (String × α)
  nodup : (entries.map Prod.fst).Nodup

namespace Table

variable {α : Type u}

theorem ext {s t : Table α} (h : s.entries = t.entries) : s = t := by
  cases s; cases t; cases h; rfl

instance [DecidableEq α] : DecidableEq (Table α) := fun s t =>
  if h : s.entries = t.entries then isTrue (ext h) else isFalse fun e => h (congrArg entries e)

/-- The table without entries. -/
def empty : Table α := ⟨[], by simp⟩

instance : Inhabited (Table α) := ⟨empty⟩

def keys (t : Table α) : List String := t.entries.map Prod.fst

def size (t : Table α) : Nat := t.entries.length

/-- The value of the first entry with this key. -/
def find? (key : String) : List (String × α) → Option α
  | [] => none
  | e :: rest => if e.1 = key then some e.2 else find? key rest

/-- The value under a key. -/
def get? (t : Table α) (key : String) : Option α := find? key t.entries

/-- Replaces the value under `key` where it stands, or adds the entry at the end. -/
def put (key : String) (value : α) : List (String × α) → List (String × α)
  | [] => [(key, value)]
  | e :: rest => if e.1 = key then (key, value) :: rest else e :: put key value rest

theorem mem_map_fst_put {key k : String} {value : α} {es : List (String × α)} :
    k ∈ (put key value es).map Prod.fst ↔ k = key ∨ k ∈ es.map Prod.fst := by
  induction es with
  | nil => simp [put]
  | cons e rest ih =>
    rw [put]
    split
    · next h => simp [h]
    · simp only [List.map_cons, List.mem_cons, ih]
      grind

theorem nodup_put {key : String} {value : α} {es : List (String × α)}
    (h : (es.map Prod.fst).Nodup) : ((put key value es).map Prod.fst).Nodup := by
  induction es with
  | nil => simp [put]
  | cons e rest ih =>
    rw [List.map_cons, List.nodup_cons] at h
    rw [put]
    split
    · next he => subst he; simpa using h
    · next he =>
      rw [List.map_cons, List.nodup_cons, mem_map_fst_put]
      exact ⟨by grind, ih h.2⟩

/-- Sets the value under a key; a new key goes to the end. -/
def insert (t : Table α) (key : String) (value : α) : Table α :=
  ⟨put key value t.entries, nodup_put t.nodup⟩

/-- Keeps the entries whose key passes the test. -/
def filterKeys (t : Table α) (keep : String → Bool) : Table α where
  entries := t.entries.filter fun e => keep e.1
  nodup := t.nodup.sublist (List.filter_sublist.map Prod.fst)

/-- Removes the entry under a key. -/
def erase (t : Table α) (key : String) : Table α := t.filterKeys (· != key)

/-- Removes the entries under all the keys. -/
def without (t : Table α) (keys : List String) : Table α := t.filterKeys (!keys.contains ·)

/-- The entries set one after the other on an empty table, so the last of a repeated key stays. -/
def ofList (es : List (String × α)) : Table α := es.foldl (fun t e => t.insert e.1 e.2) empty

/-! ## Lookups after a change -/

@[simp] theorem get?_empty (k : String) : (empty : Table α).get? k = none := rfl

theorem find?_put (key k : String) (value : α) (es : List (String × α)) :
    find? k (put key value es) = if k = key then some value else find? k es := by
  induction es with
  | nil => grind [put, find?]
  | cons e rest ih => grind [put, find?]

@[simp] theorem get?_insert (t : Table α) (key k : String) (value : α) :
    (t.insert key value).get? k = if k = key then some value else t.get? k :=
  find?_put key k value t.entries

theorem find?_filter (keep : String → Bool) (k : String) (es : List (String × α)) :
    find? k (es.filter fun e => keep e.1) = if keep k then find? k es else none := by
  induction es with
  | nil => grind [find?]
  | cons e rest ih => grind [find?]

@[simp] theorem get?_filterKeys (t : Table α) (keep : String → Bool) (k : String) :
    (t.filterKeys keep).get? k = if keep k then t.get? k else none :=
  find?_filter keep k t.entries

@[simp] theorem get?_erase (t : Table α) (key k : String) :
    (t.erase key).get? k = if k = key then none else t.get? k := by
  by_cases h : k = key <;> simp [erase, h]

@[simp] theorem get?_without (t : Table α) (ks : List String) (k : String) :
    (t.without ks).get? k = if k ∈ ks then none else t.get? k := by
  by_cases h : k ∈ ks <;> simp [without, h]

theorem mem_keys_iff {t : Table α} {k : String} : k ∈ t.keys ↔ (t.get? k).isSome := by
  unfold keys get?
  induction t.entries with
  | nil => simp [find?]
  | cons e rest ih => grind [find?]

theorem mem_entries_of_get? {t : Table α} {k : String} {a : α} (h : t.get? k = some a) :
    (k, a) ∈ t.entries := by
  unfold get? at h
  revert h
  induction t.entries with
  | nil => simp [find?]
  | cons e rest ih => grind [find?]

theorem size_keys (t : Table α) : t.keys.length = t.size := List.length_map ..

end Table
end FeatureFlags
