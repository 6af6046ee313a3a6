/-! # Tables

A finite map as a list of entries, each key once, in the order in which the keys first came.

* `Table.get?` — the value of a key;
* `Table.set` — a table with a new value for a key.

Main statements: `get?_set` and `mem_keys_set`. -/

namespace TokenAudit

/-- Puts a value under a key into a list of entries: in the place of the old one, or at the end. -/
def putEntry {κ α : Type} [DecidableEq κ] (key : κ) (value : α) : List (κ × α) → List (κ × α)
  | [] => [(key, value)]
  | (k, v) :: rest =>
    if k = key then (key, value) :: rest else (k, v) :: putEntry key value rest

/-- The keys after an entry was put in are its key and those before. -/
theorem mem_keys_putEntry {κ α : Type} [DecidableEq κ] {key : κ} {value : α} {k : κ}
    {entries : List (κ × α)} :
    k ∈ (putEntry key value entries).map Prod.fst ↔ k = key ∨ k ∈ entries.map Prod.fst := by
  induction entries with
  | nil => simp [putEntry]
  | cons e rest ih =>
    obtain ⟨k', v⟩ := e
    by_cases h : k' = key
    · subst h; simp [putEntry]
    · simp only [putEntry, h, if_false, List.map_cons, List.mem_cons, ih]
      constructor
      · rintro (rfl | rfl | h)
        · exact .inr (.inl rfl)
        · exact .inl rfl
        · exact .inr (.inr h)
      · rintro (rfl | rfl | h)
        · exact .inr (.inl rfl)
        · exact .inl rfl
        · exact .inr (.inr h)

/-- Putting an entry in leaves no key twice. -/
theorem nodup_keys_putEntry {κ α : Type} [DecidableEq κ] {key : κ} {value : α}
    {entries : List (κ × α)} (h : (entries.map Prod.fst).Nodup) :
    ((putEntry key value entries).map Prod.fst).Nodup := by
  induction entries with
  | nil => simp [putEntry]
  | cons e rest ih =>
    obtain ⟨k', v⟩ := e
    rw [List.map_cons, List.nodup_cons] at h
    by_cases hk : k' = key
    · subst hk; simpa [putEntry] using h
    · simp only [putEntry, hk, if_false, List.map_cons, List.nodup_cons]
      exact ⟨fun hm => (mem_keys_putEntry.1 hm).elim hk h.1, ih h.2⟩

/-- What is looked up after an entry was put in is its value under its key, and else as before. -/
theorem lookup_putEntry {κ α : Type} [DecidableEq κ] {key : κ} {value : α} {k : κ}
    {entries : List (κ × α)} :
    (putEntry key value entries).lookup k = if k = key then some value else entries.lookup k := by
  induction entries with
  | nil =>
    by_cases h : k = key
    · simp [putEntry, h]
    · simp [putEntry, List.lookup_cons, h, beq_false_of_ne h]
  | cons e rest ih =>
    obtain ⟨k', v⟩ := e
    by_cases hk : k' = key
    · subst hk
      by_cases h : k = k'
      · simp [putEntry, h]
      · simp [putEntry, List.lookup_cons, h, beq_false_of_ne h]
    · by_cases h : k = k'
      · subst h; simp [putEntry, hk]
      · simp [putEntry, List.lookup_cons, hk, beq_false_of_ne h, ih]

/-- A finite map. -/
structure Table (κ α : Type) where
  /-- The keys with their values. -/
  entries : List (κ × α) := []
  /-- No key comes twice. -/
  nodup_keys : (entries.map Prod.fst).Nodup := by simp

namespace Table

variable {κ α : Type}

/-- The table without entries. -/
def empty : Table κ α := {}

instance : Inhabited (Table κ α) := ⟨empty⟩

/-- The keys in the order in which they first came. -/
def keys (t : Table κ α) : List κ := t.entries.map Prod.fst

/-- The values in the order of the keys. -/
def values (t : Table κ α) : List α := t.entries.map Prod.snd

/-- How many keys there are. -/
def size (t : Table κ α) : Nat := t.entries.length

variable [DecidableEq κ]

/-- The value of a key. -/
def get? (t : Table κ α) (key : κ) : Option α := t.entries.lookup key

/-- The table with a new value for a key. -/
def set (t : Table κ α) (key : κ) (value : α) : Table κ α :=
  ⟨putEntry key value t.entries, nodup_keys_putEntry t.nodup_keys⟩

/-- The table that holds the given entries; of several with one key the last one counts. -/
def ofList (entries : List (κ × α)) : Table κ α :=
  entries.foldl (fun t (key, value) => t.set key value) empty

/-- In an empty table nothing is found. -/
@[simp] theorem get?_empty (key : κ) : (empty : Table κ α).get? key = none := rfl

/-- What is found after a value was set is the value under its key, and else as before. -/
theorem get?_set (t : Table κ α) (key k : κ) (value : α) :
    (t.set key value).get? k = if k = key then some value else t.get? k :=
  lookup_putEntry

/-- A value that was set is found. -/
@[simp] theorem get?_set_self (t : Table κ α) (key : κ) (value : α) :
    (t.set key value).get? key = some value := by simp [get?_set]

/-- The keys after a value was set are its key and those before. -/
theorem mem_keys_set {t : Table κ α} {key k : κ} {value : α} :
    k ∈ (t.set key value).keys ↔ k = key ∨ k ∈ t.keys :=
  mem_keys_putEntry

end Table

end TokenAudit
