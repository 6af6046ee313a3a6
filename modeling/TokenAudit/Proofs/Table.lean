import Mathlib.Algebra.Ring.Int.Defs
import Mathlib.Data.List.Dedup
import TokenAudit.Table

/-! # Keys and values of tables

What a new value for a key does to the values of a table as a whole, and to its keys.

* `Table.mem_values_of_get?` — the value of a key is one of the values, and `Table.mem_values_iff`,
  there are no others;
* `Table.mem_values_set` — a value of the new table is the new one or an old one;
* `Table.sum_values_set` — the sum changes by the new value less the one it replaces;
* `Table.keys_set_of_none`, `Table.keys_set_of_some` — a new key comes last, an old one stays where
  it is;
* `Table.entries_perm` — tables with the same values have the same entries;
* `Table.size_eq_length`, `Table.size_eq_length_dedup` — a table is as large as there are different
  keys;
* `Table.KeyedBy` and `Table.Separates` — values that name their keys, and values that differ from
  key to key;
* `Table.KeyedBy.filter_values` — a key is named by one value. -/

namespace TokenAudit

/-- `v ∈ (putEntry key value entries).map Prod.snd → v = value ∨ v ∈ entries.map Prod.snd`: putting
an entry brings in no value but its own. -/
theorem mem_values_putEntry {κ α : Type} [DecidableEq κ] {key : κ} {value v : α}
    {entries : List (κ × α)} (h : v ∈ (putEntry key value entries).map Prod.snd) :
    v = value ∨ v ∈ entries.map Prod.snd := by
  induction entries with
  | nil => simpa [putEntry] using h
  | cons e rest ih =>
    obtain ⟨k, w⟩ := e
    rw [putEntry] at h
    by_cases hk : k = key
    · rw [if_pos hk, List.map_cons, List.mem_cons] at h
      exact h.imp_right fun hv => List.mem_cons_of_mem _ hv
    · rw [if_neg hk, List.map_cons, List.mem_cons] at h
      rcases h with rfl | hv
      · exact Or.inr (List.mem_cons_self ..)
      · exact (ih hv).imp_right fun hv => List.mem_cons_of_mem _ hv

/-- Putting an entry changes the sum of the values by its own value less the one that it
replaces. -/
theorem sum_values_putEntry {κ : Type} [DecidableEq κ] (key : κ) (value : Int)
    (entries : List (κ × Int)) :
    ((putEntry key value entries).map Prod.snd).sum + (entries.lookup key).getD 0 =
      (entries.map Prod.snd).sum + value := by
  induction entries with
  | nil => simp [putEntry]
  | cons e rest ih =>
    obtain ⟨k, w⟩ := e
    rw [putEntry]
    by_cases hk : k = key
    · subst hk
      rw [if_pos rfl, List.lookup_cons_self]
      simp only [List.map_cons, List.sum_cons, Option.getD_some]
      omega
    · rw [if_neg hk, List.lookup_cons, beq_false_of_ne (Ne.symm hk)]
      simp only [List.map_cons, List.sum_cons]
      omega

/-- An entry with a new key comes after all others. -/
theorem map_fst_putEntry_of_none {κ α : Type} [DecidableEq κ] {key : κ} {entries : List (κ × α)}
    (h : entries.lookup key = none) (value : α) :
    (putEntry key value entries).map Prod.fst = entries.map Prod.fst ++ [key] := by
  induction entries with
  | nil => rfl
  | cons e rest ih =>
    obtain ⟨k, w⟩ := e
    by_cases hk : k = key
    · subst hk
      rw [List.lookup_cons_self] at h
      cases h
    · rw [List.lookup_cons, beq_false_of_ne (Ne.symm hk)] at h
      rw [putEntry, if_neg hk, List.map_cons, ih h, List.map_cons, List.cons_append]

/-- An entry takes the place of the one with its key. -/
theorem map_fst_putEntry_of_some {κ α : Type} [DecidableEq κ] {key : κ} {old : α}
    {entries : List (κ × α)} (h : entries.lookup key = some old) (value : α) :
    (putEntry key value entries).map Prod.fst = entries.map Prod.fst := by
  induction entries with
  | nil => cases h
  | cons e rest ih =>
    obtain ⟨k, w⟩ := e
    by_cases hk : k = key
    · rw [putEntry, if_pos hk, List.map_cons, List.map_cons, hk]
    · rw [List.lookup_cons, beq_false_of_ne (Ne.symm hk)] at h
      rw [putEntry, if_neg hk, List.map_cons, ih h, List.map_cons]

namespace Table

/-- A table has as many keys as entries. -/
theorem length_keys {κ α : Type} (t : Table κ α) : t.keys.length = t.size := List.length_map _

/-- A table whose keys are those of a list is as large as the list, if no key comes twice there. -/
theorem size_eq_length {κ α : Type} {t : Table κ α} {l : List κ} (hl : l.Nodup)
    (h : ∀ key, key ∈ t.keys ↔ key ∈ l) : t.size = l.length := by
  have hperm : t.keys.Perm l := (List.perm_ext_iff_of_nodup t.nodup_keys hl).2 h
  rw [← length_keys, hperm.length_eq]

variable {κ α : Type} [DecidableEq κ]

/-- What is found in a table is one of its values. -/
theorem mem_values_of_get? {t : Table κ α} {key : κ} {value : α} (h : t.get? key = some value) :
    value ∈ t.values := by
  obtain ⟨before, after, hentries, -⟩ := List.lookup_eq_some_iff.1 h
  rw [values, hentries, List.map_append, List.map_cons]
  exact List.mem_append_right _ (List.mem_cons_self ..)

/-- A value that is in a table after one was set is that one or was there before. -/
theorem mem_values_set {t : Table κ α} {key : κ} {value v : α}
    (h : v ∈ (t.set key value).values) : v = value ∨ v ∈ t.values :=
  mem_values_putEntry h

/-- Setting a number changes the sum by what it differs from the number found before. -/
theorem sum_values_set (t : Table κ Int) (key : κ) (value : Int) :
    (t.set key value).values.sum + (t.get? key).getD 0 = t.values.sum + value :=
  sum_values_putEntry key value t.entries

/-! ## Keys -/

/-- Nothing is found exactly under what is no key. -/
theorem get?_eq_none_iff {t : Table κ α} {key : κ} : t.get? key = none ↔ key ∉ t.keys := by
  rw [get?, List.lookup_eq_none_iff, keys, List.mem_map]
  constructor
  · rintro h ⟨e, he, rfl⟩
    simpa using h e he
  · intro h e he
    simpa using fun heq => h ⟨e, he, heq.symm⟩

/-- What a value is found under is a key. -/
theorem mem_keys_of_get? {t : Table κ α} {key : κ} {value : α} (h : t.get? key = some value) :
    key ∈ t.keys := by
  by_contra hnot
  rw [get?_eq_none_iff.2 hnot] at h
  cases h

/-- Under a key a value is found. -/
theorem exists_get?_of_mem_keys {t : Table κ α} {key : κ} (h : key ∈ t.keys) :
    ∃ value, t.get? key = some value := by
  cases hkey : t.get? key with
  | none => exact absurd h (get?_eq_none_iff.1 hkey)
  | some value => exact ⟨value, rfl⟩

/-- An entry is found under its key. -/
theorem get?_of_mem_entries {t : Table κ α} {key : κ} {value : α} (h : (key, value) ∈ t.entries) :
    t.get? key = some value := by
  -- the entries before this one have other keys, since no key comes twice
  obtain ⟨before, after, hentries⟩ := List.append_of_mem h
  have hnodup := t.nodup_keys
  rw [hentries, List.map_append, List.map_cons, List.nodup_middle, List.nodup_cons] at hnodup
  refine List.lookup_eq_some_iff.2 ⟨before, after, hentries, fun e he => ?_⟩
  have hne : key ≠ e.1 := by
    rintro rfl
    exact hnodup.1 (List.mem_append_left _ (List.mem_map.2 ⟨e, he, rfl⟩))
  simpa using hne

/-- The entries of a table are its keys with their values. -/
theorem mem_entries_iff {t : Table κ α} {key : κ} {value : α} :
    (key, value) ∈ t.entries ↔ t.get? key = some value := by
  refine ⟨get?_of_mem_entries, fun h => ?_⟩
  obtain ⟨before, after, hentries, -⟩ := List.lookup_eq_some_iff.1 h
  rw [hentries]
  exact List.mem_append_right _ (List.mem_cons_self ..)

/-- Two tables that give every key the same value have the same entries, whatever their order is. -/
theorem entries_perm {t u : Table κ α} (h : ∀ key, t.get? key = u.get? key) :
    t.entries.Perm u.entries := by
  have ht : t.entries.Nodup := List.Nodup.of_map _ t.nodup_keys
  have hu : u.entries.Nodup := List.Nodup.of_map _ u.nodup_keys
  refine (List.perm_ext_iff_of_nodup ht hu).2 fun ⟨key, value⟩ => ?_
  rw [mem_entries_iff, mem_entries_iff, h]

/-- The values of a table are the values of its keys. -/
theorem mem_values_iff {t : Table κ α} {value : α} :
    value ∈ t.values ↔ ∃ key, t.get? key = some value := by
  refine ⟨fun h => ?_, fun ⟨key, hkey⟩ => mem_values_of_get? hkey⟩
  obtain ⟨⟨key, v⟩, hmem, rfl⟩ := List.mem_map.1 h
  exact ⟨key, get?_of_mem_entries hmem⟩

/-- A key that is new comes after all others. -/
theorem keys_set_of_none {t : Table κ α} {key : κ} (h : t.get? key = none) (value : α) :
    (t.set key value).keys = t.keys ++ [key] :=
  map_fst_putEntry_of_none h value

/-- A key that is not new stays where it is. -/
theorem keys_set_of_some {t : Table κ α} {key : κ} {old : α} (h : t.get? key = some old)
    (value : α) : (t.set key value).keys = t.keys :=
  map_fst_putEntry_of_some h value

/-- A new key makes a table larger by one. -/
theorem size_set_of_none {t : Table κ α} {key : κ} (h : t.get? key = none) (value : α) :
    (t.set key value).size = t.size + 1 := by
  rw [← length_keys, keys_set_of_none h, List.length_append, length_keys, List.length_singleton]

/-- A table whose keys are those of a list is as large as the list has different members. -/
theorem size_eq_length_dedup {t : Table κ α} {l : List κ} (h : ∀ key, key ∈ t.keys ↔ key ∈ l) :
    t.size = l.dedup.length :=
  size_eq_length l.nodup_dedup fun key => (h key).trans List.mem_dedup.symm

/-! ## One entry among others -/

/-- What a table with a new value holds: the new value under its key, and what was there under all
others. -/
theorem get?_set_eq_some {t : Table κ α} {key k : κ} {value v : α} :
    (t.set key value).get? k = some v ↔ k = key ∧ value = v ∨ k ≠ key ∧ t.get? k = some v := by
  rw [get?_set]
  by_cases h : k = key
  · simp [h]
  · simp [h]

/-- What is found or assumed under a key, after a value was set. -/
theorem getD_get?_set (t : Table κ α) (key k : κ) (value fallback : α) :
    ((t.set key value).get? k).getD fallback =
      if k = key then value else (t.get? k).getD fallback := by
  rw [get?_set]
  by_cases h : k = key
  · rw [if_pos h, if_pos h, Option.getD_some]
  · rw [if_neg h, if_neg h]

/-- Whether every value stands under the key that it names itself. -/
def KeyedBy (t : Table κ α) (name : α → κ) : Prop :=
  ∀ key value, t.get? key = some value → name value = key

/-- A table goes on being keyed by the names of its values if one is set under its name. -/
theorem KeyedBy.set {t : Table κ α} {name : α → κ} (h : t.KeyedBy name) {key : κ} {value : α}
    (hname : name value = key) : (t.set key value).KeyedBy name := by
  intro k v hv
  rcases get?_set_eq_some.1 hv with ⟨rfl, rfl⟩ | ⟨-, hv⟩
  · exact hname
  · exact h k v hv

/-- One value names a key, if there is a value under it. -/
theorem KeyedBy.filter_values {t : Table κ α} {name : α → κ} (h : t.KeyedBy name) {key : κ}
    {value : α} (hkey : t.get? key = some value) :
    t.values.filter (fun v => name v = key) = [value] := by
  obtain ⟨before, after, hentries, hbefore⟩ := List.lookup_eq_some_iff.1 hkey
  have hnodup := t.nodup_keys
  rw [hentries, List.map_append, List.map_cons, List.nodup_middle, List.nodup_cons] at hnodup
  -- the values of other entries name the keys of these entries
  have hothers : ∀ e ∈ before ++ after, ¬ name e.2 = key := by
    rintro e he hname
    have hmem : e ∈ t.entries := by
      rw [hentries]
      exact (List.mem_append.1 he).elim (List.mem_append_left _)
        fun h => List.mem_append_right _ (List.mem_cons_of_mem _ h)
    rw [h _ _ (get?_of_mem_entries hmem)] at hname
    rw [← List.map_append] at hnodup
    exact hnodup.1 (List.mem_map.2 ⟨e, he, hname⟩)
  have hnone : ∀ es : List (κ × α), es ⊆ before ++ after →
      (es.map Prod.snd).filter (fun v => name v = key) = [] := by
    intro es hes
    refine List.filter_eq_nil_iff.2 fun v hv => ?_
    obtain ⟨e, he, rfl⟩ := List.mem_map.1 hv
    simpa using hothers e (hes he)
  rw [values, hentries, List.map_append, List.map_cons, List.filter_append, List.filter_cons,
    hnone before (List.subset_append_left ..), hnone after (List.subset_append_right ..),
    if_pos (decide_eq_true (h key value hkey)), List.nil_append]

/-- Whether the values of different keys differ in a field. -/
def Separates {β : Type} (t : Table κ α) (field : α → β) : Prop :=
  ∀ a b r s, t.get? a = some r → t.get? b = some s → field r = field s → a = b

/-- A value that differs from all others in a field can be added. -/
theorem Separates.set {β : Type} {t : Table κ α} {field : α → β} (h : t.Separates field) {key : κ}
    {value : α} (hnew : ∀ k v, t.get? k = some v → field v ≠ field value) :
    (t.set key value).Separates field := by
  intro a b r s hr hs heq
  rcases get?_set_eq_some.1 hr with ⟨ha, hvalue⟩ | ⟨-, hr⟩ <;>
    rcases get?_set_eq_some.1 hs with ⟨hb, hvalue'⟩ | ⟨-, hs⟩
  · rw [ha, hb]
  · rw [← hvalue] at heq
    exact absurd heq.symm (hnew b s hs)
  · rw [← hvalue'] at heq
    exact absurd heq (hnew a r hr)
  · exact h a b r s hr hs heq

end Table

end TokenAudit
