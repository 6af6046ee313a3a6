import Mathlib.Tactic.Set
import TokenAudit.Ledger.Recorded

/-! # Logs of ranges

A recorded ledger finds the logs of a range by sorting those that match by their blocks, and logs of
one block stay in the order of the records. So the logs of a range are those of its first part and
then those of its second part, wherever it is cut.

* `slice` — the part of a list with one key; `eq_of_slices` — a list sorted by a key is known by its
  slices;
* `slice_mergeSort` — sorting by a key keeps every slice as it is;
* `Recorded.find_append` — the logs of two ranges that follow each other;
* `Recorded.find_flatMap_chunks` — the logs of a window, chunk by chunk. -/

namespace TokenAudit

/-! ## Lists sorted by a key -/

section Slices

variable {α : Type} {key : α → Nat}

/-- The part of a list with a given key. -/
def slice (key : α → Nat) (k : Nat) (l : List α) : List α := l.filter fun a => key a == k

/-- The slice of two lists together is that of the first, and then that of the second. -/
theorem slice_append (k : Nat) (l m : List α) :
    slice key k (l ++ m) = slice key k l ++ slice key k m :=
  List.filter_append ..

/-- An element comes first in the slice at its own key. -/
theorem slice_cons_self (a : α) (l : List α) :
    slice key (key a) (a :: l) = a :: slice key (key a) l :=
  List.filter_cons_of_pos (by simp)

/-- At a key that nothing has, the slice is empty. -/
theorem slice_eq_nil {k : Nat} {l : List α} (h : ∀ a ∈ l, key a ≠ k) : slice key k l = [] :=
  List.filter_eq_nil_iff.2 fun a ha => by simpa using h a ha

/-- Two lists with the same slices have the same members. -/
theorem mem_of_slices {l m : List α} (h : ∀ k, slice key k l = slice key k m) {a : α} (ha : a ∈ l) :
    a ∈ m := by
  have hmem : a ∈ slice key (key a) m := by
    rw [← h, slice, List.mem_filter]
    exact ⟨ha, by simp⟩
  exact (List.mem_filter.1 hmem).1

/-- **A list sorted by a key is known by its slices.** -/
theorem eq_of_slices (key : α → Nat) {l m : List α} (hl : l.Pairwise fun a b => key a ≤ key b)
    (hm : m.Pairwise fun a b => key a ≤ key b) (h : ∀ k, slice key k l = slice key k m) :
    l = m := by
  induction l generalizing m with
  | nil =>
    cases m with
    | nil => rfl
    | cons b m => cases mem_of_slices (fun k => (h k).symm) (List.mem_cons_self (a := b))
  | cons a l ih =>
    cases m with
    | nil => cases mem_of_slices h (List.mem_cons_self (a := a))
    | cons b m =>
      -- each head is in the other list, so both have the least key and lead the same slice
      have hab : key a = key b := by
        have hba : key b ≤ key a := by
          rcases List.mem_cons.1 (mem_of_slices h (List.mem_cons_self (a := a))) with rfl | ha
          · exact Nat.le_refl _
          · exact List.rel_of_pairwise_cons hm ha
        have hab : key a ≤ key b := by
          rcases List.mem_cons.1 (mem_of_slices (fun k => (h k).symm) (List.mem_cons_self (a := b)))
            with rfl | hb
          · exact Nat.le_refl _
          · exact List.rel_of_pairwise_cons hl hb
        exact Nat.le_antisymm hab hba
      have hheads := h (key a)
      rw [slice_cons_self, hab, slice_cons_self, List.cons.injEq] at hheads
      obtain ⟨rfl, -⟩ := hheads
      have htails : ∀ k, slice key k l = slice key k m := by
        intro k
        have hk := h k
        rw [← List.singleton_append, slice_append, ← List.singleton_append (l := m),
          slice_append] at hk
        exact List.append_cancel_left hk
      rw [ih hl.of_cons hm.of_cons htails]

/-- Sorting by a key keeps every slice as it is. -/
theorem slice_mergeSort (k : Nat) (l : List α) :
    slice key k (l.mergeSort fun a b => key a ≤ key b) = slice key k l := by
  set le : α → α → Bool := fun a b => key a ≤ key b with hle
  have htrans : ∀ a b c, le a b → le b c → le a c := by
    simp only [hle, decide_eq_true_eq]
    exact fun a b c => Nat.le_trans
  have htotal : ∀ a b, le a b || le b a := by
    simp only [hle, Bool.or_eq_true, decide_eq_true_eq]
    exact fun a b => Nat.le_total _ _
  have hsorted : (slice key k l).Pairwise fun a b => le a b := by
    refine List.pairwise_of_forall_mem_list fun a ha b hb => ?_
    have hka : key a = k := by simpa using (List.mem_filter.1 ha).2
    have hkb : key b = k := by simpa using (List.mem_filter.1 hb).2
    simp [hle, hka, hkb]
  have hsub : (slice key k l).Sublist (l.mergeSort le) :=
    List.sublist_mergeSort htrans htotal hsorted List.filter_sublist
  have hslice := hsub.filter (fun a => key a == k)
  rw [show (slice key k l).filter (fun a => key a == k) = slice key k l by
    simp [slice, List.filter_filter]] at hslice
  have hperm := (List.mergeSort_perm l le).filter fun a => key a == k
  exact (hslice.eq_of_length_le (Nat.le_of_eq hperm.length_eq)).symm

/-- After sorting by a key, no key is smaller than one before it. -/
theorem pairwise_mergeSort_key (l : List α) :
    (l.mergeSort fun a b => key a ≤ key b).Pairwise fun a b => key a ≤ key b := by
  have h : (l.mergeSort fun a b => key a ≤ key b).Pairwise fun a b => decide (key a ≤ key b) :=
    List.pairwise_mergeSort (fun a b c => by simpa using Nat.le_trans)
      (fun a b => by simpa using Nat.le_total _ _) l
  simpa using h

end Slices

/-! ## Cutting ranges -/

/-- The key that found logs are sorted by. -/
def Log.sortKey (log : Log) : Nat := log.blockNumber.getD 0

namespace Recorded

/-- A log that matches a query is in a block of its range. -/
theorem blockNumber_of_matches {query : LogQuery} {entry : Address × Log}
    (h : Matches query entry = true) :
    ∃ block, entry.2.blockNumber = some block ∧ query.first ≤ block ∧ block ≤ query.last := by
  rw [Matches, Bool.and_eq_true, Bool.and_eq_true] at h
  cases hblock : entry.2.blockNumber with
  | none =>
    rw [hblock] at h
    cases h.1.2
  | some block =>
    rw [hblock] at h
    exact ⟨block, rfl, by simpa using h.1.2⟩

/-- Which logs match depends on the range only through the block that a log is in. -/
theorem matches_iff_of_blockNumber {query : LogQuery} {entry : Address × Log} {block : Nat}
    (hblock : entry.2.blockNumber = some block) (range : Window)
    (hin : query.first ≤ block ∧ block ≤ query.last ↔ range.first ≤ block ∧ block ≤ range.last) :
    Matches { query with first := range.first, last := range.last } entry =
      Matches query entry := by
  have hin' : (decide (range.first ≤ block) && decide (block ≤ range.last)) =
      (decide (query.first ≤ block) && decide (block ≤ query.last)) := by
    rw [Bool.eq_iff_iff]
    simpa using hin.symm
  simp only [Matches, hblock, hin']

/-- The logs that match a query, in the order of the records. -/
def matching (logs : List (Address × Log)) (query : LogQuery) : List Log :=
  (logs.filter (Matches query)).map Prod.snd

/-- What is found are the logs that match, sorted by their blocks. -/
theorem find_eq (logs : List (Address × Log)) (query : LogQuery) :
    find logs query = (matching logs query).mergeSort fun a b => a.sortKey ≤ b.sortKey := rfl

/-- The logs of one block are found in the order in which they were recorded. -/
theorem slice_find (logs : List (Address × Log)) (query : LogQuery) (k : Nat) :
    slice Log.sortKey k (find logs query) = slice Log.sortKey k (matching logs query) :=
  slice_mergeSort k _

/-- A log that is found is in a block of the range. -/
theorem sortKey_of_mem_find {logs : List (Address × Log)} {query : LogQuery} {log : Log}
    (h : log ∈ find logs query) : query.first ≤ log.sortKey ∧ log.sortKey ≤ query.last := by
  rw [find_eq, List.mem_mergeSort, matching, List.mem_map] at h
  obtain ⟨entry, hentry, rfl⟩ := h
  obtain ⟨block, hblock, hfirst, hlast⟩ := blockNumber_of_matches (List.mem_filter.1 hentry).2
  rw [Log.sortKey, hblock]
  exact ⟨hfirst, hlast⟩

/-- Of what matches, the logs of one block are the same for all ranges that hold the block. -/
theorem slice_matching_eq {logs : List (Address × Log)} {query : LogQuery} (range : Window)
    {k : Nat} (hin : query.first ≤ k ∧ k ≤ query.last ↔ range.first ≤ k ∧ k ≤ range.last) :
    slice Log.sortKey k (matching logs { query with first := range.first, last := range.last }) =
      slice Log.sortKey k (matching logs query) := by
  simp only [slice, matching, List.filter_map, List.filter_filter]
  congr 1
  refine List.filter_congr fun entry _ => ?_
  by_cases hk : entry.2.sortKey = k
  · cases hblock : entry.2.blockNumber with
    | none => simp [Matches, hblock]
    | some block =>
      rw [Log.sortKey, hblock, Option.getD_some] at hk
      rw [matches_iff_of_blockNumber hblock range (hk ▸ hin)]
  · have hkey : (entry.2.sortKey == k) = false := beq_false_of_ne hk
    simp only [Function.comp_apply, hkey, Bool.false_and]

/-- The logs of a range are those of a first part of it and then those of the rest. -/
theorem find_append (logs : List (Address × Log)) (query : LogQuery) {stop : Nat}
    (hfirst : query.first ≤ stop + 1) (hlast : stop ≤ query.last) :
    find logs query =
      find logs { query with last := stop } ++ find logs { query with first := stop + 1 } := by
  refine eq_of_slices Log.sortKey (pairwise_mergeSort_key _) ?_ fun k => ?_
  · refine List.pairwise_append.2 ⟨pairwise_mergeSort_key _, pairwise_mergeSort_key _, ?_⟩
    intro a ha b hb
    have hale := (sortKey_of_mem_find ha).2
    have hble := (sortKey_of_mem_find hb).1
    dsimp only at hale hble
    omega
  · rw [slice_append, slice_find, slice_find, slice_find]
    -- a block is either in the first part or in the rest, and the other one has no log of it
    by_cases hk : k ≤ stop
    · have hrest : slice Log.sortKey k (find logs { query with first := stop + 1 }) = [] := by
        refine slice_eq_nil fun a ha => ?_
        have hlt := (sortKey_of_mem_find ha).1
        dsimp only at hlt
        omega
      rw [slice_find] at hrest
      rw [hrest, List.append_nil]
      exact (slice_matching_eq ⟨query.first, stop⟩ (by dsimp only; omega)).symm
    · have hpart : slice Log.sortKey k (find logs { query with last := stop }) = [] := by
        refine slice_eq_nil fun a ha => ?_
        have hle := (sortKey_of_mem_find ha).2
        dsimp only at hle
        omega
      rw [slice_find] at hpart
      rw [hpart, List.nil_append]
      exact (slice_matching_eq ⟨stop + 1, query.last⟩ (by dsimp only; omega)).symm

/-- No log is in an empty range. -/
theorem find_eq_nil (logs : List (Address × Log)) {query : LogQuery}
    (h : query.last < query.first) : find logs query = [] := by
  refine List.eq_nil_iff_forall_not_mem.2 fun log hlog => ?_
  have hin := sortKey_of_mem_find hlog
  omega

/-- **The logs of a window, chunk by chunk**, are the logs of the window, in the same order. -/
theorem find_flatMap_chunks (logs : List (Address × Log)) (query : LogQuery) {size : Nat}
    (hsize : 0 < size) :
    ((Window.chunks ⟨query.first, query.last⟩ size).flatMap fun chunk =>
        find logs { query with first := chunk.first, last := chunk.last }) =
      find logs query := by
  obtain ⟨address, topic, first, last⟩ := query
  rw [Window.chunks]
  dsimp only
  induction first using Window.chunksFrom.induct size last with
  | case1 start hend =>
    rw [Window.chunksFrom, if_pos hend, List.flatMap_nil]
    exact (find_eq_nil logs (hend.resolve_left (Nat.ne_of_gt hsize))).symm
  | case2 start hend stop ih =>
    have hstart : ¬ last < start := fun h => hend (Or.inr h)
    have hstop : start ≤ stop ∧ stop ≤ last := by
      show start ≤ min (start + (size - 1)) last ∧ min (start + (size - 1)) last ≤ last
      omega
    rw [Window.chunksFrom, if_neg hend, List.flatMap_cons, ih]
    exact (find_append logs ⟨address, topic, start, last⟩ (Nat.le_succ_of_le hstop.1) hstop.2).symm

end Recorded

end TokenAudit
