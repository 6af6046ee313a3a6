import TokenAudit.Scan.Window

/-! # Chunks one after the other

The chunks of a window follow each other without meeting: each ends before the next begins.

Main statements: `Window.pairwise_chunks` and `Window.eq_of_holds_chunks` (a block is in one chunk
at most). -/

namespace TokenAudit.Window

/-- A chunk lies between the block it is cut from and the last block, and holds a block. -/
theorem bounds_of_mem_chunksFrom {size last start : Nat} {chunk : Window}
    (h : chunk ∈ chunksFrom size last start) :
    start ≤ chunk.first ∧ chunk.first ≤ chunk.last ∧ chunk.last ≤ last := by
  induction start using chunksFrom.induct size last with
  | case1 start hend =>
    rw [chunksFrom, if_pos hend] at h
    cases h
  | case2 start hend stop ih =>
    have hstop : start ≤ stop ∧ stop ≤ last := by
      show start ≤ min (start + (size - 1)) last ∧ min (start + (size - 1)) last ≤ last
      omega
    rw [chunksFrom, if_neg hend, List.mem_cons] at h
    rcases h with rfl | h
    · exact ⟨Nat.le_refl _, hstop⟩
    · have hrest := ih h
      exact ⟨by omega, hrest.2⟩

/-- The chunks come in the order of their blocks, and each ends before the next begins. -/
theorem pairwise_chunks (w : Window) (size : Nat) :
    (w.chunks size).Pairwise fun earlier later => earlier.last < later.first := by
  obtain ⟨first, last⟩ := w
  rw [chunks]
  dsimp only
  induction first using chunksFrom.induct size last with
  | case1 start hend =>
    rw [chunksFrom, if_pos hend]
    exact List.Pairwise.nil
  | case2 start hend stop ih =>
    rw [chunksFrom, if_neg hend]
    exact List.Pairwise.cons (fun chunk h => (bounds_of_mem_chunksFrom h).1) ih

/-- A block is in one chunk at most. -/
theorem eq_of_holds_chunks {w v u : Window} {size block : Nat} (hv : v ∈ w.chunks size)
    (hu : u ∈ w.chunks size) (hvb : v.Holds block) (hub : u.Holds block) : v = u := by
  have hpair := pairwise_chunks w size
  generalize w.chunks size = chunks at hv hu hpair
  induction hpair with
  | nil => cases hv
  | @cons chunk rest hchunk _ ih =>
    -- if just one of the two comes first, it ends before the other begins, and they share no block
    obtain ⟨hvfirst, hvlast⟩ := hvb
    obtain ⟨hufirst, hulast⟩ := hub
    rcases List.mem_cons.1 hv with rfl | hv' <;> rcases List.mem_cons.1 hu with rfl | hu'
    · rfl
    · have hlt := hchunk u hu'
      omega
    · have hlt := hchunk v hv'
      omega
    · exact ih hv' hu'

end TokenAudit.Window
