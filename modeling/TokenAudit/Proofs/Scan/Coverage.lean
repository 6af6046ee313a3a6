import Mathlib.Algebra.Order.Floor.Div
import TokenAudit.Proofs.Scan.Partition

/-! # Chunks cover their window

The chunks of a window hold each of its blocks once and no other block, and all of them but the last
have the size that was asked for. Numbers of blocks fit into sixty-four bits, and so does every
number that comes up when a window is cut.

* `Window.blocks` — how many blocks a window holds;
* `Window.Cut` — what chunks of one window look like; `Window.Cut.single` and `Window.Cut.cons` cut
  off the last chunk and one of full size, and `Window.cut_chunks` has it of all chunks;
* `Block.plus?`, `Block.minus?` — sums and differences that know when they do not fit;
* `Window.plan?` — the chunks reckoned in sixty-four bits, and `Window.plan?_eq`, they are the same.

Main statement: `Window.chunks_cover`. -/

namespace TokenAudit

namespace Window

/-! ## What chunks look like -/

/-- How many blocks a window holds. -/
def blocks (w : Window) : Nat := w.last + 1 - w.first

/-- What the chunks of a window look like: they begin and end with the window, each holds a block
and at most `size` blocks, all but the last hold just as many, each begins right after the one
before it, every block of the window is in one of them and no other block in any, and there are as
many as are needed. -/
structure Cut (w : Window) (size : Nat) (chunks : List Window) : Prop where
  head : chunks.head?.map Window.first = some w.first
  getLast : chunks.getLast?.map Window.last = some w.last
  bounds : ∀ chunk ∈ chunks, chunk.first ≤ chunk.last ∧ chunk.blocks ≤ size
  full : ∀ chunk ∈ chunks.dropLast, chunk.blocks = size
  adjacent : chunks.IsChain fun earlier later => later.first = earlier.last + 1
  covers : ∀ block, chunks.countP (fun chunk => chunk.Holds block) = if w.Holds block then 1 else 0
  length : chunks.length = w.blocks ⌈/⌉ size

/-- A window that is no larger than a chunk is cut into one. -/
theorem Cut.single {w : Window} {size : Nat} (hfirst : w.first ≤ w.last) (hsize : w.blocks ≤ size) :
    w.Cut size [w] where
  head := rfl
  getLast := rfl
  bounds chunk hchunk := by
    rw [List.mem_singleton.1 hchunk]
    exact ⟨hfirst, hsize⟩
  full chunk hchunk := by cases hchunk
  adjacent := .singleton w
  covers block := by by_cases h : w.Holds block <;> simp [h]
  length := by
    have hpos : 0 < w.blocks := by unfold blocks; omega
    rw [List.length_singleton, Nat.ceilDiv_eq_add_pred_div]
    exact (Nat.div_eq_of_lt_le (by omega) (by omega)).symm

/-- A window that is larger than a chunk is cut into one of full size and the chunks of the rest. -/
theorem Cut.cons {first last size : Nat} {chunks : List Window} (hsize : 0 < size)
    (hlast : first + size ≤ last) (h : Cut ⟨first + size, last⟩ size chunks) :
    Cut ⟨first, last⟩ size (⟨first, first + size - 1⟩ :: chunks) := by
  -- there are chunks of the rest, since they begin where the rest begins
  obtain ⟨next, others, rfl⟩ : ∃ next others, chunks = next :: others := by
    cases chunks with
    | nil => exact absurd h.head nofun
    | cons next others => exact ⟨next, others, rfl⟩
  have hnext : next.first = first + size := Option.some.inj h.head
  have hfull : blocks ⟨first, first + size - 1⟩ = size := by
    unfold blocks
    dsimp only
    omega
  constructor
  · rfl
  · rw [List.getLast?_cons_cons]
    exact h.getLast
  · intro chunk hchunk
    rcases List.mem_cons.1 hchunk with rfl | hrest
    · exact ⟨by dsimp only; omega, Nat.le_of_eq hfull⟩
    · exact h.bounds chunk hrest
  · intro chunk hchunk
    rw [List.dropLast_cons_cons] at hchunk
    rcases List.mem_cons.1 hchunk with rfl | hrest
    · exact hfull
    · exact h.full chunk hrest
  · refine List.IsChain.cons_cons ?_ h.adjacent
    dsimp only
    omega
  · intro block
    rw [List.countP_cons, h.covers]
    -- a block is either in the first chunk or in the rest of the window
    have hsplit : Holds ⟨first, last⟩ block ↔
        Holds ⟨first, first + size - 1⟩ block ∨ Holds ⟨first + size, last⟩ block := by
      unfold Holds
      dsimp only
      omega
    have hapart : ¬ (Holds ⟨first, first + size - 1⟩ block ∧ Holds ⟨first + size, last⟩ block) := by
      unfold Holds
      dsimp only
      omega
    by_cases hone : Holds ⟨first, first + size - 1⟩ block
    · have hrest : ¬ Holds ⟨first + size, last⟩ block := fun hrest => hapart ⟨hone, hrest⟩
      simp [hsplit, hone, hrest]
    · simp [hsplit, hone]
  · have hblocks : blocks ⟨first, last⟩ = blocks ⟨first + size, last⟩ + size := by
      unfold blocks
      dsimp only
      omega
    rw [List.length_cons, h.length, Nat.ceilDiv_eq_add_pred_div, Nat.ceilDiv_eq_add_pred_div,
      hblocks,
      show blocks ⟨first + size, last⟩ + size + size - 1 =
        blocks ⟨first + size, last⟩ + size - 1 + size by omega,
      Nat.add_div_right _ hsize]

/-- Nothing is cut from an empty window, or into chunks without blocks. -/
theorem chunksFrom_eq_nil {size last start : Nat} (h : last < start ∨ size = 0) :
    chunksFrom size last start = [] := by
  rw [chunksFrom, if_pos h.symm]

/-- The first chunk that is cut from a window, and those after it. -/
theorem chunksFrom_eq_cons {size last start : Nat} (stop : Nat) (hsize : 0 < size)
    (hstart : start ≤ last) (hstop : stop = min (start + (size - 1)) last) :
    chunksFrom size last start = ⟨start, stop⟩ :: chunksFrom size last (stop + 1) := by
  have hsome : ¬ (size = 0 ∨ last < start) := by omega
  rw [chunksFrom, if_neg hsome, hstop]

/-- **The chunks of every window** that holds a block look as they should. -/
theorem cut_chunks {w : Window} {size : Nat} (hw : w.first ≤ w.last) (hsize : 0 < size) :
    w.Cut size (w.chunks size) := by
  obtain ⟨first, last⟩ := w
  rw [chunks]
  dsimp only at hw ⊢
  induction first using chunksFrom.induct size last with
  | case1 start hend => omega
  | case2 start hend stop ih =>
    by_cases hlast : last < start + size
    · -- the first chunk reaches the end of the window, and nothing is left to be cut
      rw [chunksFrom_eq_cons last hsize hw (by omega), chunksFrom_eq_nil (Or.inl (by omega))]
      refine Cut.single hw ?_
      unfold blocks
      dsimp only
      omega
    · have hstop : stop = start + size - 1 := by
        show min (start + (size - 1)) last = _
        omega
      have hnext : stop + 1 = start + size := by omega
      have hrest := ih (by omega)
      rw [chunksFrom_eq_cons stop hsize hw rfl]
      change Cut ⟨start, last⟩ size (⟨start, stop⟩ :: chunksFrom size last (stop + 1))
      rw [hnext] at hrest ⊢
      rw [hstop]
      exact Cut.cons hsize (by omega) hrest

end Window

/-! ## Sixty-four bits -/

namespace Block

/-- The sum of two numbers, if it fits. -/
def plus? (a b : UInt64) : Option UInt64 :=
  if a.toNat + b.toNat < UInt64.size then some (a + b) else none

/-- The difference of two numbers, if there is one. -/
def minus? (a b : UInt64) : Option UInt64 := if b ≤ a then some (a - b) else none

/-- The sum of two numbers, or the greatest number if it does not fit. -/
def plusUpTo (a b : UInt64) : UInt64 := (plus? a b).getD (.ofNat (UInt64.size - 1))

/-- A sum that fits is the sum. -/
theorem toNat_of_plus? {a b c : UInt64} (h : plus? a b = some c) : c.toNat = a.toNat + b.toNat := by
  obtain ⟨hfits, hsum⟩ := Option.ite_none_right_eq_some.1 h
  cases hsum
  rw [UInt64.toNat_add]
  exact Nat.mod_eq_of_lt hfits

/-- What fits has a sum. -/
theorem exists_plus? {a b : UInt64} (h : a.toNat + b.toNat < UInt64.size) :
    ∃ c, plus? a b = some c :=
  ⟨a + b, if_pos h⟩

/-- A difference is what is missing. -/
theorem toNat_of_minus? {a b c : UInt64} (h : minus? a b = some c) :
    c.toNat + b.toNat = a.toNat := by
  obtain ⟨hle, hdifference⟩ := Option.ite_none_right_eq_some.1 h
  cases hdifference
  rw [UInt64.toNat_sub_of_le a b hle]
  exact Nat.sub_add_cancel hle

/-- A number that is no greater can be taken away. -/
theorem exists_minus? {a b : UInt64} (h : b ≤ a) : ∃ c, minus? a b = some c :=
  ⟨a - b, if_pos h⟩

/-- A sum stops at the greatest number. -/
theorem toNat_plusUpTo (a b : UInt64) :
    (plusUpTo a b).toNat = min (a.toNat + b.toNat) (UInt64.size - 1) := by
  unfold plusUpTo
  by_cases h : a.toNat + b.toNat < UInt64.size
  · obtain ⟨c, hc⟩ := exists_plus? h
    rw [hc, Option.getD_some, toNat_of_plus? hc]
    omega
  · have hlast : (UInt64.ofNat (UInt64.size - 1)).toNat = UInt64.size - 1 := by decide
    rw [plus?, if_neg h, Option.getD_none, hlast]
    omega

/-- Such a sum is never below what was added to. -/
theorem le_plusUpTo (a b : UInt64) : a ≤ plusUpTo a b := by
  have ha : a.toNat < UInt64.size := a.toNat_lt
  rw [UInt64.le_iff_toNat_le, toNat_plusUpTo]
  omega

end Block

namespace Window

/-- The chunks of at most `size` blocks from the block `start` on up to `last`, reckoned in
sixty-four bits; nothing if a number does not fit. What comes after the last block is not
reckoned. -/
def planFrom? (size last start : UInt64) : Option (List Window) :=
  match Block.minus? size 1 with
  | none => none
  | some more =>
    let reach := Block.plusUpTo start more
    if _h : last ≤ reach then some [⟨start.toNat, last.toNat⟩]
    else
      match _hnext : Block.plus? reach 1 with
      | none => none
      | some next => (planFrom? size last next).map (⟨start.toNat, reach.toNat⟩ :: ·)
termination_by last.toNat - start.toNat
decreasing_by
  have hnext : next.toNat = (Block.plusUpTo start more).toNat + 1 := Block.toNat_of_plus? _hnext
  have hlast : (Block.plusUpTo start more).toNat < last.toNat := UInt64.not_le.1 _h
  have hreach : start.toNat ≤ (Block.plusUpTo start more).toNat := Block.le_plusUpTo start more
  omega

/-- The chunks of a window, reckoned in sixty-four bits; nothing if a number does not fit. -/
def plan? (first last size : UInt64) : Option (List Window) :=
  if last < first ∨ size = 0 then some [] else planFrom? size last first

/-- Cutting reckoned in sixty-four bits does not fail, and cuts as reckoning without a bound
does. -/
theorem planFrom?_eq {size last start : UInt64} (hsize : 1 ≤ size) (hstart : start ≤ last) :
    planFrom? size last start = some (chunksFrom size.toNat last.toNat start.toNat) := by
  have hpos : 1 ≤ size.toNat := hsize
  fun_induction planFrom? size last start with
  | case1 start hnone =>
    obtain ⟨more, hmore⟩ := Block.exists_minus? hsize
    rw [hmore] at hnone
    cases hnone
  | case2 start more hmore reach hlast =>
    have hmore : more.toNat + 1 = size.toNat := Block.toNat_of_minus? hmore
    have hreach : reach.toNat = min (start.toNat + more.toNat) (UInt64.size - 1) :=
      Block.toNat_plusUpTo start more
    have hstop : last.toNat ≤ reach.toNat := hlast
    have hstart : start.toNat ≤ last.toNat := hstart
    -- nothing is left behind the last block
    rw [chunksFrom_eq_cons last.toNat hpos hstart (by omega),
      chunksFrom_eq_nil (Or.inl (Nat.lt_succ_self _))]
  | case3 start more hmore reach hlast hnone =>
    have hstop : reach.toNat < last.toNat := UInt64.not_le.1 hlast
    have hfits : last.toNat < UInt64.size := last.toNat_lt
    obtain ⟨next, hnext⟩ :=
      Block.exists_plus? (a := reach) (b := 1) (Nat.lt_of_le_of_lt hstop hfits)
    rw [hnext] at hnone
    cases hnone
  | case4 start more hmore reach hlast next hnext ih =>
    have hmore : more.toNat + 1 = size.toNat := Block.toNat_of_minus? hmore
    have hreach : reach.toNat = min (start.toNat + more.toNat) (UInt64.size - 1) :=
      Block.toNat_plusUpTo start more
    have hstop : reach.toNat < last.toNat := UInt64.not_le.1 hlast
    have hfits : last.toNat < UInt64.size := last.toNat_lt
    have hnext : next.toNat = reach.toNat + 1 := Block.toNat_of_plus? hnext
    have hstart : start.toNat ≤ last.toNat := hstart
    have hle : next ≤ last := by
      rw [UInt64.le_iff_toNat_le]
      omega
    -- the first chunk ends before the window does, so its end is not cut off by the bound
    have hfirst : reach.toNat = min (start.toNat + (size.toNat - 1)) last.toNat := by omega
    rw [ih hle, Option.map_some, chunksFrom_eq_cons reach.toNat hpos hstart hfirst, hnext]

/-- **The chunks of a window reckoned in sixty-four bits** are those reckoned without a bound: no
number on the way is too large. -/
theorem plan?_eq (first last size : UInt64) :
    plan? first last size = some (chunks ⟨first.toNat, last.toNat⟩ size.toNat) := by
  unfold plan?
  by_cases hnone : last < first ∨ size = 0
  · have hempty : last.toNat < first.toNat ∨ size.toNat = 0 := by
      refine hnone.imp id fun hzero => ?_
      rw [hzero]
      rfl
    rw [if_pos hnone, chunks, chunksFrom_eq_nil hempty]
  · obtain ⟨hfirst, hsize⟩ := not_or.1 hnone
    have hone : 1 ≤ size := UInt64.not_lt.1 fun hlt => hsize (UInt64.lt_one_iff.1 hlt)
    rw [if_neg hnone, planFrom?_eq hone (UInt64.not_lt.1 hfirst), chunks]

/-! ## The chunks of a window -/

/-- **Chunks cover their window.** Reckoned in sixty-four bits the chunks of a window come out, and
no number on the way is too large. If the window holds a block and chunks may hold one, the chunks
begin and end with the window, each holds a block and at most as many as it may, all but the last
just as many, each begins right after the one before it, every block of the window is in just one of
them and no other block is in any, and there are as many as it takes. Otherwise there are none. -/
theorem chunks_cover (first last size : UInt64) :
    let w : Window := ⟨first.toNat, last.toNat⟩
    plan? first last size = some (w.chunks size.toNat) ∧
    (first ≤ last → 1 ≤ size → w.Cut size.toNat (w.chunks size.toNat)) ∧
    (last < first ∨ size = 0 → w.chunks size.toNat = []) := by
  intro w
  have hplan : plan? first last size = some (w.chunks size.toNat) := plan?_eq first last size
  refine ⟨hplan, fun hfirst hsize => cut_chunks hfirst hsize, fun hnone => ?_⟩
  -- where there is nothing to cut, nothing is reckoned
  rw [plan?, if_pos hnone] at hplan
  exact (Option.some.inj hplan).symm

/-- Two chunks up to the greatest number of sixty-four bits, the last one shorter. -/
example : plan? 18446744073709551611 18446744073709551615 3 =
    some [⟨18446744073709551611, 18446744073709551613⟩,
      ⟨18446744073709551614, 18446744073709551615⟩] := by
  cbv

end Window

end TokenAudit
