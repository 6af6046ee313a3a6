/-! # Windows

A range of blocks, both ends counted. A window is asked for in **chunks**, since endpoints refuse
requests for too many blocks at once.

* `Window.chunks` — the chunks of a window, one after the other, all of one size but the last. -/

namespace TokenAudit

/-- A range of blocks, both ends counted; it is empty if the last block comes before the first. -/
structure Window where
  /-- The first block. -/
  first : Nat
  /-- The last block. -/
  last : Nat
  deriving DecidableEq, Repr, Inhabited

namespace Window

/-- Whether a block is in the window. -/
def Holds (w : Window) (block : Nat) : Prop := w.first ≤ block ∧ block ≤ w.last

instance (w : Window) (block : Nat) : Decidable (w.Holds block) :=
  inferInstanceAs (Decidable (_ ∧ _))

/-- Whether two windows meet, judged by their ends. -/
def overlaps (v w : Window) : Bool := v.first ≤ w.last && w.first ≤ v.last

/-- Chunks of at most `size` blocks from the block `start` on up to `last`. -/
def chunksFrom (size last start : Nat) : List Window :=
  if size = 0 ∨ last < start then []
  else
    let stop := min (start + (size - 1)) last
    ⟨start, stop⟩ :: chunksFrom size last (stop + 1)
termination_by last + 1 - start

/-- The chunks of a window; none if it is empty or chunks may hold no block. -/
def chunks (w : Window) (size : Nat) : List Window := chunksFrom size w.last w.first

end Window

end TokenAudit
