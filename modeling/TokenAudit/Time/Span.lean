/-! # Spans of time

Spans are counted in milliseconds. The longest span falls just short of `2 ^ 64` seconds.

* `Span.add`, `Span.scale` — sums and multiples, which can be too long;
* `Span.scaleUpTo` — multiples that stop at the longest span.

Main statements: `add_eq_ok_iff` and `scale_eq_ok_iff` (a result is the exact one, and there is one
whenever it is not too long). -/

namespace TokenAudit.Span

/-- No span is as long as this. -/
def bound : Nat := 1000 * UInt64.size

/-- How a span becomes too long. -/
inductive Overflow
  | adding
  | scaling
  deriving DecidableEq, Repr

/-- The wording of an overflow. -/
def Overflow.message : Overflow → String
  | .adding => "overflow when adding durations"
  | .scaling => "overflow when multiplying duration by scalar"

/-- Two spans one after the other. -/
def add (a b : Nat) : Except Overflow Nat := if a + b < bound then .ok (a + b) else .error .adding

/-- A span so many times. -/
def scale (a k : Nat) : Except Overflow Nat :=
  if a * k < bound then .ok (a * k) else .error .scaling

/-- A span so many times, or the longest span. -/
def scaleUpTo (a k : Nat) : Nat := min (bound - 1) (a * k)

/-- A sum is a span exactly if it fits. -/
theorem add_eq_ok_iff {a b c : Nat} : add a b = .ok c ↔ a + b < bound ∧ c = a + b := by
  unfold add
  split
  · simp_all [eq_comm]
  · rename_i h
    simp [h]

/-- A multiple is a span exactly if it fits. -/
theorem scale_eq_ok_iff {a k c : Nat} : scale a k = .ok c ↔ a * k < bound ∧ c = a * k := by
  unfold scale
  split
  · simp_all [eq_comm]
  · rename_i h
    simp [h]

end TokenAudit.Span
