import TokenAudit.Decimal.Shortest

/-! # Entropy

How evenly the 256 byte values are spread over a code, in bits for each byte: from zero for one
value only up to eight for all of them alike.

* `Code.entropy` — the figure, rounded to two places. -/

namespace TokenAudit.Code

/-- How often each byte value occurs, in the order of the values. -/
def tally (bytes : List UInt8) : List Nat :=
  (List.range 256).map fun value => bytes.count (UInt8.ofNat value)

/-- What a byte value with share `p` adds to the entropy. -/
def surprise (p : Float) : Float := -p * p.log2

/-- The entropy of a code in bits for each byte, rounded to two places. The summands are taken in
the order of the byte values, and the sum starts from the negative zero, so that code made of one
value has that entropy; empty code has the entropy zero. -/
def entropy (bytes : List UInt8) : Float :=
  if bytes.isEmpty then 0.0
  else
    let total := bytes.length.toFloat
    let counts := (tally bytes).filter (0 < ·)
    let sum := counts.foldl (fun sum count => sum + surprise (count.toFloat / total)) (-0.0)
    Decimal.roundToCents sum

end TokenAudit.Code
