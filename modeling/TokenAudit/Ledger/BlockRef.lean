import TokenAudit.Ledger.Quantity
import TokenAudit.Text.Blank
import TokenAudit.Text.Lowercase

/-! # Block references

How a user names a block: by its number, or by one of three words.

* `BlockRef.parse`, `BlockRef.toText` — reading and showing;
* `BlockRef.resolve` — the number, unless the reference means the head of the chain. -/

namespace TokenAudit

/-- A block as named by a user. -/
inductive BlockRef
  | number (n : Nat)
  | earliest
  | latest
  | pending
  deriving DecidableEq, Repr

namespace BlockRef

/-- The block that is meant; none stands for the head of the chain. -/
def resolve : BlockRef → Option Nat
  | .number n => some n
  | .earliest => some 0
  | .latest | .pending => none

/-- The reference as it is shown. -/
def toText : BlockRef → String
  | .number n => Numeral.decimal n
  | .earliest => "earliest"
  | .latest => "latest"
  | .pending => "pending"

/-- The references that are words. -/
def words : List (String × BlockRef) :=
  [("latest", .latest), ("earliest", .earliest), ("pending", .pending)]

/-- The number of a block, in decimal digits or in hexadecimal ones after a mark. -/
def readNumber (cs : List Char) : Except Numeral.Flaw Nat :=
  match Quantity.marked? cs with
  | some digits => Numeral.read 16 UInt64.size digits
  | none => Numeral.read 10 UInt64.size cs

/-- Reads a reference. Blanks around it do not matter, nor does the letter case of words. -/
def parse (text : String) : Except Fault BlockRef :=
  let cs := Text.trim text.toList
  match words.lookup (Text.lowercase (String.ofList cs)) with
  | some ref => .ok ref
  | none =>
    match readNumber cs with
    | .ok n => .ok (.number n)
    | .error _ => .error (.invalidValue ("Invalid block reference: " ++ String.ofList cs))

end BlockRef

end TokenAudit
