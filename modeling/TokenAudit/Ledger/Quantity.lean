import TokenAudit.Fault
import TokenAudit.Text.Numeral

/-! # Quantities

Numbers of 64 bits travel to and from the ledger as **quantities**: the mark `0x` and hexadecimal
digits.

* `Quantity.write` — the quantity of a number, without leading zeros;
* `Quantity.read` — the number of a quantity. -/

namespace TokenAudit.Quantity

/-- The quantity of a number. -/
def write (n : Nat) : String := String.ofList ('0' :: 'x' :: Hex.ofNat n)

/-- Why a text is no quantity. -/
inductive Flaw
  /-- The mark is missing. -/
  | unmarked (text : String)
  /-- Nothing follows the mark. -/
  | empty
  /-- What follows the mark is no number of 64 bits. -/
  | unreadable (text : String)
  deriving DecidableEq, Repr

/-- The wording of a flaw. -/
def Flaw.message : Flaw → String
  | .unmarked text => "Not a hex quantity: " ++ text
  | .empty => "Empty hex quantity"
  | .unreadable text => "Invalid hex quantity: " ++ text

/-- A text that is no quantity makes an answer that cannot be understood. -/
def Flaw.fault (flaw : Flaw) : Fault := .invalidResponse flaw.message

/-- What follows the mark `0x` or `0X`, if the text starts with it. -/
def marked? : List Char → Option (List Char)
  | '0' :: 'x' :: rest => some rest
  | '0' :: 'X' :: rest => some rest
  | _ => none

/-- The number of a quantity. -/
def read (text : String) : Except Flaw Nat :=
  match marked? text.toList with
  | none => .error (.unmarked text)
  | some [] => .error .empty
  | some digits =>
    match Numeral.read 16 UInt64.size digits with
    | .ok n => .ok n
    | .error _ => .error (.unreadable text)

end TokenAudit.Quantity
