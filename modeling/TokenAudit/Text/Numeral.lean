/-! # Numerals

Reading an unsigned number of a fixed width from text. A numeral is one or more digits of the base,
after an optional plus sign. Of two faults the one further left is reported.

* `Numeral.read` — the number, or why there is none;
* `Numeral.Flaw` — the three reasons. -/

namespace TokenAudit.Numeral

/-- Why a text is no numeral. -/
inductive Flaw
  /-- There is no text at all. -/
  | empty
  /-- A character is not a digit of the base. -/
  | badDigit
  /-- The number does not fit its width. -/
  | tooLarge
  deriving DecidableEq, Repr

/-- The wording of a flaw. -/
def Flaw.message : Flaw → String
  | .empty => "cannot parse integer from empty string"
  | .badDigit => "invalid digit found in string"
  | .tooLarge => "number too large to fit in target type"

/-- The value of an ASCII digit or letter, as in bases up to 36. -/
def digit? (c : Char) : Option Nat :=
  if '0' ≤ c ∧ c ≤ '9' then some (c.toNat - 48)
  else if 'a' ≤ c ∧ c ≤ 'z' then some (c.toNat - 87)
  else if 'A' ≤ c ∧ c ≤ 'Z' then some (c.toNat - 55)
  else none

/-- The value of a digit of `base`. -/
def digitOf? (base : Nat) (c : Char) : Option Nat :=
  (digit? c).filter (· < base)

/-- Extends the number read so far by the digits that follow. -/
def readFrom (base limit : Nat) : Nat → List Char → Except Flaw Nat
  | acc, [] => .ok acc
  | acc, c :: rest =>
    match digitOf? base c with
    | none => .error .badDigit
    | some d =>
      if acc * base + d < limit then readFrom base limit (acc * base + d) rest
      else .error .tooLarge

/-- Reads a number below `limit` in `base`. A plus sign may stand in front of the digits. -/
def read (base limit : Nat) : List Char → Except Flaw Nat
  | [] => .error .empty
  | ['+'] => .error .badDigit
  | '+' :: rest => readFrom base limit 0 rest
  | cs => readFrom base limit 0 cs

/-- The decimal digits of a number. -/
def decimal (n : Nat) : String := toString n

end TokenAudit.Numeral
