import TokenAudit.Decimal.Binary

/-! # Decimal literals

Reading a double from text: an optional sign, then digits with at most one decimal point and at
least one digit, then an optional exponent; or, in any letter case, `inf`, `infinity` or `nan`. The
result is the double nearest to what is written.

* `Literal.parse?` — the double, if the text is a literal;
* `Literal.nearest` — the double nearest to a number with a power of ten. -/

namespace TokenAudit.Literal

/-- Whether a character is one of the ten digits. -/
def isDigit (c : Char) : Bool := '0' ≤ c && c ≤ '9'

/-- The number that decimal digits spell. -/
def number (digits : List Char) : Nat :=
  digits.foldl (fun acc c => 10 * acc + (c.toNat - 48)) 0

/-- The digits at the start of a text and what follows them. -/
def spanDigits (cs : List Char) : List Char × List Char :=
  (cs.takeWhile isDigit, cs.dropWhile isDigit)

/-- An optional sign: whether it is a minus, and what follows. -/
def sign (cs : List Char) : Bool × List Char :=
  match cs with
  | '-' :: rest => (true, rest)
  | '+' :: rest => (false, rest)
  | _ => (false, cs)

/-- The double nearest to the number that `digits` spell times `10 ^ exponent`. Numbers far beyond
the reach of doubles, on either side, are not worked out. -/
def nearest (negative : Bool) (digits : List Char) (exponent : Int) : Float :=
  let significant := digits.dropWhile (· == '0')
  let before := significant.length + exponent
  if significant.isEmpty ∨ before < -330 then Binary.nearest negative 0 1
  else if 310 < before then Binary.nearest negative (Nat.pow 10 400) 1
  else
    Binary.nearest negative (number significant * Nat.pow 10 exponent.toNat)
      (Nat.pow 10 (-exponent).toNat)

/-- An exponent, if the text is one: the letter, an optional sign and digits. No text at all is the
exponent zero. -/
def exponent? (cs : List Char) : Option Int :=
  match cs with
  | [] => some 0
  | c :: rest =>
    let (negative, digits) := sign rest
    if (c = 'e' ∨ c = 'E') ∧ !digits.isEmpty ∧ digits.all isDigit then
      some (if negative then -(number digits) else number digits)
    else none

/-- A double from its literal. -/
def parse? (text : List Char) : Option Float :=
  let (negative, cs) := sign text
  let word := cs.map Char.toLower
  if word = "inf".toList ∨ word = "infinity".toList then
    some (Binary.nearest negative (Nat.pow 10 400) 1)
  else if word = "nan".toList then some (Float.ofBits 0x7FF8000000000000)
  else
    let (whole, rest) := spanDigits cs
    let (fraction, tail) :=
      match rest with
      | '.' :: more => spanDigits more
      | _ => ([], rest)
    if whole.isEmpty ∧ fraction.isEmpty then none
    else
      (exponent? tail).map fun e =>
        nearest negative (whole ++ fraction) (e - fraction.length)

end TokenAudit.Literal
