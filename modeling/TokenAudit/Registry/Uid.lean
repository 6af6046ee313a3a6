import TokenAudit.Text.Hex

/-! # Identifiers

Records of the registry are told apart by numbers, written as thirty-two hexadecimal digits in five
groups.

* `Uid.toText`, `Uid.parse?` — writing and reading. -/

namespace TokenAudit

/-- The number of a record. -/
structure Uid where
  /-- The number. -/
  toNat : Nat
  deriving DecidableEq, Repr, Inhabited

namespace Uid

/-- The sizes of the groups of digits. -/
def groups : List Nat := [8, 4, 4, 4, 12]

/-- Cuts digits into groups of the given sizes. -/
def cut : List Nat → List Char → List (List Char)
  | [], _ => []
  | size :: sizes, cs => cs.take size :: cut sizes (cs.drop size)

/-- The text of an identifier. -/
def toText (id : Uid) : String :=
  String.ofList (['-'].intercalate (cut groups (Hex.padded 32 id.toNat)))

/-- The identifier spelled by thirty-two digits. -/
def ofDigits? (digits : List Char) : Option Uid :=
  if digits.length = 32 then (Hex.decode? digits).map fun bytes => ⟨Hex.bigEndian bytes⟩ else none

/-- Reads the grouped form. -/
def parseGrouped? (cs : List Char) : Option Uid :=
  match cut [8, 1, 4, 1, 4, 1, 4, 1, 12] cs with
  | [a, dash₁, b, dash₂, c, dash₃, d, dash₄, e] =>
    if [dash₁, dash₂, dash₃, dash₄].all (· = ['-']) ∧ cs.length = 36 then
      ofDigits? (a ++ b ++ c ++ d ++ e)
    else none
  | _ => none

/-- The mark that may stand before an identifier, in any letter case. -/
def mark : List Char := ['u', 'r', 'n', ':', 'u', 'u', 'i', 'd', ':']

/-- Reads an identifier in any letter case: the digits alone, or grouped, or grouped in braces, or
grouped after `urn:uuid:`. -/
def parse? (text : String) : Option Uid :=
  let cs := text.toList
  if cs.head? = some '\x7b' then
    if cs.getLast? = some '\x7d' then parseGrouped? cs.tail.dropLast else none
  else if (cs.take mark.length).map Char.toLower = mark then parseGrouped? (cs.drop mark.length)
  else if cs.length = 32 then ofDigits? cs else parseGrouped? cs

end Uid

end TokenAudit
