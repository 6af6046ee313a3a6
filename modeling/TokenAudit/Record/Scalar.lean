import TokenAudit.Address
import TokenAudit.Json.Decoder
import TokenAudit.Ledger.Quantity
import TokenAudit.Registry.Uid
import TokenAudit.Time.Moment
import TokenAudit.Word

/-! # Plain values in records

Accounts, words of 256 bits, identifiers and moments are texts in records. Reading is more liberal
than writing. -/

namespace TokenAudit

open Json (Decoder Reading)

/-! ## Accounts -/

/-- An account as JSON. -/
def Address.toJson (a : Address) : Json := .str a.toText

/-- One byte. -/
def decodeByte : Decoder UInt8 := fun r => (Decoder.nat 8 r).map UInt8.ofNat

/-- What a list of bytes comes to that goes on behind its last byte with something that is no byte:
nothing is amiss if the list ends right where a reader of one more byte gets stuck. Nothing but a
plain value is read by then, except that in a value that was taken whole one item more is passed
over, whatever it is. -/
def endOfBytes (within : Bool) (item : Reading) (rest : List Reading) (stop : Option Json.Flaw) :
    Except Json.Problem Unit :=
  if !rest.isEmpty then .error .malformed
  else
    match item with
    | .arr _ _ | .obj _ _ => if within then .ok () else .error .malformed
    | .broken place =>
      match place.left.map Json.skip with
      | none | some (']' :: _) => Json.report stop
      | some [] => .error .ended
      | some (_ :: _) => .error .malformed
    | _ => Json.report stop

/-- An account as a list of bytes: twenty of them. What may follow as one more item is no byte. -/
def Address.ofItems (within : Bool) : (count : Nat) → (bytes : List UInt8) → List Reading →
    Option Json.Flaw → Except Json.Problem Address
  | _ + 1, _, [], stop => do
    Json.report stop
    throw .wrongShape
  | count + 1, bytes, r :: rest, stop => do
    let b ← decodeByte r
    Address.ofItems within count (bytes ++ [b]) rest stop
  | 0, bytes, [], stop => do
    Json.report stop
    return Address.ofWord bytes
  | 0, bytes, r :: rest, stop =>
    match decodeByte r with
    | .ok _ => .error .wrongShape
    | .error _ => do
      endOfBytes within r rest stop
      return Address.ofWord bytes

/-- An account: its text, with or without the mark, or the list of its bytes; `within` says that it
stands in a value that was taken whole. -/
def Address.decodeWithin (within : Bool) : Decoder Address
  | .str s =>
    match Address.parse s with
    | .ok a => .ok a
    | .error _ => .error .wrongShape
  | .arr items stop => Address.ofItems within 20 [] items stop
  | r => .error r.other

/-- An account in a text. -/
def Address.decode : Decoder Address := Address.decodeWithin false

/-! ## Words -/

/-- A word of 256 bits as JSON. -/
def wordJson (n : Nat) : Json := .str (Quantity.write n)

/-- Reads digits of a base into a number of 256 bits. Underscores between them do not count. -/
def readWord (base : Nat) (digits : List Char) : Option Nat :=
  match digits.filter (· ≠ '_') with
  | [] => some 0
  | digits => (Numeral.readFrom base Word.size 0 digits).toOption

/-- The number in a text: decimal, or after a mark in base two, eight or sixteen. -/
def wordOfText (text : String) : Option Nat :=
  match text.toList with
  | '0' :: 'x' :: rest | '0' :: 'X' :: rest => readWord 16 rest
  | '0' :: 'o' :: rest | '0' :: 'O' :: rest => readWord 8 rest
  | '0' :: 'b' :: rest | '0' :: 'B' :: rest => readWord 2 rest
  | cs => readWord 10 cs

/-- A word of 256 bits: a text with its digits, or a number. -/
def decodeWord : Decoder Nat
  | .str s =>
    match wordOfText s with
    | some n => .ok n
    | none => .error .wrongShape
  | r => Decoder.nat 64 r

/-! ## Identifiers and moments -/

/-- An identifier as JSON. -/
def Uid.toJson (id : Uid) : Json := .str id.toText

/-- A text that has to be of a certain form. -/
def decodeText {α : Type} (read : String → Option α) : Decoder α := fun r => do
  match read (← Decoder.str r) with
  | some a => return a
  | none => throw .wrongShape

/-- An identifier. -/
def Uid.decode : Decoder Uid := decodeText Uid.parse?

/-- A moment as JSON. -/
def Moment.toJson (m : Moment) : Json := .str m.toText

/-- A moment. -/
def Moment.decode : Decoder Moment := decodeText Moment.parse?

end TokenAudit
