import TokenAudit.Keccak
import TokenAudit.Text.Hex

/-! # Addresses

An account on the ledger is named by twenty bytes, kept here as one number. As text it is forty
hexadecimal digits, in lower case in records and in **checksum case** in messages and requests:
there a letter is a capital when the digit of the digest of the lower-case text at its place is 8 or
more.

* `Address.toText`, `Address.toChecksum` — the two spellings;
* `Address.parse` — reading either spelling, with or without the mark `0x`;
* `Address.ofWord` — the address in the low twenty bytes of a word. -/

namespace TokenAudit

/-- An account on the ledger: twenty bytes, read as a number. -/
structure Address where
  /-- The number that the twenty bytes spell. -/
  toNat : Nat
  /-- Twenty bytes hold no more. -/
  isLt : toNat < 1 <<< 160
  deriving DecidableEq, Repr

namespace Address

instance : Inhabited Address := ⟨⟨0, by decide⟩⟩

/-- Addresses are the same if their numbers are. -/
@[ext] theorem ext {a b : Address} (h : a.toNat = b.toNat) : a = b := by
  cases a; cases b; cases h; rfl

/-- Addresses are ordered like the numbers their bytes spell. -/
instance : LE Address := ⟨fun a b => a.toNat ≤ b.toNat⟩

instance (a b : Address) : Decidable (a ≤ b) := inferInstanceAs (Decidable (a.toNat ≤ b.toNat))

/-- The address in the low twenty bytes of a number. -/
def ofNat (n : Nat) : Address := ⟨n % 1 <<< 160, Nat.mod_lt _ (by decide)⟩

/-- An address is read back from its number. -/
@[simp] theorem ofNat_toNat (a : Address) : ofNat a.toNat = a :=
  ext (Nat.mod_eq_of_lt a.isLt)

/-- The address in the low twenty bytes of a word of any length. -/
def ofWord (bytes : List UInt8) : Address := ofNat (Hex.bigEndian bytes)

/-- The address whose twenty bytes are all the same. -/
def repeating (b : UInt8) : Address := ofWord (List.replicate 20 b)

/-- The twenty bytes, the most significant first. -/
def bytes (a : Address) : List UInt8 := Hex.bigEndianBytes 20 a.toNat

/-- An address is read back from its bytes. -/
theorem ofWord_bytes (a : Address) : ofWord a.bytes = a := by
  have hlt : a.toNat < 1 <<< (8 * 20) := a.isLt
  rw [ofWord, bytes, Hex.bigEndian_bigEndianBytes_of_lt hlt, ofNat_toNat]

/-! ## Writing -/

/-- The forty digits in lower case. -/
def digits (a : Address) : List Char := Hex.encode a.bytes

/-- The spelling of records: `0x` and forty digits in lower case. -/
def toText (a : Address) : String := String.ofList ('0' :: 'x' :: a.digits)

/-- The digits of a byte string as values, two for each byte. -/
def halves : List UInt8 → List Nat
  | [] => []
  | b :: rest => b.toNat / 16 :: b.toNat % 16 :: halves rest

/-- The spelling of messages and requests: letters are capitals where the digest says so. -/
def toChecksum (a : Address) : String :=
  let digest := Keccak.hash (a.digits.map fun c => UInt8.ofNat c.toNat)
  String.ofList ('0' :: 'x' :: (a.digits.zip (halves digest)).map fun (c, weight) =>
    if 8 ≤ weight then c.toUpper else c)

/-! ## Reading -/

/-- Why a text is no address. -/
inductive Flaw
  /-- The number of digits is odd. -/
  | oddLength
  /-- There are not forty digits. -/
  | badLength
  /-- A byte of the text is not a digit; places are counted after the mark. -/
  | badDigit (byte : UInt8) (place : Nat)
  deriving DecidableEq, Repr

/-- The character whose number a byte is, in quotes. What could not be told apart from the quotes,
or not be seen, is escaped. -/
def quotedByte (byte : UInt8) : String :=
  let c := Char.ofNat byte.toNat
  let spelled :=
    if c = '\x00' then "\\0"
    else if c = '\t' then "\\t"
    else if c = '\n' then "\\n"
    else if c = '\r' then "\\r"
    else if c = '\'' ∨ c = '\\' then "\\" ++ c.toString
    else if c < ' ' ∨ ('\x7f' ≤ c ∧ c ≤ '\xa0') ∨ c = '\xad' then
      "\\u\x7b" ++ String.ofList (Nat.toDigits 16 byte.toNat) ++ "\x7d"
    else c.toString
  "'" ++ spelled ++ "'"

/-- The wording of a flaw. -/
def Flaw.message : Flaw → String
  | .oddLength => "odd number of digits"
  | .badLength => "invalid string length"
  | .badDigit byte place =>
    "invalid character " ++ quotedByte byte ++ " at position " ++ toString place

/-- The first byte of a text that is no digit, with its place. -/
def firstBadDigit : (place : Nat) → List UInt8 → Option (UInt8 × Nat)
  | _, [] => none
  | place, b :: rest =>
    if (Hex.value? (Char.ofNat b.toNat)).isSome then firstBadDigit (place + 1) rest
    else some (b, place)

/-- Reads an address in any letter case, with or without the mark. Length is counted in bytes of the
text and judged before the digits are. -/
def parse (text : String) : Except Flaw Address :=
  let cs := Hex.withoutMark text.toList
  let raw := (String.ofList cs).toUTF8.toList
  if raw.length % 2 = 1 then .error .oddLength
  else if raw.length ≠ 40 then .error .badLength
  else
    match Hex.decode? cs with
    | some bytes => .ok (ofWord bytes)
    | none =>
      match firstBadDigit 0 raw with
      | some (byte, place) => .error (.badDigit byte place)
      | none => .error .badLength

end Address

end TokenAudit
