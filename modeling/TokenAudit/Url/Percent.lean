import TokenAudit.Text.Hex

/-! # Percent signs

A byte that cannot stand in a part of an address is written as a percent sign and two digits. Which
bytes these are depends on the part; those beyond ASCII can stand in none.

* `Percent.encode` — a text with the characters of a class written so;
* `Percent.decode` — the bytes of a text that may hold bytes written so;
* `Percent.fragment`, `Percent.path` and others — the classes of the parts. -/

namespace TokenAudit.Percent

/-- The two digits of a byte, letters being capitals. -/
def escape (b : UInt8) : List Char := '%' :: (Hex.encode [b]).map Char.toUpper

/-- A text in which the characters of a class, and all beyond ASCII, are written byte by byte. -/
def encode (escapes : Char → Bool) (cs : List Char) : List Char :=
  cs.flatMap fun c =>
    if 0x80 ≤ c.toNat ∨ escapes c then (String.utf8EncodeChar c).flatMap escape else [c]

/-- The bytes of a text. A percent sign without two digits stands for itself. -/
def decode : List UInt8 → List UInt8
  | 0x25 :: high :: low :: rest =>
    match Hex.decode? [Char.ofNat high.toNat, Char.ofNat low.toNat] with
    | some bytes => bytes ++ decode rest
    | none => 0x25 :: decode (high :: low :: rest)
  | b :: rest => b :: decode rest
  | [] => []

/-- The text that a text spells, if its bytes are one. -/
def decodeText? (text : String) : Option String :=
  String.fromUTF8? ⟨(decode text.toUTF8.toList).toArray⟩

/-! ## Classes -/

/-- Control characters. -/
def control (c : Char) : Bool := c.toNat < 0x20 || c == '\x7f'

/-- What is written so behind a number sign. -/
def fragment (c : Char) : Bool := control c || [' ', '"', '<', '>', '`'].contains c

/-- What is written so in a question. -/
def query (c : Char) : Bool := control c || [' ', '"', '#', '<', '>'].contains c

/-- What is written so in a question to a well-known scheme. -/
def specialQuery (c : Char) : Bool := query c || c == '\''

/-- What is written so in a path. -/
def path (c : Char) : Bool := fragment c || ['#', '?', '\x7b', '\x7d'].contains c

/-- What is written so in the name and the password of a user. -/
def user (c : Char) : Bool :=
  path c || ['/', ':', ';', '=', '@', '[', '\\', ']', '^', '|'].contains c

end TokenAudit.Percent
