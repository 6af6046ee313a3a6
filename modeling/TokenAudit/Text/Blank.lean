/-! # Blank characters

The characters that count as blank at the ends of a text: those with the Unicode property
`White_Space`. Note that the zero-width space U+200B is not among them.

* `isBlank` — the class;
* `trim` — a text without the blank characters at its ends. -/

namespace TokenAudit.Text

/-- Ranges of the characters with the property `White_Space`. -/
def blankRanges : List (Nat × Nat) :=
  [(0x09, 0x0D), (0x20, 0x20), (0x85, 0x85), (0xA0, 0xA0), (0x1680, 0x1680), (0x2000, 0x200A),
   (0x2028, 0x2029), (0x202F, 0x202F), (0x205F, 0x205F), (0x3000, 0x3000)]

/-- Whether a character lies in one of the ranges. -/
def inRanges (ranges : List (Nat × Nat)) (c : Char) : Bool :=
  ranges.any fun (first, last) => first ≤ c.toNat && c.toNat ≤ last

/-- Whether a character is blank. -/
def isBlank (c : Char) : Bool := inRanges blankRanges c

/-- A text without the blank characters at its ends. -/
def trim (cs : List Char) : List Char :=
  ((cs.dropWhile isBlank).reverse.dropWhile isBlank).reverse

end TokenAudit.Text
