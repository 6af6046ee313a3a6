import TokenAudit.Text.Hex
import TokenAudit.Text.Search

/-! # Selectors

A contract tells its functions apart by four bytes, the **selector** of a function, which stand
somewhere in its code. Which functions a contract knows is guessed from the selectors that can be
found.

* `Selector.known` — the functions that are looked for;
* `Selector.signaturesIn` — those found in a text of hexadecimal digits. -/

namespace TokenAudit

/-- A function and the bytes that select it. -/
structure Selector where
  /-- The four bytes. -/
  bytes : List UInt8
  /-- The function with the types of its arguments. -/
  signature : String
  deriving DecidableEq, Repr

namespace Selector

/-- The selector as hexadecimal digits. -/
def digits (s : Selector) : List Char := Hex.encode s.bytes

/-- Moving tokens from the caller to another account. -/
def transfer : Selector := ⟨[0xA9, 0x05, 0x9C, 0xBB], "transfer(address,uint256)"⟩

/-- The functions looked for, in the order in which they are reported. -/
def known : List Selector :=
  [transfer,
   ⟨[0x09, 0x5E, 0xA7, 0xB3], "approve(address,uint256)"⟩,
   ⟨[0x23, 0xB8, 0x72, 0xDD], "transferFrom(address,address,uint256)"⟩,
   ⟨[0x40, 0xC1, 0x0F, 0x19], "mint(address,uint256)"⟩,
   ⟨[0x8D, 0xA5, 0xCB, 0x5B], "owner()"⟩,
   ⟨[0x71, 0x50, 0x18, 0xA6], "renounceOwnership()"⟩,
   ⟨[0x6B, 0x5C, 0xAE, 0xC4], "setBot(address)"⟩,
   ⟨[0xDD, 0x62, 0xED, 0x3E], "allowance(address,address)"⟩]

/-- Whether the digits of the selector stand anywhere in a text. -/
def isIn (text : List Char) (s : Selector) : Bool := Text.occursIn s.digits text

/-- The known functions whose selectors stand anywhere in a text. -/
def signaturesIn (text : List Char) : List String := (known.filter (isIn text)).map signature

end Selector

end TokenAudit
