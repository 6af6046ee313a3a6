import TokenAudit.Text.Hex
import TokenAudit.Word

/-! # Results of calls

How contracts write texts and small numbers into the results of calls: in words of 32 bytes. A text
is the place of its content, the length of the content, and the content filled up with zeros to
whole words. A result is accepted only if it is written exactly so.

* `Abi.encodeText`, `Abi.encodeByte` — writing;
* `Abi.decodeText?`, `Abi.decodeByte?` — reading.

Main statements: `decodeBytes?_eq_some_iff` and `decodeByte?_eq_some_iff` (reading accepts exactly
what writing produces). -/

namespace TokenAudit.Abi

/-- A number as a word. -/
def word (n : Nat) : List UInt8 := Hex.bigEndianBytes 32 n

/-- Bytes filled up with zeros to whole words. -/
def fill (bytes : List UInt8) : List UInt8 :=
  bytes ++ List.replicate ((32 - bytes.length % 32) % 32) 0

/-- The content of a text as the result of a call. -/
def encodeBytes (bytes : List UInt8) : List UInt8 := word 32 ++ word bytes.length ++ fill bytes

/-- A text as the result of a call. -/
def encodeText (text : String) : List UInt8 := encodeBytes text.toUTF8.toList

/-- The content of a text in the result of a call. -/
def decodeBytes? (result : List UInt8) : Option (List UInt8) :=
  let size := Hex.bigEndian ((result.drop 32).take 32)
  let bytes := (result.drop 64).take size
  if encodeBytes bytes = result then some bytes else none

/-- A text in the result of a call. -/
def decodeText? (result : List UInt8) : Option String :=
  (decodeBytes? result).bind fun bytes => String.fromUTF8? ⟨bytes.toArray⟩

/-- A number below 256 as the result of a call. -/
def encodeByte (n : Nat) : List UInt8 := word n

/-- A number below 256 in the result of a call. -/
def decodeByte? (result : List UInt8) : Option Nat :=
  let n := Hex.bigEndian result
  if result.length = 32 ∧ n < 256 then some n else none

/-! ## Reading against writing -/

/-- A word takes 32 bytes. -/
@[simp] theorem length_word (n : Nat) : (word n).length = 32 := Hex.length_bigEndianBytes 32 n

/-- A number is read back from its word. -/
theorem bigEndian_word {n : Nat} (h : n < Word.size) : Hex.bigEndian (word n) = n :=
  Hex.bigEndian_bigEndianBytes_of_lt h

/-- A word of 32 bytes is that of the number it is read as. -/
theorem word_bigEndian {bytes : List UInt8} (h : bytes.length = 32) :
    word (Hex.bigEndian bytes) = bytes := Hex.bigEndianBytes_bigEndian h

/-- What is read from at most 32 bytes is a word. -/
theorem bigEndian_lt_size {bytes : List UInt8} (h : bytes.length ≤ 32) :
    Hex.bigEndian bytes < Word.size := by
  have hlt := Hex.bigEndian_lt bytes
  rw [Word.size]
  rw [Nat.shiftLeft_eq, Nat.one_mul] at hlt ⊢
  exact Nat.lt_of_lt_of_le hlt <|
    Nat.pow_le_pow_right (by decide) (show 8 * bytes.length ≤ 256 by omega)

/-- Bytes are read back from what they were encoded as. -/
theorem decodeBytes?_encodeBytes {bytes : List UInt8} (h : bytes.length < Word.size) :
    decodeBytes? (encodeBytes bytes) = some bytes := by
  have hsize : ((encodeBytes bytes).drop 32).take 32 = word bytes.length := by
    simp [encodeBytes, List.append_assoc]
  have hrest : (encodeBytes bytes).drop 64 = fill bytes := by
    simp [encodeBytes, List.drop_append]
  simp [decodeBytes?, hsize, hrest, bigEndian_word h, fill]

/-- Bytes are read from nothing but what they are encoded as. -/
theorem decodeBytes?_eq_some_iff {result bytes : List UInt8} :
    decodeBytes? result = some bytes ↔ bytes.length < Word.size ∧ result = encodeBytes bytes := by
  constructor
  · intro h
    simp only [decodeBytes?, Option.ite_none_right_eq_some, Option.some.injEq] at h
    obtain ⟨henc, rfl⟩ := h
    refine ⟨Nat.lt_of_le_of_lt (List.length_take_le _ _) (bigEndian_lt_size ?_), henc.symm⟩
    exact List.length_take_le _ _
  · rintro ⟨h, rfl⟩
    exact decodeBytes?_encodeBytes h

/-- A byte is read from nothing but what it is encoded as. -/
theorem decodeByte?_eq_some_iff {result : List UInt8} {n : Nat} :
    decodeByte? result = some n ↔ n < 256 ∧ result = encodeByte n := by
  constructor
  · intro h
    simp only [decodeByte?, Option.ite_none_right_eq_some, Option.some.injEq] at h
    obtain ⟨⟨hlen, hn⟩, rfl⟩ := h
    exact ⟨hn, (word_bigEndian hlen).symm⟩
  · rintro ⟨h, rfl⟩
    have hw : n < Word.size := Nat.lt_trans h (by decide)
    simp [decodeByte?, encodeByte, bigEndian_word hw, h]

end TokenAudit.Abi
