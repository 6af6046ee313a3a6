import TokenAudit.Ledger.Abi
import TokenAudit.Proofs.Ledger.Spellings

/-! # Results in the standard encoding

In the standard encoding a number is a word. A text is the word of the place where its content
stands, which is 32, the word of the length of the content in bytes, and the content, filled up with
zeros to whole words. What is read from a result is what it encodes, and a result that encodes
nothing is refused.

* `IsWordOf`, `Fills` — the word of a number, and the zeros behind a content;
* `IsText`, `IsByte` — the standard encodings of texts and of numbers below 256;
* `isText_iff`, `exists_isText_iff` — what the encoding of a text is, and which texts have one.

Main statements: `decodeText?_eq_some_iff` and `decodeByte?_eq_some_iff_isByte`. -/

namespace TokenAudit.Abi

variable {result bytes filling : List UInt8} {text : String} {n length : Nat}

/-! ## Words -/

/-- Bytes are the word of a number: they are 32, and they spell the number, the first one being the
most significant. -/
structure IsWordOf (n : Nat) (bytes : List UInt8) : Prop where
  length_eq : bytes.length = 32
  spells : Hex.bigEndian bytes = n

/-- The numbers that fit have a word, which is the one that is written. -/
theorem isWordOf_iff : IsWordOf n bytes ↔ n < Word.size ∧ bytes = word n := by
  constructor
  · rintro ⟨hlength, rfl⟩
    exact ⟨bigEndian_lt_size (Nat.le_of_eq hlength), (word_bigEndian hlength).symm⟩
  · rintro ⟨hlt, rfl⟩
    exact ⟨length_word n, bigEndian_word hlt⟩

/-- A result is the standard encoding of a number below 256. -/
def IsByte (n : Nat) (result : List UInt8) : Prop := n < 256 ∧ IsWordOf n result

/-- **A number is read from its standard encoding**, and from nothing else. -/
theorem decodeByte?_eq_some_iff_isByte : decodeByte? result = some n ↔ IsByte n result := by
  rw [decodeByte?_eq_some_iff, IsByte, isWordOf_iff]
  -- a number below 256 fits in a word
  refine and_congr_right fun hn => ?_
  have hsize : n < Word.size := Nat.lt_trans hn (by decide)
  exact (and_iff_right hsize).symm

/-! ## Texts -/

/-- Bytes fill up a content of some length to whole words: they are zeros, and as few as do. -/
structure Fills (length : Nat) (filling : List UInt8) : Prop where
  zeros : ∀ b ∈ filling, b = 0
  few : filling.length < 32
  whole : 32 ∣ length + filling.length

/-- What fills bytes up to whole words are zeros, as many as are missing. -/
theorem fills_iff :
    Fills length filling ↔ filling = List.replicate ((32 - length % 32) % 32) 0 := by
  rw [List.eq_replicate_iff]
  constructor
  · rintro ⟨hzeros, hfew, hwhole⟩
    exact ⟨by omega, hzeros⟩
  · rintro ⟨hlength, hzeros⟩
    exact ⟨hzeros, by omega, by omega⟩

/-- The standard encodings of a text. -/
inductive IsText (text : String) : List UInt8 → Prop
  | encoded {place length filling : List UInt8} (hplace : IsWordOf 32 place)
    (hlength : IsWordOf text.utf8ByteSize length) (hfilling : Fills text.utf8ByteSize filling) :
    IsText text (place ++ length ++ text.toUTF8.toList ++ filling)

/-- The texts whose length fits in a word have an encoding, which is the one that is written. -/
theorem isText_iff :
    IsText text result ↔ text.utf8ByteSize < Word.size ∧ result = encodeText text := by
  have hfill : fill text.toUTF8.toList =
      text.toUTF8.toList ++ List.replicate ((32 - text.utf8ByteSize % 32) % 32) 0 := by
    rw [fill, length_toUTF8]
  -- what is written, in the four parts that the encoding is made of
  have htext : encodeText text = word 32 ++ word text.utf8ByteSize ++ text.toUTF8.toList ++
      List.replicate ((32 - text.utf8ByteSize % 32) % 32) 0 := by
    rw [encodeText, encodeBytes, length_toUTF8, hfill, List.append_assoc _ text.toUTF8.toList]
  constructor
  · rintro ⟨hplace, hlength, hfilling⟩
    obtain ⟨-, rfl⟩ := isWordOf_iff.1 hplace
    obtain ⟨hsize, rfl⟩ := isWordOf_iff.1 hlength
    rw [fills_iff.1 hfilling]
    exact ⟨hsize, htext.symm⟩
  · rintro ⟨hsize, rfl⟩
    rw [htext]
    exact .encoded (isWordOf_iff.2 ⟨by decide, rfl⟩) (isWordOf_iff.2 ⟨hsize, rfl⟩) (fills_iff.2 rfl)

/-- Only the length of a text can keep it from being encoded. -/
theorem exists_isText_iff : (∃ result, IsText text result) ↔ text.utf8ByteSize < Word.size := by
  simp only [isText_iff, exists_eq_right]

/-- Bytes are read as a text exactly if they are those of the text. -/
theorem fromUTF8?_eq_some_iff :
    String.fromUTF8? ⟨bytes.toArray⟩ = some text ↔ bytes = text.toUTF8.toList := by
  rw [toList_eq_data, String.toUTF8_eq_toByteArray]
  constructor
  · intro h
    obtain ⟨hvalid, h⟩ := Option.dite_none_right_eq_some.1 h
    cases h
    rfl
  · rintro rfl
    exact dif_pos text.isValidUTF8

/-- **A text is read from its standard encoding**, and from nothing else. -/
theorem decodeText?_eq_some_iff : decodeText? result = some text ↔ IsText text result := by
  rw [decodeText?, Option.bind_eq_some_iff, isText_iff]
  constructor
  · rintro ⟨bytes, hbytes, htext⟩
    obtain ⟨hsize, rfl⟩ := decodeBytes?_eq_some_iff.1 hbytes
    rw [fromUTF8?_eq_some_iff] at htext
    subst htext
    rw [length_toUTF8] at hsize
    exact ⟨hsize, rfl⟩
  · rintro ⟨hsize, rfl⟩
    have hbytes : text.toUTF8.toList.length < Word.size := by rwa [length_toUTF8]
    exact ⟨_, decodeBytes?_encodeBytes hbytes, fromUTF8?_eq_some_iff.2 rfl⟩

end TokenAudit.Abi
