import TokenAudit.Proofs.Ledger.Spellings
import TokenAudit.Transfer.Event

/-! # Transfers read from logs

Tokens do not all write their logs in the same way: with a mark before the digits or without one, in
capitals or not, with something in the bytes before an account, with more topics or more data. The
transfer is read from all of them.

* `Hex.Spelled` — whether a text is a spelling of some bytes;
* `Transfer.bytesOf?_of_spelled`, `Transfer.accountOf?_of_spelled` — what is read from a spelling.

Main statement: `ofLog_of_spelled`. -/

namespace TokenAudit

namespace Hex

/-! ## Spellings -/

/-- Whether a text is a spelling of some bytes: their digits in any letter case, behind a mark or
without one. -/
def Spelled (text : String) (bytes : List UInt8) : Prop :=
  ∃ mark ∈ ["", "0x", "0X"], ∃ digits, text.toList = mark.toList ++ digits ∧
    digits.map Char.toLower = encode bytes

variable {text : String} {bytes : List UInt8}

/-- Digits do not look like a mark. -/
theorem withoutMark_of_decode? {cs : List Char} (h : decode? cs = some bytes) :
    withoutMark cs = cs := by
  fun_cases withoutMark cs with
  | case1 rest | case2 rest => cases h
  | case3 => rfl

/-- What is left of a spelling without its mark are the digits. -/
theorem Spelled.withoutMark (h : Spelled text bytes) :
    (Hex.withoutMark text.toList).map Char.toLower = encode bytes := by
  obtain ⟨mark, hmark, digits, htext, hdigits⟩ := h
  have hdecode : decode? digits = some bytes := by
    rw [← decode?_map_toLower, hdigits, decode?_encode]
  simp only [List.mem_cons, List.not_mem_nil, or_false] at hmark
  rcases hmark with rfl | rfl | rfl
  · have hbare : text.toList = digits := htext
    rw [hbare, withoutMark_of_decode? hdecode, hdigits]
  · have hmarked : text.toList = '0' :: 'x' :: digits := htext
    rw [hmarked, Hex.withoutMark, hdigits]
  · have hmarked : text.toList = '0' :: 'X' :: digits := htext
    rw [hmarked, Hex.withoutMark, hdigits]

end Hex

namespace Transfer

open Hex (Spelled)

variable {text : String} {bytes : List UInt8}

/-- A spelling is read as the bytes that it spells. -/
theorem bytesOf?_of_spelled (h : Spelled text bytes) : bytesOf? text = some bytes := by
  rw [bytesOf?, ← Hex.decode?_map_toLower, h.withoutMark, Hex.decode?_encode]

/-- An account is read from the last bytes of a word, whatever stands before them. -/
theorem accountOf?_of_spelled {padding : List UInt8} {a : Address} (hpadding : padding.length = 12)
    (h : Spelled text (padding ++ a.bytes)) : accountOf? text = some a := by
  have hlength : (padding ++ a.bytes).length = 32 := by
    rw [List.length_append, hpadding, Address.bytes, Hex.length_bigEndianBytes]
  rw [accountOf?, bytesOf?_of_spelled h]
  dsimp only
  rw [if_pos hlength, List.drop_left' hpadding, Address.ofWord_bytes]

/-- **A transfer is read from every spelling of its log.** It does not matter what the first topic
is and whether others follow the third, what the words of the accounts begin with, and what comes
behind the word of the amount, nor in which letter case each of the texts is and with which mark. -/
theorem ofLog_of_spelled {sender recipient : Address} {amount : Nat} (hamount : amount < Word.size)
    {before before' behind : List UInt8} (hbefore : before.length = 12)
    (hbefore' : before'.length = 12) {event first second data : String} {further : List String}
    {blockNumber : Option Nat} (hfirst : Spelled first (before ++ sender.bytes))
    (hsecond : Spelled second (before' ++ recipient.bytes))
    (hdata : Spelled data (Abi.word amount ++ behind)) :
    ofLog ⟨event :: first :: second :: further, data, blockNumber⟩ =
      .ok ⟨sender, recipient, amount⟩ := by
  -- there are at least the digits of the amount
  have hfull : (Hex.withoutMark data.toList).isEmpty = false := by
    have hlength := congrArg List.length hdata.withoutMark
    rw [List.length_map, Hex.length_encode, List.length_append, Abi.length_word] at hlength
    exact List.isEmpty_eq_false_iff_exists_mem.2 (List.exists_mem_of_length_pos (by omega))
  have hword : Hex.bigEndian ((Abi.word amount ++ behind).take 32) = amount := by
    rw [List.take_left' (Abi.length_word amount), Abi.bigEndian_word hamount]
  rw [ofLog]
  dsimp only
  rw [accountOf?_of_spelled hbefore hfirst, accountOf?_of_spelled hbefore' hsecond,
    bytesOf?_of_spelled hdata]
  dsimp only
  rw [hfull, hword]
  rfl

/-- A log with capitals behind `0X` in one topic, no mark in the other, both cases in the data, and
a byte behind the amount. -/
theorem ofLog_of_spelled_mixed :
    ofLog
      { topics :=
          ["", "0XFFFFFFFFFFFFFFFFFFFFFFFF000000000000000000000000000000000000ABCD",
            "00000000000000000000000000000000000000000000000000000000000000eF", "further"]
        data := "0x00000000000000000000000000000000000000000000000000000000000000Ffa0"
        blockNumber := none } =
      .ok ⟨Address.ofNat 0xABCD, Address.ofNat 0xEF, 255⟩ := by
  have hfirst : Spelled "0XFFFFFFFFFFFFFFFFFFFFFFFF000000000000000000000000000000000000ABCD"
      (List.replicate 12 0xFF ++ (Address.ofNat 0xABCD).bytes) :=
    ⟨"0X", by decide, "FFFFFFFFFFFFFFFFFFFFFFFF000000000000000000000000000000000000ABCD".toList,
      by decide, by decide⟩
  have hsecond : Spelled "00000000000000000000000000000000000000000000000000000000000000eF"
      (List.replicate 12 0 ++ (Address.ofNat 0xEF).bytes) :=
    ⟨"", by decide, "00000000000000000000000000000000000000000000000000000000000000eF".toList,
      by decide, by decide⟩
  have hdata : Spelled "0x00000000000000000000000000000000000000000000000000000000000000Ffa0"
      (Abi.word 255 ++ [0xA0]) :=
    ⟨"0x", by decide, "00000000000000000000000000000000000000000000000000000000000000Ffa0".toList,
      by decide, by decide⟩
  exact ofLog_of_spelled (by decide) rfl rfl hfirst hsecond hdata

end Transfer

end TokenAudit
