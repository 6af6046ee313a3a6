import TokenAudit.Proofs.Code.Checks

/-! # Selectors in digits and in bytes

Selectors are searched for in the digits of a code, of which every byte has two. What is found may
therefore start at the second digit of a byte, where none of the bytes of the selector need stand in
the code: the digits of `0A 90 59 CB B0` hold those of `A9 05 9C BB`. So each function whose
selector is in the code is reported, but not only those.

* `Hex.Astride` — whether the digits of a word stand among those of some bytes half a byte off;
* `Hex.encode_prefix_iff`, `Hex.encode_infix_iff` — where the digits of a word stand among those of
  some bytes;
* `Selector.isIn_encode_iff` — a selector is found in either of two ways.

Main statement: `selectors_listed`, and `selectors_listed_astride` against the bytes alone. -/

namespace TokenAudit

namespace Hex

variable {word bytes rest : List UInt8} {b : UInt8}

/-! ## Digits among digits -/

/-- Whether the digits of some bytes are those of a word with one more at either end. -/
def Encloses (window word : List UInt8) : Prop :=
  ∃ first last, encode window = first :: (encode word ++ [last])

/-- Whether a word stands among some bytes half a byte off: bytes that follow one another enclose
it. -/
def Astride (word bytes : List UInt8) : Prop := ∃ window, window <:+: bytes ∧ Encloses window word

/-- Different bytes have different digits, since they are read back. -/
theorem encode_inj : encode word = encode bytes ↔ word = bytes := by
  constructor
  · intro h
    have hdecode := congrArg decode? h
    rwa [decode?_encode, decode?_encode, Option.some.injEq] at hdecode
  · exact congrArg encode

/-- The first bytes have the first digits, two for each. -/
theorem encode_take (count : Nat) :
    encode (bytes.take count) = (encode bytes).take (2 * count) := by
  induction bytes generalizing count with
  | nil => simp [encode]
  | cons b rest ih =>
    cases count with
    | zero => rfl
    | succ count => simp [encode, ih, Nat.mul_succ]

/-- The digits of bytes begin with those of a word if the bytes begin with the word. -/
theorem encode_prefix_iff : encode word <+: encode bytes ↔ word <+: bytes := by
  constructor
  · intro h
    have htake := List.prefix_iff_eq_take.1 h
    rw [length_encode, ← encode_take] at htake
    exact encode_inj.1 htake ▸ List.take_prefix ..
  · rintro ⟨more, rfl⟩
    rw [encode_append]
    exact List.prefix_append ..

/-- The digits of a word start at the second digit of a byte if bytes from this one on enclose
it. -/
theorem encode_prefix_second_iff :
    encode word <+: digit (b.toNat % 16) :: encode rest ↔
      ∃ window, window <+: b :: rest ∧ Encloses window word := by
  constructor
  · rintro ⟨right, hright⟩
    -- there is an odd number of digits, and so one more behind the word
    have hlength := congrArg List.length hright
    rw [List.length_append, length_encode, List.length_cons, length_encode] at hlength
    obtain ⟨last, more, rfl⟩ := List.exists_cons_of_length_pos (show 0 < right.length by omega)
    refine ⟨(b :: rest).take (word.length + 1), List.take_prefix .., digit (b.toNat / 16), last, ?_⟩
    have hdigits : encode (b :: rest) =
        (digit (b.toNat / 16) :: (encode word ++ [last])) ++ more := by
      rw [encode, ← hright, List.cons_append, List.append_cons]
    rw [encode_take, hdigits]
    exact List.take_left' (by simp [Nat.mul_succ])
  · rintro ⟨window, hwindow, first, last, heq⟩
    have hdigits := encode_prefix_iff.2 hwindow
    rw [heq, encode, List.cons_prefix_cons] at hdigits
    exact (List.prefix_append ..).trans hdigits.2

/-- Nothing is enclosed by no bytes, for these have no digits. -/
theorem not_encloses_nil : ¬ Encloses [] word := by
  rintro ⟨first, last, heq⟩
  cases heq

/-- Nothing stands half a byte off among no bytes. -/
theorem astride_nil_iff : Astride word [] ↔ False := by
  refine iff_false_intro ?_
  rintro ⟨window, hwindow, h⟩
  rw [List.infix_nil] at hwindow
  exact not_encloses_nil (hwindow ▸ h)

/-- A word stands half a byte off from the first byte on, or further behind. -/
theorem astride_cons_iff : Astride word (b :: rest) ↔
    (∃ window, window <+: b :: rest ∧ Encloses window word) ∨ Astride word rest := by
  simp only [Astride, List.infix_cons_iff, or_and_right, exists_or]

/-- **Where digits stand among digits.** The digits of bytes hold those of a word if the bytes hold
the word, or if the word stands among them half a byte off. -/
theorem encode_infix_iff :
    encode word <:+: encode bytes ↔ word <:+: bytes ∨ Astride word bytes := by
  induction bytes with
  | nil =>
    have hnil : encode word = encode [] ↔ word = [] := encode_inj
    rwa [astride_nil_iff, or_false, List.infix_nil, encode, List.infix_nil]
  | cons b rest ih =>
    -- the word starts at the first digit, at the second, or further behind
    have hfirst : encode word <+: encode (b :: rest) ↔ word <+: b :: rest := encode_prefix_iff
    rw [encode] at hfirst ⊢
    rw [List.infix_cons_iff, List.infix_cons_iff, hfirst, encode_prefix_second_iff, ih,
      List.infix_cons_iff, astride_cons_iff, or_or_or_comm, or_assoc]

end Hex

/-! ## Functions that are reported -/

/-- A selector is found in the digits of a code if it stands in the code, in its bytes or half a
byte off. -/
theorem Selector.isIn_encode_iff {s : Selector} {code : List UInt8} :
    s.isIn (Hex.encode code) = true ↔ s.bytes <:+: code ∨ Hex.Astride s.bytes code := by
  rw [isIn, Text.occursIn_iff_infix, digits, Hex.encode_infix_iff]

namespace Code

/-- **Each function whose selector is in the code is reported, and those alone whose selector stands
there, in its bytes or half a byte off.** What is reported goes by the bytes alone exactly if no
selector stands half a byte off that is not in the bytes too. The flag of a missing transfer
function goes by the same search. -/
theorem selectors_listed (address : Address) (code : List UInt8) (settings : Settings) :
    (∀ s ∈ Selector.known,
      (s.signature ∈ (analyze address code settings).signatures ↔
        s.bytes <:+: code ∨ Hex.Astride s.bytes code) ∧
      ((s.signature ∈ (analyze address code settings).signatures ↔ s.bytes <:+: code) ↔
        (Hex.Astride s.bytes code → s.bytes <:+: code))) ∧
    (.nonstandardTransfer ∉ (analyze address code settings).flags ↔
      [0xA9, 0x05, 0x9C, 0xBB] <:+: code ∨ Hex.Astride [0xA9, 0x05, 0x9C, 0xBB] code) := by
  refine ⟨fun s hs => ?_, ?_⟩
  · have hfound : s.signature ∈ (analyze address code settings).signatures ↔
        s.bytes <:+: code ∨ Hex.Astride s.bytes code :=
      (mem_signatures_iff hs).trans Selector.isIn_encode_iff
    refine ⟨hfound, ?_⟩
    rw [hfound]
    exact or_iff_left_iff_imp
  · rw [mem_flags_iff, Flag.Raised, Classical.not_not, Selector.isIn_encode_iff]
    rfl

/-- The digits of the selector of transfers, half a byte off. -/
def halfByteOff : List UInt8 := [0x0A, 0x90, 0x59, 0xCB, 0xB0]

/-- **A function is reported whose selector is not in the code**, and no flag says that it is
missing. -/
theorem selectors_listed_astride :
    "transfer(address,uint256)" ∈ (analyze default halfByteOff {}).signatures ∧
      .nonstandardTransfer ∉ (analyze default halfByteOff {}).flags ∧
      ¬ [0xA9, 0x05, 0x9C, 0xBB] <:+: halfByteOff := by
  have hfound : Selector.transfer.isIn (Hex.encode halfByteOff) = true := by decide
  have hknown : Selector.transfer ∈ Selector.known := List.mem_cons_self
  refine ⟨?_, ?_, by decide⟩
  · exact (mem_signatures_iff hknown).2 hfound
  · rw [mem_flags_iff, Flag.Raised, Classical.not_not]
    exact hfound

end Code

end TokenAudit
