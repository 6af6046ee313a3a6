import TokenAudit.Ledger.BlockRef
import TokenAudit.Proofs.Ledger.Quantities
import TokenAudit.Proofs.Text.LetterCase

/-! # Texts that are references to blocks

A user refers to a block by one of three words, in any letter case, or by its number, in decimal
digits or in hexadecimal ones behind a mark. More than that is taken for a number: a plus sign may
stand in front of the digits.

* `Denotes`, `DenotesSigned` — which block is meant by a text that is a reference, and by one with a
  plus sign;
* `lookup_words_eq_some_iff` — the three words;
* `readNumber_eq_ok_iff` — the numbers;
* `parse_toText` — what is shown of a reference is read back.

Main statement: `parse_accepts`, and `parse_accepts_signed` for a number with a plus sign. -/

namespace TokenAudit.BlockRef

variable {cs : List Char} {ref : BlockRef} {n : Nat}

/-- A text is a reference to a block: a word in any letter case, or the digits of a number of 64
bits. -/
inductive Denotes (cs : List Char) : BlockRef → Prop
  | latest (h : cs.map Char.toLower = "latest".toList) : Denotes cs .latest
  | earliest (h : cs.map Char.toLower = "earliest".toList) : Denotes cs .earliest
  | pending (h : cs.map Char.toLower = "pending".toList) : Denotes cs .pending
  | decimal {n : Nat} (h : Numeral.Spells 10 cs n) (hn : n < UInt64.size) : Denotes cs (.number n)
  | hexadecimal {mark : String} {digits : List Char} {n : Nat} (hmark : mark ∈ Quantity.marks)
    (hcs : cs = mark.toList ++ digits) (h : Numeral.Spells 16 digits n) (hn : n < UInt64.size) :
    Denotes cs (.number n)

/-- A text is a number of 64 bits but for a plus sign in front of its digits. -/
inductive DenotesSigned (cs : List Char) : BlockRef → Prop
  | decimal {digits : List Char} {n : Nat} (hcs : cs = '+' :: digits)
    (h : Numeral.Spells 10 digits n) (hn : n < UInt64.size) : DenotesSigned cs (.number n)
  | hexadecimal {mark : String} {digits : List Char} {n : Nat} (hmark : mark ∈ Quantity.marks)
    (hcs : cs = mark.toList ++ '+' :: digits) (h : Numeral.Spells 16 digits n)
    (hn : n < UInt64.size) :
    DenotesSigned cs (.number n)

/-! ## Words -/

/-- **The three words** are found in any letter case. -/
theorem lookup_words_eq_some_iff : words.lookup (Text.lowercase (String.ofList cs)) = some ref ↔
    Denotes cs ref ∧ ∀ n, ref ≠ .number n := by
  -- the words are of plain letters, so only the letter case of a text may differ
  have hplain : ∀ word ∈ ["latest", "earliest", "pending"], ∀ c ∈ word.toList, Text.IsPlain c := by
    simp [Text.IsPlain]
  have hcase : ∀ word ∈ ["latest", "earliest", "pending"],
      Text.lowercase (String.ofList cs) = word ↔ cs.map Char.toLower = word.toList :=
    fun word hword => Text.lowercase_eq_iff (hplain word hword)
  have hlatest := hcase "latest" (by simp)
  have hearliest := hcase "earliest" (by simp)
  have hpending := hcase "pending" (by simp)
  rw [words, List.lookup_eq_some_iff]
  constructor
  · rintro ⟨before, after, hsplit, -⟩
    have hmem : (Text.lowercase (String.ofList cs), ref) ∈
        [("latest", latest), ("earliest", earliest), ("pending", pending)] := by rw [hsplit]; simp
    simp only [List.mem_cons, Prod.mk.injEq, List.not_mem_nil, or_false] at hmem
    obtain ⟨hword, rfl⟩ | ⟨hword, rfl⟩ | ⟨hword, rfl⟩ := hmem
    · exact ⟨.latest (hlatest.1 hword), by simp⟩
    · exact ⟨.earliest (hearliest.1 hword), by simp⟩
    · exact ⟨.pending (hpending.1 hword), by simp⟩
  · rintro ⟨hdenotes, hword⟩
    cases hdenotes with
    | latest h => exact ⟨[], _, by rw [hlatest.2 h]; rfl, by simp⟩
    | earliest h =>
      exact ⟨[("latest", latest)], _, by rw [hearliest.2 h]; rfl, by rw [hearliest.2 h]; decide⟩
    | pending h =>
      exact ⟨[("latest", latest), ("earliest", earliest)], _, by rw [hpending.2 h]; rfl,
        by rw [hpending.2 h]; decide⟩
    | decimal | hexadecimal => exact absurd rfl (hword _)

/-! ## Numbers -/

/-- A text that is no quantity has no mark if it is made of decimal digits, with a plus sign or
without. -/
theorem marked?_of_spells (h : Numeral.Spells 10 cs n ∨ ∃ digits, cs = '+' :: digits) :
    Quantity.marked? cs = none := by
  rw [Quantity.marked?_eq_none_iff]
  rintro mark hmark rest rfl
  -- the second character of a mark is an x, which is no digit
  obtain ⟨x, hx, hmark⟩ : ∃ x, Char.toLower x = 'x' ∧ mark.toList = ['0', x] := by
    simp only [Quantity.marks, List.mem_cons, List.not_mem_nil, or_false] at hmark
    obtain rfl | rfl := hmark
    · exact ⟨'x', by decide, by decide⟩
    · exact ⟨'X', by decide, by decide⟩
  rw [hmark] at h
  obtain ⟨digits, -, hdigits, hcs, -⟩ | ⟨digits, hplus⟩ := h
  · obtain ⟨_, more, rfl, -, hmore⟩ := List.map_eq_cons_iff.1 hcs.symm
    obtain ⟨d, more, rfl, hd, -⟩ := List.map_eq_cons_iff.1 hmore
    have hten : d < 10 := hdigits d (by simp)
    rw [hx] at hd
    exact absurd hd ((by decide : ∀ d < 10, Hex.digit d ≠ 'x') d hten)
  · cases hplus

/-- **The numbers of blocks** are read from their digits, in front of which a plus sign may
stand. -/
theorem readNumber_eq_ok_iff :
    readNumber cs = .ok n ↔ Denotes cs (.number n) ∨ DenotesSigned cs (.number n) := by
  have hdecimal :=
    fun text => @Numeral.read_eq_ok_iff 10 UInt64.size n text (by decide) (by decide) (by decide)
  have hhexadecimal :=
    fun text => @Numeral.read_eq_ok_iff 16 UInt64.size n text (by decide) (by decide) (by decide)
  constructor
  · intro h
    rw [readNumber] at h
    split at h
    case h_1 digits hmarked =>
      -- behind a mark the base is sixteen
      obtain ⟨mark, hmark, hcs⟩ := Quantity.marked?_eq_some_iff.1 hmarked
      obtain ⟨hspells | ⟨digits', rfl, hspells⟩, hlt⟩ := (hhexadecimal digits).1 h
      · exact Or.inl (.hexadecimal hmark hcs hspells hlt)
      · exact Or.inr (.hexadecimal hmark hcs hspells hlt)
    case h_2 =>
      -- without a mark it is ten
      obtain ⟨hspells | ⟨digits, hcs, hspells⟩, hlt⟩ := (hdecimal cs).1 h
      · exact Or.inl (.decimal hspells hlt)
      · exact Or.inr (.decimal hcs hspells hlt)
  · rintro (h | h)
    · cases h with
      | decimal hspells hlt =>
        -- digits in base ten never look marked
        rw [readNumber, marked?_of_spells (Or.inl hspells)]
        exact (hdecimal cs).2 ⟨Or.inl hspells, hlt⟩
      | hexadecimal hmark hcs hspells hlt =>
        rw [readNumber, Quantity.marked?_eq_some_iff.2 ⟨_, hmark, hcs⟩]
        exact (hhexadecimal _).2 ⟨Or.inl hspells, hlt⟩
    · cases h with
      | decimal hcs hspells hlt =>
        rw [readNumber, marked?_of_spells (n := n) (Or.inr ⟨_, hcs⟩)]
        exact (hdecimal cs).2 ⟨Or.inr ⟨_, hcs, hspells⟩, hlt⟩
      | hexadecimal hmark hcs hspells hlt =>
        rw [readNumber, Quantity.marked?_eq_some_iff.2 ⟨_, hmark, hcs⟩]
        exact (hhexadecimal _).2 ⟨Or.inr ⟨_, rfl, hspells⟩, hlt⟩

/-! ## Reading -/

/-- A text that means a number begins with a decimal digit or with a plus sign. -/
theorem exists_head_of_number (h : Denotes cs (.number n) ∨ DenotesSigned cs (.number n)) :
    ∃ c rest, cs = c :: rest ∧ c.toLower ≤ '9' := by
  have hmarked : ∀ mark ∈ Quantity.marks, ∀ rest : List Char,
      ∃ c more, mark.toList ++ rest = c :: more ∧ c.toLower ≤ '9' := by
    intro mark hmark rest
    simp only [Quantity.marks, List.mem_cons, List.not_mem_nil, or_false] at hmark
    obtain rfl | rfl := hmark
    · exact ⟨'0', 'x' :: rest, rfl, by decide⟩
    · exact ⟨'0', 'X' :: rest, rfl, by decide⟩
  rcases h with h | h
  · cases h with
    | decimal hspells =>
      obtain ⟨digits, hne, hdigits, hcs, -⟩ := hspells
      obtain ⟨d, more, rfl⟩ := List.exists_cons_of_ne_nil hne
      obtain ⟨c, rest, rfl, hc, -⟩ := List.map_eq_cons_iff.1 hcs
      have hten : d < 10 := hdigits d (by simp)
      exact ⟨c, rest, rfl, hc ▸ (by decide : ∀ d < 10, Hex.digit d ≤ '9') d hten⟩
    | hexadecimal hmark hcs => exact hcs ▸ hmarked _ hmark _
  · cases h with
    | decimal hcs => exact ⟨'+', _, hcs, by decide⟩
    | hexadecimal hmark hcs => exact hcs ▸ hmarked _ hmark _

/-- A text that means a number is none of the words. -/
theorem lookup_words_of_number (h : Denotes cs (.number n) ∨ DenotesSigned cs (.number n)) :
    words.lookup (Text.lowercase (String.ofList cs)) = none := by
  obtain ⟨c, rest, rfl, hc⟩ := exists_head_of_number h
  refine Option.eq_none_iff_forall_ne_some.2 fun ref hfound => ?_
  obtain ⟨hdenotes, hword⟩ := lookup_words_eq_some_iff.1 hfound
  -- the words begin with letters, which come after the digits
  cases hdenotes with
  | latest h | earliest h | pending h =>
    have hhead := (List.cons.inj h).1
    rw [hhead] at hc
    exact absurd hc (by decide)
  | decimal | hexadecimal => exact hword _ rfl

/-- What a text with digits denotes is a number. -/
theorem DenotesSigned.exists_number (h : DenotesSigned cs ref) : ∃ n, ref = .number n := by
  cases h with
  | decimal | hexadecimal => exact ⟨_, rfl⟩

/-- A text with a plus sign is no reference. -/
theorem DenotesSigned.not_denotes (h : DenotesSigned cs ref) (other : BlockRef) :
    ¬ Denotes cs other := by
  intro hdenotes
  obtain ⟨n, rfl⟩ := h.exists_number
  -- words are looked up before numbers are read, and no number is one
  have hword := lookup_words_of_number (Or.inr h)
  cases hdenotes with
  | latest hcs =>
    rw [lookup_words_eq_some_iff.2 ⟨.latest hcs, by simp⟩] at hword
    cases hword
  | earliest hcs =>
    rw [lookup_words_eq_some_iff.2 ⟨.earliest hcs, by simp⟩] at hword
    cases hword
  | pending hcs =>
    rw [lookup_words_eq_some_iff.2 ⟨.pending hcs, by simp⟩] at hword
    cases hword
  | decimal hspells =>
    -- digits do not begin with a plus sign, and do not look marked
    cases h with
    | decimal hplus => exact hspells.head_ne_plus (by decide) _ hplus
    | hexadecimal hmark hplus =>
      have hnone := marked?_of_spells (Or.inl hspells)
      rw [Quantity.marked?_eq_some_iff.2 ⟨_, hmark, hplus⟩] at hnone
      cases hnone
  | hexadecimal hmark hcs hspells =>
    -- nor do the digits behind a mark begin with a plus sign
    have hmarked := Quantity.marked?_eq_some_iff.2 ⟨_, hmark, hcs⟩
    cases h with
    | decimal hplus =>
      rw [marked?_of_spells (n := n) (Or.inr ⟨_, hplus⟩)] at hmarked
      cases hmarked
    | hexadecimal hmark' hplus =>
      rw [Quantity.marked?_eq_some_iff.2 ⟨_, hmark', hplus⟩] at hmarked
      exact hspells.head_ne_plus (by decide) _ (Option.some.inj hmarked).symm

/-- **References are read from the texts that denote them**, and from those with a plus sign. -/
theorem parse_eq_ok_iff {text : String} : parse text = .ok ref ↔
    Denotes (Text.trim text.toList) ref ∨ DenotesSigned (Text.trim text.toList) ref := by
  rw [parse]
  generalize Text.trim text.toList = cs
  constructor
  · intro h
    -- the words are looked up first
    split at h
    case h_1 ref' hfound =>
      cases h
      exact Or.inl (lookup_words_eq_some_iff.1 hfound).1
    case h_2 =>
      split at h
      case h_2 => cases h
      case h_1 n hnumber =>
        cases h
        exact readNumber_eq_ok_iff.1 hnumber
  · intro h
    -- a number is reached only when no word is found
    by_cases hnumber : ∃ n, ref = .number n
    · obtain ⟨n, rfl⟩ := hnumber
      rw [lookup_words_of_number h]
      dsimp only
      rw [readNumber_eq_ok_iff.2 h]
    · have hdenotes := h.resolve_right fun hsigned => hnumber hsigned.exists_number
      rw [lookup_words_eq_some_iff.2 ⟨hdenotes, fun n hn => hnumber ⟨n, hn⟩⟩]

/-- A text that is no reference is refused with its own words. -/
theorem parse_eq_error_iff {text : String} {fault : Fault} : parse text = .error fault ↔
    (∀ ref, parse text ≠ .ok ref) ∧
      fault =
        .invalidValue ("Invalid block reference: " ++ String.ofList (Text.trim text.toList)) := by
  rw [parse]
  split
  case h_1 ref hfound => simp
  case h_2 =>
    split
    case h_1 n hnumber => simp
    case h_2 flaw hnumber => simp [eq_comm]

/-! ## Showing -/

/-- Nothing is taken off a text without blanks. -/
theorem trim_of_forall_not_isBlank (h : ∀ c ∈ cs, Text.isBlank c = false) : Text.trim cs = cs := by
  have hdrop : ∀ cs : List Char, (∀ c ∈ cs, Text.isBlank c = false) →
      cs.dropWhile Text.isBlank = cs := by
    intro cs h
    cases cs with
    | nil => rfl
    | cons c rest => exact List.dropWhile_cons_of_neg (by simp [h c (List.mem_cons_self ..)])
  rw [Text.trim, hdrop cs h, hdrop cs.reverse fun c hc => h c (List.mem_reverse.1 hc),
    List.reverse_reverse]

/-- Decimal digits are no blanks. -/
theorem isBlank_of_isDigit {c : Char} (h : c.isDigit = true) : Text.isBlank c = false := by
  have hrange : 48 ≤ c.toNat ∧ c.toNat ≤ 57 := by
    simp only [Char.isDigit, Bool.and_eq_true, decide_eq_true_eq] at h
    exact ⟨UInt32.le_iff_toNat_le.1 h.1, UInt32.le_iff_toNat_le.1 h.2⟩
  have hall := (by decide : ∀ k < 58, 48 ≤ k → Text.isBlank (Char.ofNat k) = false) c.toNat
    (by omega) hrange.1
  rwa [Char.ofNat_toNat] at hall

/-- **What is shown of a reference is read back** as that reference. -/
theorem parse_toText (h : ∀ n, ref = .number n → n < UInt64.size) : parse ref.toText = .ok ref := by
  cases ref with
  | number n =>
    have htrim : Text.trim (toText (.number n)).toList = (Numeral.decimal n).toList := by
      refine trim_of_forall_not_isBlank fun c hc => isBlank_of_isDigit ?_
      exact Nat.isDigit_of_mem_toDigits (by decide) (Nat.le_refl 10) (Numeral.toList_decimal n ▸ hc)
    rw [parse_eq_ok_iff, htrim]
    exact Or.inl (.decimal (Numeral.spells_decimal n) (h n rfl))
  | earliest => decide +kernel
  | latest => decide +kernel
  | pending => decide +kernel

/-- **Which texts are taken for references to blocks.** Without the blanks at its ends, a text is a
word in any letter case or the digits of a number of 64 bits, in base ten or, behind a mark, in base
sixteen; or it is such a number with a plus sign in front of its digits. Every other text is refused
as an invalid value. That only words and digits are taken is a right description of this except for
the texts with a plus sign. What is shown of a reference is read back. -/
theorem parse_accepts (text : String) :
    let cs := Text.trim text.toList
    (∀ ref, parse text = .ok ref ↔ Denotes cs ref ∨ DenotesSigned cs ref) ∧
    (∀ fault, parse text = .error fault ↔ (∀ ref, ¬ Denotes cs ref ∧ ¬ DenotesSigned cs ref) ∧
      fault = .invalidValue ("Invalid block reference: " ++ String.ofList cs)) ∧
    ((∀ ref, parse text = .ok ref ↔ Denotes cs ref) ↔ ¬ ∃ ref, DenotesSigned cs ref) ∧
    ∀ ref : BlockRef, (∀ n, ref = .number n → n < UInt64.size) → parse ref.toText = .ok ref := by
  intro cs
  refine ⟨fun ref => parse_eq_ok_iff, fun fault => ?_, ?_, fun ref => parse_toText⟩
  · rw [parse_eq_error_iff]
    simp only [ne_eq, parse_eq_ok_iff, not_or]
    rfl
  · constructor
    · rintro h ⟨ref, hsigned⟩
      exact hsigned.not_denotes ref ((h ref).1 (parse_eq_ok_iff.2 (Or.inr hsigned)))
    · intro h ref
      rw [parse_eq_ok_iff]
      exact or_iff_left fun hsigned => h ⟨ref, hsigned⟩

/-- The greatest number of 64 bits is shown as a text that is read back. -/
theorem parse_accepts_greatest :
    parse (toText (.number 18446744073709551615)) = .ok (.number 18446744073709551615) := by
  refine (parse_accepts "").2.2.2 (.number 18446744073709551615) fun n hn => ?_
  cases hn
  decide

/-- Sixteen is taken from a text that has a plus sign between mark and digits, and ten from decimal
digits behind a plus sign; neither text is a reference. -/
theorem parse_accepts_signed :
    parse "0x+10" = .ok (.number 16) ∧ (∀ ref, ¬ Denotes "0x+10".toList ref) ∧
      parse " +10" = .ok (.number 10) ∧ ∀ ref, ¬ Denotes "+10".toList ref := by
  have hmarked : DenotesSigned "0x+10".toList (.number 16) :=
    @DenotesSigned.hexadecimal _ "0x" ['1', '0'] 16 (by simp [Quantity.marks]) (by decide)
      ⟨[1, 0], by decide, by decide, by decide, by decide⟩ (by decide)
  have hplain : DenotesSigned "+10".toList (.number 10) :=
    @DenotesSigned.decimal _ ['1', '0'] 10 (by decide)
      ⟨[1, 0], by decide, by decide, by decide, by decide⟩ (by decide)
  exact ⟨by decide +kernel, hmarked.not_denotes, by decide +kernel, hplain.not_denotes⟩

end TokenAudit.BlockRef
