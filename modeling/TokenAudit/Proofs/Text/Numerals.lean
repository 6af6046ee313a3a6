import Mathlib.Data.Nat.Digits.Defs
import TokenAudit.Proofs.Ledger.Spellings

/-! # Texts that are read as numbers

A number below a limit is read from digits of its base, as many as there are, in either letter case.
Zeros may stand in front of the others, and so may one plus sign, which says nothing.

* `Spells` — which number the digits of a text stand for;
* `digitOf?_eq_some_iff` — what counts as a digit;
* `readFrom_eq_ok_iff`, `read_eq_ok_iff` — the number that is read from a text, if there is one;
* `spells_decimal` — the decimal digits of a number stand for it. -/

namespace TokenAudit.Numeral

variable {base limit acc n : Nat} {cs : List Char}

/-- A text is made of digits of a base, at least one, in either letter case, and they stand for a
number. -/
def Spells (base : Nat) (cs : List Char) (n : Nat) : Prop :=
  ∃ digits : List Nat, digits ≠ [] ∧ (∀ d ∈ digits, d < base) ∧
    cs.map Char.toLower = digits.map Hex.digit ∧ n = Nat.ofDigits base digits.reverse

/-! ## Digits -/

/-- Of all digits and letters a small z comes last. -/
theorem le_of_digit? {c : Char} {d : Nat} (h : digit? c = some d) : c ≤ 'z' := by
  rw [digit?] at h
  split at h
  case isTrue hdigit => exact Char.le_trans hdigit.2 (by decide)
  split at h
  case isTrue hlower => exact hlower.2
  split at h
  case isTrue hupper => exact Char.le_trans hupper.2 (by decide)
  cases h

/-- A character up to `z` is read as a digit exactly if it is that digit, be it small or capital. -/
theorem digit?_upTo : ∀ m < 123, ∀ d < 16,
    digit? (Char.ofNat m) = some d ↔ (Char.ofNat m).toLower = Hex.digit d := by
  decide +kernel

/-- No digit comes behind `f`. -/
theorem digit_le : ∀ d < 16, Hex.digit d ≤ 'f' := by decide

/-- What is beyond the letters is the same in lower case. -/
theorem toLower_of_lt {c : Char} (h : 'z' < c) : c.toLower = c :=
  dif_neg fun hcapital =>
    absurd (UInt32.le_trans hcapital.2 (show 'Z'.val ≤ 'z'.val by decide)) (UInt32.not_le.2 h)

/-- **The digits of a base** up to sixteen are the hexadecimal digits of numbers below it, in either
letter case. -/
theorem digitOf?_eq_some_iff (hbase : base ≤ 16) {c : Char} {d : Nat} :
    digitOf? base c = some d ↔ d < base ∧ c.toLower = Hex.digit d := by
  rw [digitOf?, Option.filter_eq_some_iff, decide_eq_true_iff, and_comm, and_congr_right_iff]
  intro hd
  by_cases hc : c ≤ 'z'
  · have hlt : c.toNat < 123 := Nat.lt_succ_of_le (UInt32.le_iff_toNat_le.1 hc)
    have h := digit?_upTo c.toNat hlt d (by omega)
    rwa [Char.ofNat_toNat] at h
  · refine iff_of_false (fun h => hc (le_of_digit? h)) fun h => hc ?_
    rw [toLower_of_lt (Char.not_le.1 hc)] at h
    exact Char.le_trans (h ▸ digit_le d (by omega)) (by decide)

/-! ## Reading -/

/-- A digit in front of others counts for itself and moves those before it up by one place. -/
theorem value_cons (base acc d : Nat) (digits : List Nat) :
    acc * base ^ (d :: digits).length + Nat.ofDigits base (d :: digits).reverse =
      (acc * base + d) * base ^ digits.length + Nat.ofDigits base digits.reverse := by
  rw [List.reverse_cons, Nat.ofDigits_append, Nat.ofDigits_singleton, List.length_cons,
    List.length_reverse, Nat.pow_succ]
  ring

/-- **Digits are read on** from a number just if the number that they make with it is below the
limit. -/
theorem readFrom_eq_ok_iff (hpos : 0 < base) (hbase : base ≤ 16) (hacc : acc < limit) :
    readFrom base limit acc cs = .ok n ↔
      n < limit ∧ ∃ digits : List Nat, (∀ d ∈ digits, d < base) ∧
        cs.map Char.toLower = digits.map Hex.digit ∧
        n = acc * base ^ digits.length + Nat.ofDigits base digits.reverse := by
  induction cs generalizing acc with
  | nil =>
    rw [readFrom, Except.ok.injEq]
    constructor
    · rintro rfl
      exact ⟨hacc, [], by simp, rfl, by simp⟩
    · rintro ⟨-, digits, -, hdigits, rfl⟩
      rw [List.map_eq_nil_iff.1 hdigits.symm]
      simp
  | cons c rest ih =>
    rw [readFrom]
    constructor
    · intro h
      split at h
      case h_1 => cases h
      case h_2 d hd =>
        obtain ⟨hlt, hc⟩ := (digitOf?_eq_some_iff hbase).1 hd
        split at h
        case isFalse => cases h
        case isTrue hfits =>
          obtain ⟨hn, digits, hdigits, hrest, rfl⟩ := (ih hfits).1 h
          exact ⟨hn, d :: digits, List.forall_mem_cons.2 ⟨hlt, hdigits⟩,
            by rw [List.map_cons, List.map_cons, hc, hrest], (value_cons base acc d digits).symm⟩
    · rintro ⟨hn, digits, hdigits, hcs, hvalue⟩
      obtain ⟨d, digits, rfl, hc, hrest⟩ := List.map_eq_cons_iff.1 hcs.symm
      rw [List.forall_mem_cons] at hdigits
      rw [value_cons] at hvalue
      -- what is read up to here is no more than the whole
      have hfits : acc * base + d < limit :=
        calc acc * base + d
          _ ≤ (acc * base + d) * base ^ digits.length :=
            Nat.le_mul_of_pos_right _ (Nat.pow_pos hpos)
          _ ≤ n := by omega
          _ < limit := hn
      rw [(digitOf?_eq_some_iff hbase).2 ⟨hdigits.1, hc.symm⟩]
      dsimp only
      rw [if_pos hfits]
      exact (ih hfits).2 ⟨hn, digits, hdigits.2, hrest.symm, hvalue⟩

/-- Digits are read from the start if there are any. -/
theorem readFrom_zero_eq_ok_iff (hpos : 0 < base) (hbase : base ≤ 16) (hlimit : 0 < limit)
    (hcs : cs ≠ []) : readFrom base limit 0 cs = .ok n ↔ Spells base cs n ∧ n < limit := by
  rw [readFrom_eq_ok_iff hpos hbase hlimit, and_comm, and_congr_left_iff]
  intro _
  refine exists_congr fun digits => ?_
  rw [Nat.zero_mul, Nat.zero_add]
  refine ⟨fun h => ⟨?_, h⟩, fun h => h.2⟩
  rintro rfl
  exact hcs (List.map_eq_nil_iff.1 h.2.1)

/-- No number is spelled by nothing. -/
theorem Spells.ne_nil (h : Spells base cs n) : cs ≠ [] := by
  obtain ⟨digits, hne, -, hdigits, -⟩ := h
  rintro rfl
  exact hne (List.map_eq_nil_iff.1 hdigits.symm)

/-- A plus sign is no digit. -/
theorem Spells.head_ne_plus (h : Spells base cs n) (hbase : base ≤ 16) (rest : List Char) :
    cs ≠ '+' :: rest := by
  obtain ⟨digits, -, hdigits, hcs, -⟩ := h
  rintro rfl
  obtain ⟨d, digits, rfl, hplus, -⟩ := List.map_eq_cons_iff.1 hcs.symm
  exact digit_ne_plus d (Nat.lt_of_lt_of_le (hdigits d (List.mem_cons_self ..)) hbase) hplus

/-- **What is read as a number** is the number that digits stand for, with a plus sign in front of
them or without one. -/
theorem read_eq_ok_iff (hpos : 0 < base) (hbase : base ≤ 16) (hlimit : 0 < limit) :
    read base limit cs = .ok n ↔
      (Spells base cs n ∨ ∃ rest, cs = '+' :: rest ∧ Spells base rest n) ∧ n < limit := by
  fun_cases read base limit cs with
  | case1 =>
    -- without characters there are no digits
    refine iff_of_false (by simp) ?_
    rintro ⟨h | ⟨rest, hrest, -⟩, -⟩
    · exact h.ne_nil rfl
    · cases hrest
  | case2 =>
    -- a plus sign alone has no digits behind it
    refine iff_of_false (by simp) ?_
    rintro ⟨h | ⟨rest, hrest, h⟩, -⟩
    · exact h.head_ne_plus hbase [] rfl
    · cases hrest
      exact h.ne_nil rfl
  | case3 rest hrest =>
    -- a plus sign is no digit, so the digits are those behind it
    rw [readFrom_zero_eq_ok_iff hpos hbase hlimit hrest, and_congr_left_iff]
    refine fun _ => ⟨fun h => Or.inr ⟨rest, rfl, h⟩, ?_⟩
    rintro (h | ⟨rest', hrest', h⟩)
    · exact absurd rfl (h.head_ne_plus hbase rest)
    · cases hrest'
      exact h
  | case4 cs hnil hplus hsigned =>
    -- without a plus sign all characters have to be digits
    rw [readFrom_zero_eq_ok_iff hpos hbase hlimit hnil, and_congr_left_iff]
    refine fun _ => ⟨Or.inl, ?_⟩
    rintro (h | ⟨rest, hrest, -⟩)
    · exact h
    · exact absurd hrest (hsigned rest)

/-! ## Writing -/

/-- Decimal digits are the same as hexadecimal ones. -/
theorem digitChar_eq_digit : ∀ d < 10, Nat.digitChar d = Hex.digit d := by decide

/-- Digits are written small. -/
theorem toLower_digit : ∀ d < 16, (Hex.digit d).toLower = Hex.digit d := by decide

/-- The characters of a decimal number are its digits in base ten. -/
theorem toList_decimal (n : Nat) : (decimal n).toList = Nat.toDigits 10 n := Nat.toList_repr

/-- **The decimal digits of a number** stand for it. -/
theorem spells_decimal (n : Nat) : Spells 10 (decimal n).toList n := by
  rw [toList_decimal]
  induction n using Nat.strongRecOn with
  | ind n ih =>
    by_cases hn : n < 10
    · refine ⟨[n], by simp, by simpa using hn, ?_, by simp⟩
      rw [Nat.toDigits_of_lt_base hn, digitChar_eq_digit n hn, List.map_singleton,
        toLower_digit n (by omega)]
      rfl
    · obtain ⟨digits, hne, hdigits, hcs, hvalue⟩ := ih (n / 10) (by omega)
      have hlast : n % 10 < 10 := Nat.mod_lt n (by decide)
      refine ⟨digits ++ [n % 10], by simp, ?_, ?_, ?_⟩
      · exact List.forall_mem_append.2 ⟨hdigits, by simpa using hlast⟩
      · rw [Nat.toDigits_of_base_le (by decide) (Nat.not_lt.1 hn), digitChar_eq_digit _ hlast,
          List.map_append, List.map_append, hcs, List.map_singleton, toLower_digit _ (by omega),
          List.map_singleton]
      · rw [List.reverse_append, List.reverse_singleton, List.singleton_append,
          Nat.ofDigits_cons, ← hvalue]
        exact (Nat.mod_add_div n 10).symm

end TokenAudit.Numeral
