import Mathlib.Data.List.Basic
import TokenAudit.Text.Lowercase

/-! # Words in any letter case

The lower-case form of a text is a given word of plain letters just if the text has the letters of
that word, each in either case. No other character becomes a plain letter in lower case, with one
exception: the sign of the unit kelvin, U+212A, becomes a k. So the word may not hold a k.

* `lowercaseChar_of_plain` — which characters become plain letters;
* `lowercase_eq_iff` — which texts become a word of them. -/

namespace TokenAudit.Text

/-- The letters from a to z except k. -/
def IsPlain (c : Char) : Prop := 'a' ≤ c ∧ c ≤ 'z' ∧ c ≠ 'k'

instance (c : Char) : Decidable (IsPlain c) := inferInstanceAs (Decidable (_ ∧ _ ∧ _))

/-- Plain characters are among the first 128. -/
theorem IsPlain.toNat_lt {c : Char} (h : IsPlain c) : c.toNat < 128 :=
  Nat.lt_of_le_of_lt (UInt32.le_iff_toNat_le.1 h.2.1) (by decide)

/-- Beyond ASCII, a character becomes one beyond ASCII, or a k. -/
theorem loweringRuns_beyond : ∀ run ∈ loweringRuns,
    128 ≤ (run.1 : Int) + run.2.2.2 ∨ run.1 = 0x212A ∧ run.2.1 = 0x212A ∧ run.2.2.2 = -8383 := by
  decide +kernel

/-- A character that becomes a plain letter is that letter, or its capital. -/
theorem lowercaseChar_of_plain {c : Char} (h : IsPlain (lowercaseChar c)) :
    lowercaseChar c = c.toLower := by
  rw [lowercaseChar] at h ⊢
  split at h
  case isTrue hascii => rw [if_pos hascii]
  case isFalse hascii =>
    exfalso
    split at h
    case h_2 => exact hascii h.toNat_lt
    case h_1 first last step distance hfound =>
      have hrun := List.mem_of_find?_eq_some hfound
      have hwithin := List.find?_some hfound
      simp only [Bool.and_eq_true, decide_eq_true_eq] at hwithin
      obtain hbeyond | ⟨hfirst, hlast, hdistance⟩ := loweringRuns_beyond _ hrun
      · -- the number of the character is that of no plain letter, or that of no character at all
        have hnumber : 128 ≤ (↑c.toNat + distance).toNat := by dsimp only at hbeyond; omega
        by_cases hvalid : (↑c.toNat + distance).toNat.isValidChar
        · have hlt := h.toNat_lt
          rw [Char.ofNat, dif_pos hvalid] at hlt
          exact absurd hlt (Nat.not_lt.2 hnumber)
        · rw [Char.ofNat, dif_neg hvalid] at h
          exact absurd h (by decide)
      · dsimp only at hfirst hlast hdistance
        have hk : (↑c.toNat + distance).toNat = 107 := by omega
        rw [hk] at h
        exact absurd h (by decide)

/-- What is a plain letter in lower case is an ASCII letter, and no case of its own. -/
theorem of_toLower_plain {c : Char} (h : IsPlain c.toLower) :
    c ≠ 'Σ' ∧ c ≠ 'İ' ∧ lowercaseChar c = c.toLower := by
  have hascii : c.toNat < 128 := by
    by_contra hbeyond
    have hsame : c.toLower = c := dif_neg fun hcapital =>
      hbeyond (Nat.lt_of_le_of_lt (UInt32.le_iff_toNat_le.1 hcapital.2) (by decide))
    exact hbeyond (hsame ▸ h).toNat_lt
  refine ⟨?_, ?_, if_pos hascii⟩
  · rintro rfl
    exact absurd hascii (by decide)
  · rintro rfl
    exact absurd hascii (by decide)

/-- Whatever stands before a text, its lower-case form is a word of plain letters just if each of
its characters is one of them in either case. -/
theorem lowercaseFrom_eq_iff (before : List Char) {cs word : List Char}
    (hword : ∀ c ∈ word, IsPlain c) :
    lowercaseFrom before cs = word ↔ cs.map Char.toLower = word := by
  induction cs generalizing before word with
  | nil => rw [lowercaseFrom, List.map_nil]
  | cons c rest ih =>
    rw [lowercaseFrom, List.map_cons]
    constructor
    · intro h
      -- the two letters with a case of their own do not become plain letters
      by_cases hsigma : c = 'Σ'
      · rw [if_pos hsigma] at h
        split at h
        · exact absurd (hword 'ς' (h ▸ by simp)) (by decide)
        · exact absurd (hword 'σ' (h ▸ by simp)) (by decide)
      rw [if_neg hsigma] at h
      by_cases hdotted : c = 'İ'
      · rw [if_pos hdotted] at h
        exact absurd (hword '\u0307' (h ▸ by simp)) (by decide)
      rw [if_neg hdotted, List.singleton_append] at h
      subst h
      rw [List.forall_mem_cons] at hword
      rw [lowercaseChar_of_plain hword.1, (ih (c :: before) hword.2).1 rfl]
    · rintro rfl
      rw [List.forall_mem_cons] at hword
      obtain ⟨hsigma, hdotted, hlower⟩ := of_toLower_plain hword.1
      rw [if_neg hsigma, if_neg hdotted, hlower, (ih (c :: before) hword.2).2 rfl]
      rfl

/-- **A text is a word in any letter case** just if its characters are the letters of the word, each
in either case. -/
theorem lowercase_eq_iff {cs : List Char} {word : String} (hword : ∀ c ∈ word.toList, IsPlain c) :
    lowercase (String.ofList cs) = word ↔ cs.map Char.toLower = word.toList := by
  rw [lowercase, String.toList_ofList, ← String.toList_inj, String.toList_ofList,
    lowercaseFrom_eq_iff [] hword]

end TokenAudit.Text
