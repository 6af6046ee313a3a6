/-! # Searching text

* `occursIn` — whether a word stands anywhere in a text;
* `before?` — what stands before the first place of a word.

Main statements: `occursIn_iff` (the place of the word, written out) and `before?_eq_none_iff`. -/

namespace TokenAudit.Text

variable {α : Type} [DecidableEq α]

/-- Whether `word` stands anywhere in a text. -/
def occursIn (word : List α) : List α → Bool
  | [] => word.isEmpty
  | c :: rest => word.isPrefixOf (c :: rest) || occursIn word rest

/-- A word occurs in a text exactly if the text is that word between two others. -/
theorem occursIn_iff {word text : List α} :
    occursIn word text = true ↔ ∃ left right, text = left ++ word ++ right := by
  induction text with
  | nil =>
    simp only [occursIn, List.isEmpty_iff]
    constructor
    · rintro rfl
      exact ⟨[], [], rfl⟩
    · rintro ⟨left, right, h⟩
      rw [List.nil_eq, List.append_eq_nil_iff, List.append_eq_nil_iff] at h
      exact h.1.2
  | cons c rest ih =>
    simp only [occursIn, Bool.or_eq_true, List.isPrefixOf_iff_prefix, ih]
    constructor
    · rintro (⟨right, h⟩ | ⟨left, right, rfl⟩)
      · exact ⟨[], right, by simp [h]⟩
      · exact ⟨c :: left, right, by simp⟩
    · rintro ⟨left, right, h⟩
      cases left with
      | nil => exact .inl ⟨right, by simpa using h.symm⟩
      | cons d left =>
        simp only [List.cons_append, List.cons.injEq] at h
        exact .inr ⟨left, right, h.2⟩

/-- A word occurs in a text exactly if it stands in it. -/
theorem occursIn_iff_infix {word text : List α} : occursIn word text = true ↔ word <:+: text := by
  rw [occursIn_iff]
  constructor
  · rintro ⟨left, right, h⟩
    exact ⟨left, right, h.symm⟩
  · rintro ⟨left, right, h⟩
    exact ⟨left, right, h.symm⟩

/-- What stands before the first place of `word` in a text, if there is such a place. -/
def before? (word : List α) : List α → Option (List α)
  | [] => if word.isEmpty then some [] else none
  | c :: rest =>
    if word.isPrefixOf (c :: rest) then some []
    else (before? word rest).map (c :: ·)

/-- Nothing stands before a word exactly if it does not occur. -/
theorem before?_eq_none_iff {word text : List α} :
    before? word text = none ↔ occursIn word text = false := by
  induction text with
  | nil => cases word <;> simp [before?, occursIn]
  | cons c rest ih =>
    by_cases h : word.isPrefixOf (c :: rest) = true <;> simp [before?, occursIn, h, ih]

end TokenAudit.Text
