import TokenAudit.Rpc.Endpoints

/-! # Masked addresses

What stands behind the first mark of a key is hidden, and the marks are looked for one after the
other: first `/v2/` in the whole address, and only if it is nowhere there `/v3/`. So a key behind
`/v2/` shows nothing of itself. A key behind `/v3/` does if it holds the other mark: then it is
shown up to that mark.

* `Text.before?_append_self`, `Text.before?_append_of_none` — the first place of a word in a text
  that goes on;
* `IsCovered`, `exposed?` — whether all of a key behind a mark is hidden, and what is shown of one
  that is not;
* `maskUrl_of_isCovered`, `maskUrl_of_not_isCovered` — what is shown of an address then.

Main statement: `maskUrl_with_other_key`, and `maskUrl_shows_key` for a key that is shown in
part. -/

namespace TokenAudit

namespace Text

variable {α : Type} [DecidableEq α] {word left right before : List α}

/-! ## The first place of a word -/

/-- A word that is no longer than a text begins it just if it begins the text with more behind
it. -/
theorem isPrefixOf_append (h : word.length ≤ left.length) (right : List α) :
    word.isPrefixOf (left ++ right) = word.isPrefixOf left := by
  rw [Bool.eq_iff_iff, List.isPrefixOf_iff_prefix, List.isPrefixOf_iff_prefix]
  exact ⟨fun hprefix => List.prefix_of_prefix_length_le hprefix (List.prefix_append ..) h,
    fun hprefix => hprefix.trans (List.prefix_append ..)⟩

/-- A text in which a word has a place is at least as long as the word. -/
theorem length_le_of_before? (h : before? word left = some before) : word.length ≤ left.length := by
  have hoccurs : ¬ occursIn word left = false := by
    rw [← before?_eq_none_iff, h]
    exact Option.some_ne_none _
  rw [Bool.not_eq_false] at hoccurs
  have hpart := occursIn_iff_infix.1 hoccurs
  exact hpart.length_le

/-- The first place of a word in a text stays the first one if the text goes on. -/
theorem before?_append_of_some (h : before? word left = some before) (right : List α) :
    before? word (left ++ right) = some before := by
  induction left generalizing before with
  | nil =>
    obtain ⟨hempty, hbefore⟩ := Option.ite_none_right_eq_some.1 h
    rw [List.isEmpty_iff.1 hempty, ← hbefore]
    cases right <;> rfl
  | cons c rest ih =>
    rw [List.cons_append, before?, ← List.cons_append, isPrefixOf_append (length_le_of_before? h)]
    rw [before?] at h
    by_cases hprefix : word.isPrefixOf (c :: rest) = true
    · rw [if_pos hprefix] at h ⊢
      exact h
    · rw [if_neg hprefix] at h ⊢
      obtain ⟨tail, htail, rfl⟩ := Option.map_eq_some_iff.1 h
      rw [ih htail, Option.map_some]

/-- Where a word stands at the end of a text, what comes behind it does not matter to its first
place. -/
theorem before?_append_self (left word : List α) :
    ∃ before, ∀ right, before? word (left ++ word ++ right) = some before := by
  cases hfirst : before? word (left ++ word) with
  | none =>
    have hoccurs : occursIn word (left ++ word) = true :=
      occursIn_iff_infix.2 (List.suffix_append ..).isInfix
    rw [before?_eq_none_iff, hoccurs] at hfirst
    cases hfirst
  | some before => exact ⟨before, before?_append_of_some hfirst⟩

/-- A word that is nowhere in a text, the end of which is as long as the word, has its first place
behind the beginning of the text, if the text goes on and it then has one. -/
theorem before?_append_of_none {middle : List α} (hlength : word.length ≤ middle.length)
    (hnone : before? word (left ++ middle) = none) (right : List α) :
    before? word (left ++ (middle ++ right)) =
      (before? word (middle ++ right)).map (left ++ ·) := by
  induction left with
  | nil => rw [List.nil_append]; exact (Option.map_id' ..).symm
  | cons c rest ih =>
    rw [List.cons_append, before?] at hnone
    by_cases hprefix : word.isPrefixOf (c :: (rest ++ middle)) = true
    · rw [if_pos hprefix] at hnone
      cases hnone
    · rw [if_neg hprefix, Option.map_eq_none_iff] at hnone
      -- the word does not begin the longer text either, of which it would see no more than this
      have hlong : word.length ≤ (c :: (rest ++ middle)).length := by
        rw [List.length_cons, List.length_append]
        omega
      rw [← isPrefixOf_append hlong right, List.cons_append, List.append_assoc] at hprefix
      rw [List.cons_append, before?, if_neg hprefix, ih hnone, Option.map_map]
      rfl

end Text

open Text (before? occursIn)

/-! ## What is shown of an address -/

/-- What stands behind `/v2/` is hidden, or else what stands behind `/v3/`, or else nothing. -/
theorem maskUrl_eq (url : String) :
    maskUrl url = ((maskAfter? "/v2/" url).or (maskAfter? "/v3/" url)).getD url := by
  rw [maskUrl, keyMarks, List.findSome?_cons, List.findSome?_cons, List.findSome?_nil]
  cases maskAfter? "/v2/" url <;> cases maskAfter? "/v3/" url <;> rfl

/-- What is shown of an address in which a mark stands does not depend on what comes behind the
mark, if this is the only mark that is looked for. -/
theorem maskAfter?_append_self (mark p : String) :
    ∃ shown, ∀ key, maskAfter? mark (p ++ mark ++ key) = some (shown ++ (mark ++ hiddenKey)) := by
  obtain ⟨cs, hcs⟩ := Text.before?_append_self p.toList mark.toList
  refine ⟨String.ofList cs, fun key => ?_⟩
  rw [maskAfter?, String.toList_append, String.toList_append, hcs, Option.map_some,
    String.append_assoc]

/-- What a key behind `/v3/` would show of itself, with this mark before it: all that comes before a
mark `/v2/`. -/
def exposed? (key : String) : Option String :=
  (before? "/v2/".toList ("/v3/".toList ++ key.toList)).map String.ofList

/-- Whether an address holds the mark `/v2/` by the end of a mark `/v3/` that follows it. -/
def IsCovered (p : String) : Prop := occursIn "/v2/".toList (p ++ "/v3/").toList = true

/-- Nothing behind `/v3/` is shown if there is a mark `/v2/` by then. -/
theorem maskUrl_of_isCovered {p : String} (h : IsCovered p) :
    ∃ shown, ∀ key, maskUrl (p ++ "/v3/" ++ key) = shown := by
  cases hfirst : before? "/v2/".toList (p ++ "/v3/").toList with
  | none =>
    rw [Text.before?_eq_none_iff, h] at hfirst
    cases hfirst
  | some cs =>
    refine ⟨String.ofList cs ++ "/v2/" ++ hiddenKey, fun key => ?_⟩
    have hmask : maskAfter? "/v2/" (p ++ "/v3/" ++ key) =
        some (String.ofList cs ++ "/v2/" ++ hiddenKey) := by
      rw [maskAfter?, String.toList_append, Text.before?_append_of_some hfirst, Option.map_some]
    rw [maskUrl_eq, hmask, Option.some_or, Option.getD_some]

/-- If there is none, a key that holds a mark `/v2/` is shown up to there, and any other key is
hidden. -/
theorem maskUrl_of_not_isCovered {p : String} (h : ¬ IsCovered p) :
    ∃ shown, ∀ key, maskUrl (p ++ "/v3/" ++ key) =
      match exposed? key with
      | some text => (p ++ text) ++ ("/v2/" ++ hiddenKey)
      | none => shown ++ ("/v3/" ++ hiddenKey) := by
  obtain ⟨shown, hshown⟩ := maskAfter?_append_self "/v3/" p
  have hnone : before? "/v2/".toList (p.toList ++ "/v3/".toList) = none := by
    rw [← String.toList_append, Text.before?_eq_none_iff]
    exact Bool.eq_false_iff.2 h
  refine ⟨shown, fun key => ?_⟩
  have hmask : maskAfter? "/v2/" (p ++ "/v3/" ++ key) =
      (exposed? key).map fun text => (p ++ text) ++ ("/v2/" ++ hiddenKey) := by
    rw [maskAfter?, String.toList_append, String.toList_append, List.append_assoc,
      Text.before?_append_of_none (by decide) hnone, exposed?, Option.map_map, Option.map_map]
    refine congrArg (Option.map · _) (funext fun cs => ?_)
    rw [Function.comp_apply, Function.comp_apply, String.ofList_append, String.ofList_toList,
      String.append_assoc]
  rw [maskUrl_eq, hmask, hshown]
  cases exposed? key <;> rfl

/-- What is shown in front of one mark is never shown in front of the other. -/
theorem append_second_ne_first (shown text : String) :
    shown ++ ("/v3/" ++ hiddenKey) ≠ text ++ ("/v2/" ++ hiddenKey) := by
  intro h
  have hlists : shown.toList ++ ("/v3/" ++ hiddenKey).toList =
      text.toList ++ ("/v2/" ++ hiddenKey).toList := by
    rw [← String.toList_append, ← String.toList_append, h]
  exact absurd (List.append_inj_right' hlists (by decide)) (by decide)

/-- **An address with another key.** Behind `/v2/` no key shows anything of itself. Behind `/v3/`
two keys are shown alike just if there is a mark `/v2/` before them, or if they expose the same:
nothing, or the same beginning. -/
theorem maskUrl_with_other_key (p key key' : String) :
    maskUrl (p ++ "/v2/" ++ key) = maskUrl (p ++ "/v2/" ++ key') ∧
    (∀ e : Endpoints, { e with primary := p ++ "/v2/" ++ key }.maskedUrl =
      { e with primary := p ++ "/v2/" ++ key' }.maskedUrl) ∧
    (maskUrl (p ++ "/v3/" ++ key) = maskUrl (p ++ "/v3/" ++ key') ↔
      IsCovered p ∨ exposed? key = exposed? key') := by
  have hfirst : maskUrl (p ++ "/v2/" ++ key) = maskUrl (p ++ "/v2/" ++ key') := by
    obtain ⟨shown, hshown⟩ := maskAfter?_append_self "/v2/" p
    rw [maskUrl_eq, hshown, maskUrl_eq, hshown]
    rfl
  refine ⟨hfirst, fun e => hfirst, ?_⟩
  -- a mark that comes first hides all behind it, the key included
  by_cases hcovered : IsCovered p
  · obtain ⟨shown, hshown⟩ := maskUrl_of_isCovered hcovered
    rw [hshown, hshown]
    exact iff_of_true rfl (Or.inl hcovered)
  · obtain ⟨shown, hshown⟩ := maskUrl_of_not_isCovered hcovered
    rw [hshown, hshown, or_iff_right hcovered]
    -- else the key shows what stands before a mark in it, if there is one
    cases hkey : exposed? key with
    | none =>
      cases hkey' : exposed? key' with
      | none => exact iff_of_true rfl rfl
      | some text' =>
        exact iff_of_false (append_second_ne_first shown _) (Option.some_ne_none _).symm
    | some text =>
      cases hkey' : exposed? key' with
      | none => exact iff_of_false (append_second_ne_first shown _).symm (Option.some_ne_none _)
      | some text' => simp only [String.append_left_inj, String.append_right_inj, Option.some.injEq]

/-- Two keys behind `/v3/`, of which one is shown up to a mark `/v2/` in it. -/
theorem maskUrl_shows_key :
    occursIn "/v2/".toList "https://x".toList = false ∧
      occursIn "/v3/".toList "https://x".toList = false ∧
      maskUrl ("https://x" ++ "/v3/" ++ "secret/v2/b") = "https://x/v3/secret/v2/***HIDDEN***" ∧
      maskUrl ("https://x" ++ "/v3/" ++ "other") = "https://x/v3/***HIDDEN***" := by
  decide

end TokenAudit
