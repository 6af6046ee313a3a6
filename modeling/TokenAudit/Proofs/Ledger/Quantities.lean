import TokenAudit.Proofs.Text.Numerals

/-! # Texts that are quantities

A quantity is a mark and hexadecimal digits, as many as there are, that stand for a number of 64
bits. More than that is read as a quantity: a plus sign may stand between the mark and the digits.

* `marked?_eq_some_iff` — what stands behind a mark;
* `Denotes`, `DenotesSigned` — which number is meant by a text that is a quantity, and by one with a
  plus sign;
* `Flawed` — what is wrong with any other text.

Main statement: `read_accepts`, and `read_accepts_signed` for a text with a plus sign. -/

namespace TokenAudit.Quantity

variable {text : String} {n : Nat}

/-- The marks that digits in base sixteen stand behind. -/
def marks : List String := ["0x", "0X"]

/-- **What stands behind a mark** is what follows it. -/
theorem marked?_eq_some_iff {cs rest : List Char} :
    marked? cs = some rest ↔ ∃ mark ∈ marks, cs = mark.toList ++ rest := by
  have hlower : "0x".toList = ['0', 'x'] := by decide
  have hupper : "0X".toList = ['0', 'X'] := by decide
  have hmarks : (∃ mark ∈ marks, cs = mark.toList ++ rest) ↔
      cs = '0' :: 'x' :: rest ∨ cs = '0' :: 'X' :: rest := by
    simp [marks, hlower, hupper]
  rw [hmarks]
  fun_cases marked? cs with
  | case1 rest' => simp
  | case2 rest' => simp
  | case3 cs hlower hupper =>
    refine iff_of_false (by simp) ?_
    rintro (h | h)
    · exact hlower rest h
    · exact hupper rest h

/-- A text has no mark exactly if it begins with none of them. -/
theorem marked?_eq_none_iff {cs : List Char} :
    marked? cs = none ↔ ∀ mark ∈ marks, ∀ rest, cs ≠ mark.toList ++ rest := by
  rw [Option.eq_none_iff_forall_ne_some]
  constructor
  · exact fun h mark hmark rest hcs => h rest (marked?_eq_some_iff.2 ⟨mark, hmark, hcs⟩)
  · intro h rest hrest
    obtain ⟨mark, hmark, hcs⟩ := marked?_eq_some_iff.1 hrest
    exact h mark hmark rest hcs

/-- A text is a quantity: a mark, and digits that stand for a number of 64 bits. -/
def Denotes (text : String) (n : Nat) : Prop :=
  ∃ mark ∈ marks, ∃ digits, text.toList = mark.toList ++ digits ∧
    Numeral.Spells 16 digits n ∧ n < UInt64.size

/-- A text is a quantity but for a plus sign behind its mark. -/
def DenotesSigned (text : String) (n : Nat) : Prop :=
  ∃ mark ∈ marks, ∃ digits,
    text.toList = mark.toList ++ '+' :: digits ∧ Numeral.Spells 16 digits n ∧ n < UInt64.size

/-- What is wrong with a text that is no quantity, and is not taken for one. -/
inductive Flawed (text : String) : Flaw → Prop
  | unmarked (h : ∀ mark ∈ marks, ∀ rest, text.toList ≠ mark.toList ++ rest) :
    Flawed text (.unmarked text)
  | empty {mark : String} (hmark : mark ∈ marks) (h : text = mark) : Flawed text .empty
  | unreadable {mark : String} {rest : List Char} (hmark : mark ∈ marks)
    (htext : text.toList = mark.toList ++ rest) (hrest : rest ≠ []) (h : ∀ n, ¬ Denotes text n)
    (hsigned : ∀ n, ¬ DenotesSigned text n) :
    Flawed text (.unreadable text)

/-- What follows a mark decides about a text. -/
theorem read_of_marked {mark : String} {rest : List Char} (hmark : mark ∈ marks)
    (htext : text.toList = mark.toList ++ rest) :
    read text = if rest = [] then .error .empty
      else (Numeral.read 16 UInt64.size rest).mapError fun _ => .unreadable text := by
  rw [read, marked?_eq_some_iff.2 ⟨mark, hmark, htext⟩]
  cases rest with
  | nil => rfl
  | cons c rest =>
    dsimp only
    rw [if_neg (List.cons_ne_nil c rest)]
    cases Numeral.read 16 UInt64.size (c :: rest) <;> rfl

/-- **Numbers are read from quantities**, and from those with a plus sign. -/
theorem read_eq_ok_iff : read text = .ok n ↔ Denotes text n ∨ DenotesSigned text n := by
  have hread :=
    fun rest => @Numeral.read_eq_ok_iff 16 UInt64.size n rest (by decide) (by decide) (by decide)
  constructor
  · intro h
    -- what is read has a mark, and behind it digits with a plus sign or without
    cases hmarked : marked? text.toList with
    | none =>
      rw [read, hmarked] at h
      cases h
    | some rest =>
      obtain ⟨mark, hmark, htext⟩ := marked?_eq_some_iff.1 hmarked
      rw [read_of_marked hmark htext] at h
      split at h
      case isTrue => cases h
      case isFalse hrest =>
        cases hnumber : Numeral.read 16 UInt64.size rest with
        | error flaw =>
          rw [hnumber] at h
          cases h
        | ok m =>
          rw [hnumber] at h
          cases h
          obtain ⟨hspells | ⟨digits, rfl, hspells⟩, hlt⟩ := (hread rest).1 hnumber
          · exact Or.inl ⟨mark, hmark, rest, htext, hspells, hlt⟩
          · exact Or.inr ⟨mark, hmark, digits, htext, hspells, hlt⟩
  · rintro (⟨mark, hmark, digits, htext, hspells, hlt⟩ | ⟨mark, hmark, digits, htext, hspells, hlt⟩)
    · rw [read_of_marked hmark htext, if_neg hspells.ne_nil, (hread digits).2 ⟨Or.inl hspells, hlt⟩]
      rfl
    · rw [read_of_marked hmark htext, if_neg (List.cons_ne_nil '+' digits),
        (hread ('+' :: digits)).2 ⟨Or.inr ⟨digits, rfl, hspells⟩, hlt⟩]
      rfl

/-- What is wrong with a text is what it is refused for. -/
theorem Flawed.read_eq {flaw : Flaw} (h : Flawed text flaw) : read text = .error flaw := by
  cases h with
  | unmarked h => rw [read, marked?_eq_none_iff.2 h]
  | @empty mark hmark h =>
    have htext : text.toList = mark.toList ++ [] := by rw [h, List.append_nil]
    rw [read_of_marked hmark htext, if_pos rfl]
  | @unreadable mark rest hmark htext hrest h hsigned =>
    have hno : ∀ n, read text ≠ .ok n := fun n hn => (read_eq_ok_iff.1 hn).elim (h n) (hsigned n)
    rw [read_of_marked hmark htext, if_neg hrest] at hno ⊢
    cases hnumber : Numeral.read 16 UInt64.size rest with
    | error flaw => rfl
    | ok n =>
      rw [hnumber] at hno
      exact absurd rfl (hno n)

/-- A text is a quantity, or is taken for one, or something is wrong with it. -/
theorem denotes_or_flawed (text : String) :
    (∃ n, Denotes text n ∨ DenotesSigned text n) ∨ ∃ flaw, Flawed text flaw := by
  by_cases hmarked : ∃ mark ∈ marks, ∃ rest, text.toList = mark.toList ++ rest
  case neg =>
    push Not at hmarked
    exact Or.inr ⟨_, .unmarked hmarked⟩
  obtain ⟨mark, hmark, rest, htext⟩ := hmarked
  by_cases hrest : rest = []
  · rw [hrest, List.append_nil] at htext
    exact Or.inr ⟨_, .empty hmark (String.toList_inj.1 htext)⟩
  · by_cases hread : ∃ n, Denotes text n ∨ DenotesSigned text n
    · exact Or.inl hread
    · push Not at hread
      exact Or.inr ⟨_, .unreadable hmark htext hrest (fun n => (hread n).1) fun n => (hread n).2⟩

/-- **Which texts are read as quantities.** A number is read from a quantity that denotes it, and
from such a text with a plus sign behind its mark. Every other text is refused for what is wrong
with it, as an answer that cannot be understood. That only quantities are read is a right
description of this except for the texts with a plus sign. -/
theorem read_accepts (text : String) :
    (∀ n, read text = .ok n ↔ Denotes text n ∨ DenotesSigned text n) ∧
    (∀ flaw, read text = .error flaw ↔ Flawed text flaw) ∧
    (∀ flaw : Flaw, flaw.fault.code = .invalidResponse) ∧
    ((∀ n, read text = .ok n ↔ Denotes text n) ↔ ¬ ∃ n, DenotesSigned text n) := by
  refine ⟨fun n => read_eq_ok_iff, fun flaw => ⟨fun h => ?_, Flawed.read_eq⟩, fun flaw => rfl, ?_⟩
  · rcases denotes_or_flawed text with ⟨n, hn⟩ | ⟨flaw', hflaw⟩
    · rw [read_eq_ok_iff.2 hn] at h
      cases h
    · rw [hflaw.read_eq] at h
      cases h
      exact hflaw
  · constructor
    · rintro h ⟨n, hsigned⟩
      -- the digits would have to be the plus sign and those behind it
      obtain ⟨mark, hmark, digits, htext, hspells, -⟩ := (h n).1 (read_eq_ok_iff.2 (Or.inr hsigned))
      obtain ⟨mark', hmark', digits', htext', -⟩ := hsigned
      have hsame := marked?_eq_some_iff.2 ⟨mark, hmark, htext⟩
      rw [marked?_eq_some_iff.2 ⟨mark', hmark', htext'⟩] at hsame
      exact hspells.head_ne_plus (by decide) digits' (Option.some.inj hsame).symm
    · intro h n
      rw [read_eq_ok_iff]
      exact or_iff_left fun hsigned => h ⟨n, hsigned⟩

/-- Sixteen is read from a text that has a plus sign between mark and digits, and is no quantity. -/
theorem read_accepts_signed : read "0x+10" = .ok 16 ∧ ¬ ∃ n, Denotes "0x+10" n := by
  refine ⟨by decide +kernel, ?_⟩
  rintro ⟨n, mark, hmark, digits, htext, hspells, -⟩
  have hrest := marked?_eq_some_iff.2 ⟨mark, hmark, htext⟩
  have hplus : marked? "0x+10".toList = some ['+', '1', '0'] := by decide
  rw [hplus] at hrest
  exact hspells.head_ne_plus (by decide) ['1', '0'] (Option.some.inj hrest).symm

end TokenAudit.Quantity
