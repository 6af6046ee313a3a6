import Mathlib.Algebra.Ring.Nat
import TokenAudit.Ledger.Recorded

/-! # Injected failures

A query for logs is failed by the first failure that it meets and that has failures left. What
stands for ever fails the same queries each time; what fails a number of times is used up by one
with every query it fails.

* `Standing` and `Recorded.fire_of_standing` — failures that last for ever;
* `Passing`, `RangeFailure.left` and `Recorded.fire_of_passing` — failures that pass. -/

namespace TokenAudit

/-- Whether failures last for ever. -/
def Standing (failures : List RangeFailure) : Prop := ∀ f ∈ failures, f.remaining = none

/-- Whether failures pass: each fails a number of queries, with a code that tells to try again. -/
def Passing (failures : List RangeFailure) : Prop :=
  ∀ f ∈ failures, f.remaining ≠ none ∧ f.code.isRetryable = true

/-- How many queries a failure that passes is still to fail. -/
def RangeFailure.left (f : RangeFailure) : Nat := f.remaining.getD 0

/-- How many queries failures that pass are still to fail together. -/
def failuresLeft (failures : List RangeFailure) : Nat := (failures.map RangeFailure.left).sum

namespace Recorded

/-- The failure that a query for a range meets first. -/
def met (failures : List RangeFailure) (range : Window) : Option RangeFailure :=
  failures.find? fun f => f.range.overlaps range

/-- A failure that lasts for ever fails every query that meets it first, and stays as it is. -/
theorem fire_of_standing {failures : List RangeFailure} (h : Standing failures) (range : Window) :
    fire range failures = ((met failures range).map RangeFailure.code, failures) := by
  induction failures with
  | nil => rfl
  | cons f rest ih =>
    have hrest := ih fun g hg => h g (List.mem_cons_of_mem _ hg)
    rw [fire, hrest, h f (List.mem_cons_self ..)]
    simp only [met, List.find?_cons]
    cases hmeets : f.range.overlaps range with
    | true => rfl
    | false => rfl

/-- A failure that passes is used up by one when it fails a query. -/
theorem fire_of_passing {failures rest : List RangeFailure} {range : Window} {code : Fault.Code}
    (h : Passing failures) (hfire : fire range failures = (some code, rest)) :
    code.isRetryable = true ∧ Passing rest ∧ failuresLeft rest + 1 = failuresLeft failures := by
  induction failures generalizing rest with
  | nil => cases hfire
  | cons f more ih =>
    obtain ⟨hbounded, hcode⟩ := h f (List.mem_cons_self ..)
    have hmore : Passing more := fun g hg => h g (List.mem_cons_of_mem _ hg)
    -- what the later failures do when this one lets the query pass
    have hlater : ∀ rest', fire range more = (some code, rest') → code.isRetryable = true ∧
        Passing (f :: rest') ∧ failuresLeft (f :: rest') + 1 = failuresLeft (f :: more) := by
      intro rest' hfire'
      obtain ⟨hretry, hpassing, hleft⟩ := ih hmore hfire'
      refine ⟨hretry, List.forall_mem_cons.2 ⟨⟨hbounded, hcode⟩, hpassing⟩, ?_⟩
      simp only [failuresLeft, List.map_cons, List.sum_cons] at hleft ⊢
      omega
    obtain ⟨later, rest', hmatch⟩ : ∃ later rest', fire range more = (later, rest') := ⟨_, _, rfl⟩
    rw [fire, hmatch] at hfire
    dsimp only at hfire
    by_cases hmeets : f.range.overlaps range = true
    · rw [if_pos hmeets] at hfire
      cases hleft : f.remaining with
      | none => exact absurd hleft hbounded
      | some n =>
        rw [hleft] at hfire
        cases n with
        | zero =>
          cases hfire
          exact hlater _ hmatch
        | succ n =>
          cases hfire
          refine ⟨hcode, List.forall_mem_cons.2 ⟨⟨by simp, hcode⟩, hmore⟩, ?_⟩
          simp only [failuresLeft, List.map_cons, List.sum_cons, RangeFailure.left, hleft,
            Option.getD_some]
          omega
    · rw [if_neg hmeets] at hfire
      cases hfire
      exact hlater _ hmatch

end Recorded

end TokenAudit
