import Mathlib.Algebra.Order.BigOperators.Group.List
import TokenAudit.Proofs.Transfer.Conservation

/-! # The sum of all balances

All balances of a replay together are zero, but their sum is taken one balance after the other, and
no partial sum leaves the signed words. Where a partial sum would leave them, something is lost, and
what is left at the end depends on the order. Nothing is lost in any order just when the balances
above zero fit into a signed word together.

* `Replay.holdings`, `Replay.debts` — the balances above zero taken together, and all others;
* `Replay.foldl_clamp_of_room` — with room on both sides nothing is lost;
* `Replay.saturatingSum_neg` — if all holdings come first and do not fit, the debts outweigh what is
  left;
* `Replay.orders_sum_to_zero_iff` — when balances that are zero together sum to zero in every order.

Main statement: `netSum_eq_zero_iff`. -/

namespace TokenAudit

namespace Replay

/-! ## Holdings and debts -/

/-- The balances above zero, taken together. -/
def holdings (balances : List Int) : Int := (balances.filter fun b => 0 < b).sum

/-- The balances that are not above zero, taken together. -/
def debts (balances : List Int) : Int := (balances.filter fun b => b ≤ 0).sum

/-- A further balance is one more holding if it is above zero. -/
theorem holdings_cons (b : Int) (balances : List Int) :
    holdings (b :: balances) = (if 0 < b then b else 0) + holdings balances := by
  by_cases h : 0 < b <;> simp [holdings, h]

/-- A further balance is one more debt if it is not above zero. -/
theorem debts_cons (b : Int) (balances : List Int) :
    debts (b :: balances) = (if 0 < b then 0 else b) + debts balances := by
  by_cases h : 0 < b <;> simp [debts, h, Int.not_lt.1]

/-- Numbers of which none is above zero are not above zero together. -/
theorem sum_nonpos {balances : List Int} (h : ∀ b ∈ balances, b ≤ 0) : balances.sum ≤ 0 := by
  simpa using List.sum_le_card_nsmul balances 0 h

/-- Holdings are not below zero. -/
theorem holdings_nonneg (balances : List Int) : 0 ≤ holdings balances := by
  refine List.sum_nonneg fun b hb => ?_
  have hpos : 0 < b := by simpa using (List.mem_filter.1 hb).2
  omega

/-- Debts are not above zero. -/
theorem debts_nonpos (balances : List Int) : debts balances ≤ 0 := by
  refine sum_nonpos fun b hb => ?_
  simpa using (List.mem_filter.1 hb).2

/-- Holdings and debts are all balances. -/
theorem holdings_add_debts (balances : List Int) :
    holdings balances + debts balances = balances.sum := by
  induction balances with
  | nil => rfl
  | cons b rest ih =>
    rw [holdings_cons, debts_cons, List.sum_cons]
    split <;> omega

/-- Holdings do not hang on the order of balances. -/
theorem holdings_perm {one two : List Int} (h : one.Perm two) : holdings one = holdings two :=
  (h.filter _).sum_eq

/-! ## Partial sums -/

/-- A signed word is left as it is. -/
theorem clamp_of_fits {n : Int} (h : FitsSigned n) : clamp n = n := by
  unfold FitsSigned at h
  unfold clamp
  omega

/-- What is brought back is below the first number that is too great. -/
theorem clamp_lt_half (n : Int) : clamp n < Word.half := by
  have hhalf : (0 : Int) < Word.half := by decide
  unfold clamp
  omega

/-- Where there is room above for all holdings and room below for all debts, no partial sum is
cut. -/
theorem foldl_clamp_of_room (balances : List Int) (start : Int)
    (hlow : -(Word.half : Int) ≤ start + debts balances)
    (hhigh : start + holdings balances < Word.half) :
    balances.foldl (fun sum b => clamp (sum + b)) start = start + balances.sum := by
  induction balances generalizing start with
  | nil => rw [List.foldl_nil, List.sum_nil, Int.add_zero]
  | cons b rest ih =>
    have hholdings := holdings_nonneg rest
    have hdebts := debts_nonpos rest
    rw [debts_cons] at hlow
    rw [holdings_cons] at hhigh
    -- the next partial sum is in range, since what comes after it can only lead back into the room
    have hfits : FitsSigned (start + b) := by
      unfold FitsSigned
      split at hlow <;> split at hhigh <;> omega
    rw [List.foldl_cons, clamp_of_fits hfits, ih, List.sum_cons, Int.add_assoc]
    · split at hlow <;> omega
    · split at hhigh <;> omega

/-- So is every sum that is brought back on the way. -/
theorem foldl_clamp_lt_half (balances : List Int) {start : Int} (hstart : start < Word.half) :
    balances.foldl (fun sum b => clamp (sum + b)) start < Word.half := by
  induction balances generalizing start with
  | nil => exact hstart
  | cons b rest ih => exact ih (clamp_lt_half _)

/-- Taking away debts leads no higher than their sum says, but for the lower end of the range. -/
theorem foldl_clamp_le {balances : List Int} (hdebts : ∀ b ∈ balances, b ≤ 0) (start : Int) :
    balances.foldl (fun sum b => clamp (sum + b)) start ≤
      max (start + balances.sum) (-(Word.half : Int)) := by
  induction balances generalizing start with
  | nil =>
    rw [List.foldl_nil, List.sum_nil]
    omega
  | cons b rest ih =>
    have hrest := ih (fun b hb => hdebts b (List.mem_cons_of_mem _ hb)) (clamp (start + b))
    have hsum : rest.sum ≤ 0 := sum_nonpos fun b hb => hdebts b (List.mem_cons_of_mem _ hb)
    have hclamp : clamp (start + b) ≤ max (start + b) (-(Word.half : Int)) := by
      unfold clamp
      omega
    rw [List.foldl_cons, List.sum_cons]
    omega

/-- If the holdings come first and do not fit, what is lost of them is missing in the end. -/
theorem saturatingSum_neg {balances : List Int} (hsum : balances.sum = 0)
    (hover : (Word.half : Int) ≤ holdings balances) :
    saturatingSum ((balances.filter fun b => 0 < b) ++ balances.filter fun b => b ≤ 0) < 0 := by
  have hhalf : (0 : Int) < Word.half := by decide
  have hfirst := foldl_clamp_lt_half (balances.filter fun b => 0 < b) hhalf
  have hdebts : ∀ b ∈ balances.filter fun b => b ≤ 0, b ≤ 0 := fun b hb => by
    simpa using (List.mem_filter.1 hb).2
  have hsecond := foldl_clamp_le hdebts
    ((balances.filter fun b => 0 < b).foldl (fun sum b => clamp (sum + b)) 0)
  have hrest := holdings_add_debts balances
  unfold debts at hrest
  unfold saturatingSum
  rw [List.foldl_append]
  omega

/-! ## Every order -/

/-- Balances that are zero together sum to zero in every order just when the holdings fit. -/
theorem orders_sum_to_zero_iff {balances : List Int} (hsum : balances.sum = 0) :
    (∀ order : List Int, order.Perm balances → saturatingSum order = 0) ↔
      holdings balances < Word.half := by
  constructor
  · intro h
    by_contra hover
    -- the order in which all holdings come first is one of them
    have horder : ((balances.filter fun b => 0 < b) ++ balances.filter fun b => b ≤ 0).Perm
        balances := by
      have hperm := List.filter_append_perm (fun b => decide (0 < b)) balances
      have hrest : ∀ b ∈ balances, (!decide (0 < b)) = decide (b ≤ 0) := fun b _ => by
        rw [← decide_not, decide_eq_decide, Int.not_lt]
      rwa [List.filter_congr hrest] at hperm
    have hneg := saturatingSum_neg hsum (Int.not_lt.1 hover)
    rw [h _ horder] at hneg
    exact absurd hneg (Int.lt_irrefl 0)
  · intro hroom order horder
    have hholdings := holdings_perm horder
    have hdebts := holdings_add_debts order
    have hzero : order.sum = 0 := horder.sum_eq.trans hsum
    unfold saturatingSum
    rw [foldl_clamp_of_room order 0 (by omega) (by omega), hzero, Int.add_zero]

/-- The order of the accounts is one of the orders of the balances. -/
theorem byAccount_perm (r : Replay) : (r.byAccount.map Prod.snd).Perm r.balances.values :=
  (List.mergeSort_perm _ _).map _

end Replay

/-- **When the sum of all balances is zero.** The balances of a replay come out at zero in every
order in which their sum can be taken just when those above zero make up a signed word together, and
then the sum in the order of the accounts is zero too. -/
theorem netSum_eq_zero_iff (logs : List Log) :
    ((∀ order : List Int, order.Perm (replay logs).balances.values →
      Replay.saturatingSum order = 0) ↔
      Replay.holdings (replay logs).balances.values ≤ 2 ^ 255 - 1) ∧
    (Replay.holdings (replay logs).balances.values ≤ 2 ^ 255 - 1 → (replay logs).netSum = 0) := by
  obtain ⟨transfers, -, hbalanced, -⟩ := balanced_replay logs
  have hhalf : (Word.half : Int) = 2 ^ 255 := by decide
  have horders := Replay.orders_sum_to_zero_iff hbalanced.sum_values
  have hfits : Replay.holdings (replay logs).balances.values ≤ 2 ^ 255 - 1 ↔
      Replay.holdings (replay logs).balances.values < Word.half := by omega
  rw [hfits]
  exact ⟨horders, fun hroom => horders.2 hroom _ (replay logs).byAccount_perm⟩

/-- Two logs of one account that gives `2 ^ 254` to each of two others. -/
def evenSplit : List Log :=
  [Transfer.toLog ⟨.ofNat 3, .ofNat 1, 2 ^ 254⟩ none,
    Transfer.toLog ⟨.ofNat 3, .ofNat 2, 2 ^ 254⟩ none]

/-- What the two accounts hold is one too much for a signed word, and one is lost. -/
theorem netSum_evenSplit :
    (replay evenSplit).balances.values.sum = 0 ∧ (replay evenSplit).netSum = -1 := by
  have hfits : 2 ^ 254 < Word.size := by decide
  have hread : ∀ recipient, Transfer.ofLog (Transfer.toLog ⟨.ofNat 3, recipient, 2 ^ 254⟩ none) =
      .ok ⟨.ofNat 3, recipient, 2 ^ 254⟩ := fun recipient => Transfer.ofLog_toLog hfits none
  have hentries : (replay evenSplit).balances.entries =
      [(.ofNat 3, -2 ^ 255), (.ofNat 1, 2 ^ 254), (.ofNat 2, 2 ^ 254)] := by
    rw [replay, evenSplit, List.foldl_cons, List.foldl_cons, List.foldl_nil,
      Replay.step, Replay.step, hread, hread]
    decide
  have horder : (replay evenSplit).byAccount =
      [(.ofNat 1, 2 ^ 254), (.ofNat 2, 2 ^ 254), (.ofNat 3, -2 ^ 255)] := by
    have hfirst : ¬ Address.ofNat 3 ≤ Address.ofNat 1 := by decide
    have hsecond : ¬ Address.ofNat 3 ≤ Address.ofNat 2 := by decide
    have hothers : Address.ofNat 1 ≤ Address.ofNat 2 := by decide
    rw [Replay.byAccount, hentries]
    simp [List.mergeSort, List.MergeSort.Internal.splitInTwo, hfirst, hsecond, hothers]
  rw [Table.values, hentries, Replay.netSum, horder]
  decide

end TokenAudit
