import Mathlib.Algebra.Order.Field.Rat
import Mathlib.Order.Interval.Set.Basic
import TokenAudit.Proofs.Transfer.NetSum
import TokenAudit.Proofs.Transfer.Ranking

/-! # Shares of holders

The shares that a snapshot gives are shares of a whole: what the listed holders have, and what the
first one has, is never more than the total supply, and that is never zero. All these sums stop at
the greatest word, but since each of them stops at the same number as a sum taken without such an
end, none overtakes another. Where nothing is cut off, the total supply is what the accounts below
zero owe.

* `sumBalances_eq` — a sum of balances is the exact one, or the greatest word;
* `sumBalances_mono` — more holders have no less;
* `sum_balances_rankHolders` — what is ranked adds up to the holdings;
* `totalSupply_concentrate` — the total supply, for holders of whom the first ones are listed.

Main statement: `shares_of_supply`. -/

namespace TokenAudit

/-! ## Sums of balances -/

/-- Adding balances one by one and stopping at the greatest word comes to the exact sum, or to the
greatest word. -/
theorem foldl_balances_eq (holders : List HolderBalance) {start : Nat}
    (hstart : start ≤ Word.last) :
    holders.foldl (fun sum h => min Word.last (sum + h.balance)) start =
      min Word.last (start + (holders.map HolderBalance.balance).sum) := by
  induction holders generalizing start with
  | nil =>
    rw [List.foldl_nil, List.map_nil, List.sum_nil, Nat.add_zero, Nat.min_eq_right hstart]
  | cons h rest ih =>
    rw [List.foldl_cons, ih (Nat.min_le_left ..), List.map_cons, List.sum_cons]
    omega

/-- The sum of balances stops at the greatest word. -/
theorem sumBalances_eq (holders : List HolderBalance) :
    sumBalances holders = min Word.last (holders.map HolderBalance.balance).sum := by
  rw [sumBalances, foldl_balances_eq holders (Nat.zero_le _), Nat.zero_add]

/-- More holders have no less. -/
theorem sumBalances_mono {one two : List HolderBalance} (h : one <+: two) :
    sumBalances one ≤ sumBalances two := by
  obtain ⟨more, rfl⟩ := h
  rw [sumBalances_eq, sumBalances_eq, List.map_append, List.sum_append]
  omega

/-- The first holder has no more than all together, if its balance is a word. -/
theorem balance_le_sumBalances {holders : List HolderBalance} {first : HolderBalance}
    (hfirst : first ∈ holders.head?) (hword : first.balance ≤ Word.last) :
    first.balance ≤ sumBalances holders := by
  cases holders with
  | nil => cases hfirst
  | cons h rest =>
    cases hfirst
    rw [sumBalances_eq, List.map_cons, List.sum_cons]
    omega

/-! ## What is ranked -/

/-- What is ranked adds up to the holdings. -/
theorem sum_balances_rankHolders (entries : List (Address × Int)) :
    (((rankHolders entries).map HolderBalance.balance).sum : Int) =
      Replay.holdings (entries.map Prod.snd) := by
  rw [((perm_rankHolders entries).map HolderBalance.balance).sum_eq, List.map_map]
  induction entries with
  | nil => rfl
  | cons e rest ih =>
    rw [List.map_cons, Replay.holdings_cons, ← ih]
    by_cases hpos : 0 < e.2
    · rw [List.filter_cons_of_pos (by simpa using hpos), List.map_cons, List.sum_cons, if_pos hpos,
        Nat.cast_add, Function.comp_apply, Int.toNat_of_nonneg (Int.le_of_lt hpos)]
    · rw [List.filter_cons_of_neg (by simpa using hpos), if_neg hpos, Int.zero_add]

/-- Balances below zero are all debts there are. -/
theorem sum_neg_eq_debts (balances : List Int) :
    (balances.filter fun b => b < 0).sum = Replay.debts balances := by
  induction balances with
  | nil => rfl
  | cons b rest ih =>
    rw [Replay.debts_cons, ← ih]
    by_cases hneg : b < 0
    · rw [List.filter_cons_of_pos (by simpa using hneg), List.sum_cons, if_neg (by omega)]
    · rw [List.filter_cons_of_neg (by simpa using hneg)]
      split <;> omega

/-- Each holder of a replay has a balance above zero, which is a signed word. -/
theorem balance_of_mem_holders {logs : List Log} {h : HolderBalance}
    (hh : h ∈ (replay logs).holders) : 0 < h.balance ∧ h.balance ≤ 2 ^ 255 - 1 := by
  obtain ⟨transfers, -, hbalanced, -⟩ := balanced_replay logs
  obtain ⟨hpos, hmem⟩ := mem_rankHolders_iff.1 hh
  have hfits := (fitsSigned_iff _).1 (hbalanced.fits _ (List.mem_map_of_mem (f := Prod.snd) hmem))
  dsimp only at hfits
  exact ⟨hpos, by omega⟩

/-- The total supply is what is ranked together as far as words go; it is never zero. -/
theorem totalSupply_concentrate (ranked top : List HolderBalance) :
    (concentrate ranked top).totalSupply =
      max 1 (min (2 ^ 256 - 1) (ranked.map HolderBalance.balance).sum) := by
  have hlast : Word.last = 2 ^ 256 - 1 := by decide
  show max 1 (sumBalances ranked) = _
  rw [sumBalances_eq, hlast]

/-- Where there is a first holder, its share is one of the total supply. -/
theorem topHolderShare_concentrate (ranked top : List HolderBalance) :
    (concentrate ranked top).topHolderShare =
      ranked.head?.elim 0.0 fun first =>
        percent first.balance (concentrate ranked top).totalSupply := by
  cases ranked with
  | nil => rfl
  | cons first rest => rfl

/-- Holders of a replay, if there are any, have something together. -/
theorem sum_balances_pos {logs : List Log} (h : (replay logs).holders ≠ []) :
    0 < ((replay logs).holders.map HolderBalance.balance).sum := by
  obtain ⟨first, rest, hcons⟩ := List.exists_cons_of_ne_nil h
  have hmem : first ∈ (replay logs).holders := by
    rw [hcons]
    exact List.mem_cons_self ..
  have hfirst := balance_of_mem_holders hmem
  rw [hcons, List.map_cons, List.sum_cons]
  omega

/-- Where nothing is cut off, what is ranked together is what the accounts below zero owe. -/
theorem sum_balances_eq_neg_sum (logs : List Log) :
    (((replay logs).holders.map HolderBalance.balance).sum : Int) =
      -((replay logs).balances.values.filter fun b => b < 0).sum := by
  obtain ⟨transfers, -, hbalanced, -⟩ := balanced_replay logs
  have hzero := Replay.holdings_add_debts (replay logs).balances.values
  rw [hbalanced.sum_values] at hzero
  rw [sum_neg_eq_debts, Replay.holders, sum_balances_rankHolders]
  show Replay.holdings (replay logs).balances.values = _
  omega

/-- A part of a supply above zero is a share between none and all. -/
theorem share_mem_unit {part whole : Nat} (hpart : part ≤ whole) (hwhole : whole ≠ 0) :
    (part / whole : ℚ) ∈ Set.Icc 0 1 := by
  have hpos : (0 : ℚ) < whole := by exact_mod_cast Nat.pos_of_ne_zero hwhole
  refine ⟨div_nonneg (Nat.cast_nonneg part) (Nat.cast_nonneg whole), ?_⟩
  rw [div_le_one₀ hpos]
  exact_mod_cast hpart

/-- **Shares of the total supply.** Of the holders of any logs, however many are listed, the total
supply is what all of them have, but at least one and at most the greatest word. Unless it is cut
off, it is what the accounts below zero owe. The listed holders, and the first one, have no more
than that; the longer the list the more they have, and once it names all they have all. So the two
shares that are given in percent are between none and all of something. -/
theorem shares_of_supply (logs : List Log) (topN : Nat) :
    let ranked := (replay logs).holders
    let top := ranked.take topN
    let figures := concentrate ranked top
    let total := (ranked.map HolderBalance.balance).sum
    figures.totalSupply = max 1 (min (2 ^ 256 - 1) total) ∧ figures.totalSupply ≠ 0 ∧
    (total < 2 ^ 256 → ranked ≠ [] →
      (figures.totalSupply : Int) = -((replay logs).balances.values.filter fun b => b < 0).sum) ∧
    sumBalances top = min (2 ^ 256 - 1) (top.map HolderBalance.balance).sum ∧
    sumBalances top ≤ figures.totalSupply ∧
    (∀ first ∈ ranked.head?, first.balance ≤ figures.totalSupply) ∧
    (∀ more, topN ≤ more → sumBalances top ≤ sumBalances (ranked.take more)) ∧
    (ranked.length ≤ topN → ranked ≠ [] → sumBalances top = figures.totalSupply) ∧
    figures.centralizationScore = percent (sumBalances top) figures.totalSupply ∧
    figures.topHolderShare =
      ranked.head?.elim 0.0 (fun first => percent first.balance figures.totalSupply) ∧
    (sumBalances top / figures.totalSupply : ℚ) ∈ Set.Icc 0 1 ∧
    ∀ first ∈ ranked.head?, (first.balance / figures.totalSupply : ℚ) ∈ Set.Icc 0 1 := by
  intro ranked top figures total
  have hsupply : figures.totalSupply = max 1 (min (2 ^ 256 - 1) total) :=
    totalSupply_concentrate ranked top
  have hlast : Word.last = 2 ^ 256 - 1 := by decide
  have hne : figures.totalSupply ≠ 0 := by omega
  have hall : sumBalances ranked ≤ figures.totalSupply := Nat.le_max_right 1 _
  have htop : sumBalances top ≤ figures.totalSupply :=
    Nat.le_trans (sumBalances_mono (List.take_prefix topN ranked)) hall
  have hfirst : ∀ first ∈ ranked.head?, first.balance ≤ figures.totalSupply := by
    intro first hmem
    have hword : first.balance ≤ Word.last :=
      Nat.le_trans (balance_of_mem_holders (List.mem_of_mem_head? hmem)).2 (by decide)
    exact (balance_le_sumBalances hmem hword).trans hall
  refine ⟨hsupply, hne, fun hfits hsome => ?_, ?_, htop, hfirst, fun more hmore => ?_,
    fun hlong hsome => ?_, rfl, ?_, share_mem_unit htop hne,
    fun first hmem => share_mem_unit (hfirst first hmem) hne⟩
  · -- what some accounts hold the others owe
    have hpos : 0 < total := sum_balances_pos hsome
    have htotal : (total : Int) = _ := sum_balances_eq_neg_sum logs
    omega
  · rw [sumBalances_eq, hlast]
  · exact sumBalances_mono (List.take_prefix_take_left hmore)
  · have hpos : 0 < total := sum_balances_pos hsome
    show sumBalances (ranked.take topN) = _
    rw [List.take_of_length_le hlong, sumBalances_eq, hsupply, hlast]
    show min (2 ^ 256 - 1) total = _
    omega
  · exact topHolderShare_concentrate ranked top

end TokenAudit
