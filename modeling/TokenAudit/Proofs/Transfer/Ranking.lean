import TokenAudit.Proofs.Table
import TokenAudit.Transfer.Concentration

/-! # The ranking of holders

Ranks leave no choice: of two holders one outranks the other, and both do only if they are the same.
So the ranking of a replay hangs on what each account holds, and not on the order in which the
balances come.

* `HolderBalance.outranks_iff` — the order of ranks, and `HolderBalance.outranks_trans`,
  `HolderBalance.outranks_total`, `HolderBalance.outranks_antisymm`, it is a total one;
* `perm_rankHolders`, `mem_rankHolders_iff` — what is ranked;
* `rankHolders_perm` — balances in another order give the same ranking;
* `Replay.holders_congr` — replays with the same balances have the same holders. -/

namespace TokenAudit

namespace HolderBalance

/-- A holder outranks another one by a greater balance, and by its address if the balances are the
same. -/
theorem outranks_iff {a b : HolderBalance} :
    a.outranks b = true ↔
      b.balance < a.balance ∨ a.balance = b.balance ∧ a.address.toNat ≤ b.address.toNat := by
  simp only [outranks, Bool.or_eq_true, Bool.and_eq_true, decide_eq_true_eq, beq_iff_eq]
  exact Iff.rfl

/-- Ranking no lower passes on from one holder to the next. -/
theorem outranks_trans {a b c : HolderBalance} (hab : a.outranks b = true)
    (hbc : b.outranks c = true) : a.outranks c = true := by
  rw [outranks_iff] at hab hbc ⊢
  omega

/-- Of two holders one ranks no lower than the other. -/
theorem outranks_total (a b : HolderBalance) : (a.outranks b || b.outranks a) = true := by
  rw [Bool.or_eq_true, outranks_iff, outranks_iff]
  omega

/-- Holders of which each ranks no lower than the other are the same. -/
theorem outranks_antisymm {a b : HolderBalance} (hab : a.outranks b = true)
    (hba : b.outranks a = true) : a = b := by
  rw [outranks_iff] at hab hba
  obtain ⟨address, balance⟩ := a
  obtain ⟨address', balance'⟩ := b
  have hbalance : balance = balance' := by dsimp only at hab hba; omega
  have haddress : address = address' := Address.ext (by dsimp only at hab hba; omega)
  rw [hbalance, haddress]

end HolderBalance

/-- Ranked are the balances above zero, in some order. -/
theorem perm_rankHolders (balances : List (Address × Int)) :
    (rankHolders balances).Perm
      ((balances.filter fun e => 0 < e.2).map fun e => ⟨e.1, e.2.toNat⟩) :=
  List.mergeSort_perm _ _

/-- Ranked are the balances above zero. -/
theorem mem_rankHolders_iff {balances : List (Address × Int)} {h : HolderBalance} :
    h ∈ rankHolders balances ↔ 0 < h.balance ∧ (h.address, (h.balance : Int)) ∈ balances := by
  rw [(perm_rankHolders balances).mem_iff, List.mem_map]
  constructor
  · rintro ⟨⟨x, b⟩, he, rfl⟩
    obtain ⟨hmem, hpos⟩ := List.mem_filter.1 he
    have hb : 0 < b := by simpa using hpos
    have hnat : ((b.toNat : Nat) : Int) = b := Int.toNat_of_nonneg (Int.le_of_lt hb)
    exact ⟨by show 0 < b.toNat; omega, by rw [hnat]; exact hmem⟩
  · rintro ⟨hpos, hmem⟩
    exact ⟨_, List.mem_filter.2 ⟨hmem, by simpa using hpos⟩, rfl⟩

/-- Where no account has two balances, none is ranked twice. -/
theorem nodup_addresses_rankHolders {balances : List (Address × Int)}
    (h : (balances.map Prod.fst).Nodup) :
    ((rankHolders balances).map HolderBalance.address).Nodup := by
  have hperm := (perm_rankHolders balances).map HolderBalance.address
  rw [List.map_map] at hperm
  exact hperm.nodup_iff.2 (h.sublist (List.filter_sublist.map Prod.fst))

/-- Each ranked holder outranks those after it. -/
theorem pairwise_rankHolders (balances : List (Address × Int)) :
    (rankHolders balances).Pairwise fun a b => a.outranks b = true := by
  unfold rankHolders
  exact @List.pairwise_mergeSort _ HolderBalance.outranks
    (fun _ _ _ => HolderBalance.outranks_trans) HolderBalance.outranks_total _

/-- **The ranking does not hang on the order of the balances.** -/
theorem rankHolders_perm {one two : List (Address × Int)} (h : one.Perm two) :
    rankHolders one = rankHolders two := by
  have hperm : (rankHolders one).Perm (rankHolders two) :=
    (perm_rankHolders one).trans (((h.filter _).map _).trans (perm_rankHolders two).symm)
  exact hperm.eq_of_pairwise (fun _ _ _ _ => HolderBalance.outranks_antisymm)
    (pairwise_rankHolders one) (pairwise_rankHolders two)

/-- Replays that have the same balance for every account have the same holders. -/
theorem Replay.holders_congr {one two : Replay}
    (h : ∀ x, one.balances.get? x = two.balances.get? x) : one.holders = two.holders :=
  rankHolders_perm (Table.entries_perm h)

end TokenAudit
