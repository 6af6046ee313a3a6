import Mathlib.Algebra.Order.BigOperators.Group.List
import TokenAudit.Proofs.Transfer.Conservation
import TokenAudit.Proofs.Transfer.Ranking

/-! # Logs in another order

Transfers add up in any order, and a log that cannot be read, or whose amount is no signed word, is
skipped wherever it stands. Only a running balance that leaves the signed words makes the order
matter. As long as that does not happen, a replay hangs on the logs and not on their order, and it
cannot happen if all amounts make up a signed word together.

* `Transfer.sound?` — the transfer in a log that can be applied to some books, and `soundTransfers`,
  of logs;
* `Overruns` — whether a log of a replay is skipped for the sake of a running balance;
* `balanced_of_not_overruns` — if none is, the sound transfers are what is applied;
* `Replay.admits_of_total` — amounts that are a signed word together can be applied in any order.

Main statement: `replay_reordered`. -/

namespace TokenAudit

/-! ## Sound transfers -/

namespace Transfer

/-- The transfer in a log, if the log can be read and the amount is a signed word. -/
def sound? (log : Log) : Option Transfer := (ofLog log).toOption.filter fun t => FitsSigned t.amount

/-- A transfer is found in a log exactly if it is read there and its amount is a signed word. -/
theorem sound?_eq_some_iff {log : Log} {t : Transfer} :
    sound? log = some t ↔ ofLog log = .ok t ∧ FitsSigned t.amount := by
  unfold sound?
  cases ofLog log <;> simp [Except.toOption]

/-- A transfer that is written in words is sound if its amount is a signed word. -/
theorem sound?_toLog {t : Transfer} (h : t.amount < Word.size) (blockNumber : Option Nat) :
    sound? (t.toLog blockNumber) = if FitsSigned t.amount then some t else none := by
  rw [sound?, ofLog_toLog h]
  by_cases hfits : FitsSigned t.amount <;> simp [Except.toOption, hfits]

/-- The amounts of transfers, taken together. -/
def total (transfers : List Transfer) : Nat := (transfers.map amount).sum

/-- What was received is not below zero. -/
theorem received_nonneg (account : Address) (transfers : List Transfer) :
    0 ≤ received account transfers := by
  refine List.sum_nonneg fun n hn => ?_
  obtain ⟨t, -, rfl⟩ := List.mem_map.1 hn
  exact Int.natCast_nonneg _

/-- What was sent is not below zero. -/
theorem sent_nonneg (account : Address) (transfers : List Transfer) :
    0 ≤ sent account transfers := by
  refine List.sum_nonneg fun n hn => ?_
  obtain ⟨t, -, rfl⟩ := List.mem_map.1 hn
  exact Int.natCast_nonneg _

/-- Some of the amounts are together no more than all of them. -/
theorem sum_filter_le_total (p : Transfer → Bool) (transfers : List Transfer) :
    ((transfers.filter p).map fun t => (t.amount : Int)).sum ≤ total transfers := by
  induction transfers with
  | nil => exact Int.le_refl 0
  | cons t rest ih =>
    have hcons : total (t :: rest) = t.amount + total rest := by
      unfold total
      rw [List.map_cons, List.sum_cons]
    rw [hcons]
    by_cases h : p t
    · rw [List.filter_cons_of_pos h, List.map_cons, List.sum_cons]
      omega
    · rw [List.filter_cons_of_neg h]
      omega

/-- No account receives more than all amounts together. -/
theorem received_le_total (account : Address) (transfers : List Transfer) :
    received account transfers ≤ total transfers :=
  sum_filter_le_total _ transfers

/-- No account sends more than all amounts together. -/
theorem sent_le_total (account : Address) (transfers : List Transfer) :
    sent account transfers ≤ total transfers :=
  sum_filter_le_total _ transfers

/-- What was received does not hang on the order of transfers. -/
theorem received_perm {one two : List Transfer} (h : one.Perm two) (account : Address) :
    received account one = received account two :=
  ((h.filter _).map _).sum_eq

/-- What was sent does not hang on the order of transfers. -/
theorem sent_perm {one two : List Transfer} (h : one.Perm two) (account : Address) :
    sent account one = sent account two :=
  ((h.filter _).map _).sum_eq

end Transfer

/-- The sound transfers of logs. -/
def soundTransfers (logs : List Log) : List Transfer := logs.filterMap Transfer.sound?

/-- The logs that hold no sound transfer, as they are noted. -/
def notes (logs : List Log) : List SkippedLog :=
  (logs.filter fun log => (Transfer.sound? log).isNone).map fun log =>
    ⟨log.blockNumber, Transfer.flaw log⟩

/-! ## Running balances -/

/-- Whether a log is skipped for the sake of a running balance: it holds a sound transfer. -/
def Replay.Overruns (r : Replay) (log : Log) : Prop :=
  (Transfer.sound? log).isSome = true ∧ r.Skips log

/-- Whether some log of a replay is skipped for the sake of a running balance. -/
def Overruns (logs : List Log) : Prop :=
  ∃ entry ∈ ({} : Replay).history logs, entry.1.Overruns entry.2

/-- Logs overrun if those before the last one do, or if the last one does. -/
theorem overruns_concat {logs : List Log} {log : Log} :
    Overruns (logs ++ [log]) ↔ Overruns logs ∨ (replay logs).Overruns log := by
  unfold Overruns
  rw [Replay.history_concat]
  simp only [List.mem_append, List.mem_singleton, or_and_right, exists_or, exists_eq_left]
  exact Iff.rfl

/-- **What a replay does if no running balance gets in the way**: it applies the sound transfers and
notes all other logs. -/
theorem balanced_of_not_overruns {logs : List Log} (h : ¬ Overruns logs) :
    (replay logs).Balanced (soundTransfers logs) ∧ (replay logs).skipped = notes logs := by
  induction logs using List.reverseRecOn with
  | nil => exact ⟨Replay.balanced_empty, rfl⟩
  | append_singleton logs log ih =>
    rw [overruns_concat, not_or] at h
    obtain ⟨hbalanced, hskipped⟩ := ih h.1
    have hsound : soundTransfers (logs ++ [log]) =
        soundTransfers logs ++ (Transfer.sound? log).toList := by
      unfold soundTransfers
      rw [List.filterMap_append]
      cases hlog : Transfer.sound? log <;> simp [hlog]
    have hnotes : notes (logs ++ [log]) = notes logs ++
        if (Transfer.sound? log).isNone then [⟨log.blockNumber, Transfer.flaw log⟩] else [] := by
      unfold notes
      rw [List.filter_append, List.map_append]
      cases hlog : Transfer.sound? log <;> simp [hlog]
    rw [replay_concat, hsound, hnotes]
    rcases Replay.step_cases (replay logs) log with ⟨t, hlog, hadmits, happlies⟩ | ⟨hrefuses, hstep⟩
    · have hsome : Transfer.sound? log = some t := Transfer.sound?_eq_some_iff.2 ⟨hlog, hadmits.1⟩
      rw [hsome]
      refine ⟨Replay.balanced_applied hbalanced happlies, ?_⟩
      rw [happlies.skipped, hskipped]
      simp
    · -- a log that is skipped holds no sound transfer, since no balance gets in the way
      have hnone : Transfer.sound? log = none := by
        have hskips := (Replay.skips_iff_refuses _ _).2 hrefuses
        by_contra hsome
        exact h.2 ⟨Option.isSome_iff_ne_none.2 hsome, hskips⟩
      rw [hnone, hstep]
      refine ⟨?_, ?_⟩
      · simpa using hbalanced.noted _
      · rw [hskipped]
        simp

/-- Amounts that are a signed word together can be applied whatever was applied before. -/
theorem Replay.admits_of_total {r : Replay} {transfers : List Transfer} {t : Transfer}
    (h : r.Balanced transfers) (htotal : Transfer.total transfers + t.amount ≤ 2 ^ 255 - 1) :
    r.Admits t := by
  have hbounds : ∀ x, -(Transfer.total transfers : Int) ≤ r.balanceOf x ∧
      r.balanceOf x ≤ Transfer.total transfers := by
    intro x
    have hreceived := Transfer.received_nonneg x transfers
    have hsent := Transfer.sent_nonneg x transfers
    have hreceived' := Transfer.received_le_total x transfers
    have hsent' := Transfer.sent_le_total x transfers
    rw [h.balanceOf]
    omega
  have hsender := hbounds t.sender
  have hrecipient := hbounds t.recipient
  refine ⟨?_, fun _ => ⟨?_, ?_⟩⟩ <;> rw [fitsSigned_iff] <;> omega

/-- If the amounts of all sound transfers are a signed word together, no running balance gets in the
way. -/
theorem not_overruns_of_total {logs : List Log}
    (h : Transfer.total (soundTransfers logs) ≤ 2 ^ 255 - 1) : ¬ Overruns logs := by
  -- on the logs from the back: the balances before the last log are bounded by the total
  induction logs using List.reverseRecOn with
  | nil =>
    rintro ⟨entry, hentry, -⟩
    cases hentry
  | append_singleton logs log ih =>
    have hsplit : Transfer.total (soundTransfers (logs ++ [log])) =
        Transfer.total (soundTransfers logs) + Transfer.total (Transfer.sound? log).toList := by
      unfold soundTransfers
      rw [List.filterMap_append]
      cases hlog : Transfer.sound? log <;> simp [Transfer.total, hlog]
    have hbefore : ¬ Overruns logs := ih (by omega)
    rw [overruns_concat, not_or]
    refine ⟨hbefore, fun ⟨hsome, hskips⟩ => ?_⟩
    obtain ⟨t, ht⟩ := Option.isSome_iff_exists.1 hsome
    have hamount : Transfer.total (Transfer.sound? log).toList = t.amount := by
      rw [ht]
      simp [Transfer.total]
    have hadmits : (replay logs).Admits t :=
      Replay.admits_of_total (balanced_of_not_overruns hbefore).1 (by omega)
    exact (Replay.skips_iff_refuses _ _).1 hskips t (Transfer.sound?_eq_some_iff.1 ht).1 hadmits

/-! ## Another order -/

/-- Books that agree with the same transfers in two orders are the same books. -/
theorem Replay.Balanced.get?_eq {one two : Replay} {transfers others : List Transfer}
    (hone : one.Balanced transfers) (htwo : two.Balanced others) (hperm : transfers.Perm others)
    (x : Address) : one.balances.get? x = two.balances.get? x := by
  have hbalance : one.balanceOf x = two.balanceOf x := by
    rw [hone.balanceOf, htwo.balanceOf, Transfer.received_perm hperm, Transfer.sent_perm hperm]
  have hkeys : x ∈ one.balances.keys ↔ x ∈ two.balances.keys := by
    rw [hone.mem_keys, htwo.mem_keys]
    exact exists_congr fun t => and_congr_left' hperm.mem_iff
  by_cases hx : x ∈ one.balances.keys
  · obtain ⟨b, hb⟩ := Table.exists_get?_of_mem_keys hx
    obtain ⟨b', hb'⟩ := Table.exists_get?_of_mem_keys (hkeys.1 hx)
    unfold Replay.balanceOf at hbalance
    rw [hb, hb', Option.getD_some, Option.getD_some] at hbalance
    rw [hb, hb', hbalance]
  · rw [Table.get?_eq_none_iff.2 hx, Table.get?_eq_none_iff.2 (mt hkeys.2 hx)]

/-- **The order of logs does not matter unless a running balance overflows.** If neither of two
replays of the same logs in two orders skips a log for the sake of a running balance, both give
every account the same balance, apply as many transfers, skip the same logs for the same reasons,
and rank the same holders. And no running balance gets in the way in any order if the amounts of the
logs that can be read, and whose own amount is a signed word, are a signed word together. -/
theorem replay_reordered {logs other : List Log} (hperm : logs.Perm other) :
    (¬ Overruns logs → ¬ Overruns other →
      (∀ x, (replay logs).balances.get? x = (replay other).balances.get? x) ∧
      (replay logs).applied = (replay other).applied ∧
      (replay logs).skipped.Perm (replay other).skipped ∧
      (replay logs).holders = (replay other).holders) ∧
    (Transfer.total (soundTransfers logs) ≤ 2 ^ 255 - 1 → ¬ Overruns other) := by
  have hsound : (soundTransfers logs).Perm (soundTransfers other) := hperm.filterMap _
  constructor
  · intro hone htwo
    obtain ⟨hbalanced, hskipped⟩ := balanced_of_not_overruns hone
    obtain ⟨hbalanced', hskipped'⟩ := balanced_of_not_overruns htwo
    -- a balance is what was received less what was sent, in any order
    have hget : ∀ x, (replay logs).balances.get? x = (replay other).balances.get? x := fun x =>
      hbalanced.get?_eq hbalanced' hsound x
    refine ⟨hget, ?_, ?_, Replay.holders_congr hget⟩
    · rw [hbalanced.applied, hbalanced'.applied, hsound.length_eq]
    · rw [hskipped, hskipped']
      exact (hperm.filter _).map _
  · intro htotal
    have hsame : Transfer.total (soundTransfers logs) = Transfer.total (soundTransfers other) :=
      (hsound.map _).sum_eq
    exact not_overruns_of_total (hsame ▸ htotal)

/-- A payment and a part of it back, with a log that cannot be read, an amount that is no signed
word, and an account that pays itself between them. -/
def mixedLogs : List Log :=
  [Transfer.toLog ⟨.ofNat 1, .ofNat 2, 5⟩ (some 8), ⟨[Transfer.topic], "0x", some 9⟩,
    Transfer.toLog ⟨.ofNat 2, .ofNat 1, 2 ^ 255⟩ (some 9),
    Transfer.toLog ⟨.ofNat 3, .ofNat 3, 7⟩ none,
    Transfer.toLog ⟨.ofNat 2, .ofNat 1, 3⟩ (some 10)]

/-- These logs, and the same the other way round, skip the same and leave the same holders. -/
theorem replay_reordered_mixedLogs :
    mixedLogs.Perm mixedLogs.reverse ∧ Transfer.total (soundTransfers mixedLogs) ≤ 2 ^ 255 - 1 ∧
      ¬ Overruns mixedLogs ∧ ¬ Overruns mixedLogs.reverse ∧
      (replay mixedLogs).skipped.Perm (replay mixedLogs.reverse).skipped ∧
      (replay mixedLogs).holders = (replay mixedLogs.reverse).holders := by
  have hperm : mixedLogs.Perm mixedLogs.reverse := (List.reverse_perm mixedLogs).symm
  have hfirst := Transfer.sound?_toLog (t := ⟨.ofNat 1, .ofNat 2, 5⟩) (by decide) (some 8)
  have hunread : Transfer.sound? ⟨[Transfer.topic], "0x", some 9⟩ = none := rfl
  have hlarge := Transfer.sound?_toLog (t := ⟨.ofNat 2, .ofNat 1, 2 ^ 255⟩) (by decide) (some 9)
  have hself := Transfer.sound?_toLog (t := ⟨.ofNat 3, .ofNat 3, 7⟩) (by decide) none
  have hback := Transfer.sound?_toLog (t := ⟨.ofNat 2, .ofNat 1, 3⟩) (by decide) (some 10)
  rw [if_pos (by decide)] at hfirst hself hback
  rw [if_neg (by decide)] at hlarge
  -- the second log cannot be read, and the amount of the third is too large
  have hsound : soundTransfers mixedLogs =
      [⟨.ofNat 1, .ofNat 2, 5⟩, ⟨.ofNat 3, .ofNat 3, 7⟩, ⟨.ofNat 2, .ofNat 1, 3⟩] := by
    rw [soundTransfers, mixedLogs, List.filterMap_cons_some hfirst,
      List.filterMap_cons_none hunread, List.filterMap_cons_none hlarge,
      List.filterMap_cons_some hself, List.filterMap_cons_some hback,
      List.filterMap_nil]
  have htotal : Transfer.total (soundTransfers mixedLogs) ≤ 2 ^ 255 - 1 := by
    rw [hsound]
    decide
  have hone : ¬ Overruns mixedLogs := (replay_reordered (List.Perm.refl mixedLogs)).2 htotal
  obtain ⟨hsame, htwo⟩ := replay_reordered hperm
  obtain ⟨-, -, hskipped, hholders⟩ := hsame hone (htwo htotal)
  exact ⟨hperm, htotal, hone, htwo htotal, hskipped, hholders⟩

end TokenAudit
