import Mathlib.Algebra.Ring.Nat
import Mathlib.Data.List.Induction
import Mathlib.Tactic.Set
import TokenAudit.Proofs.Table
import TokenAudit.Transfer.Replay

/-! # Conservation of transfers

A replay keeps books: each transfer that it applies is taken from one account and given to the
other, and each log that it skips leaves the books alone. So whatever logs come in, and in whatever
order, an account's balance is what it received less what it sent, and all balances together are
zero.

* `Transfer.received`, `Transfer.sent` — what transfers bring an account, and take from it;
* `Replay.Admits` — whether a transfer can be applied; `Replay.step_cases` — all that one log can
  do;
* `Replay.Balanced` — the books agree with a list of transfers; `Replay.balanced_applied` keeps it
  and `balanced_replay` has it of every replay;
* `appliedLogs`, `skippedLogs` — what became of the logs, judged by the diagnostics alone.

Main statement: `replay_conserves`. -/

namespace TokenAudit

/-! ## What transfers amount to -/

namespace Transfer

/-- What an account received in transfers. -/
def received (account : Address) (transfers : List Transfer) : Int :=
  ((transfers.filter fun t => t.recipient = account).map fun t => (t.amount : Int)).sum

/-- What an account sent in transfers. -/
def sent (account : Address) (transfers : List Transfer) : Int :=
  ((transfers.filter fun t => t.sender = account).map fun t => (t.amount : Int)).sum

/-- One more transfer adds its amount to what its recipient received. -/
theorem received_concat (account : Address) (transfers : List Transfer) (t : Transfer) :
    received account (transfers ++ [t]) =
      received account transfers + if t.recipient = account then (t.amount : Int) else 0 := by
  by_cases h : t.recipient = account <;>
    simp [received, List.filter_append, h]

/-- One more transfer adds its amount to what its sender sent. -/
theorem sent_concat (account : Address) (transfers : List Transfer) (t : Transfer) :
    sent account (transfers ++ [t]) =
      sent account transfers + if t.sender = account then (t.amount : Int) else 0 := by
  by_cases h : t.sender = account <;> simp [sent, List.filter_append, h]

/-- Why a log is skipped when it is: its own flaw, and an overflow if it has none. -/
def flaw (log : Log) : Malformed :=
  match ofLog log with
  | .error reason => reason
  | .ok _ => .amountOverflow

end Transfer

/-- `FitsSigned n ↔ -2 ^ 255 ≤ n ∧ n ≤ 2 ^ 255 - 1`. -/
theorem fitsSigned_iff (n : Int) : FitsSigned n ↔ -2 ^ 255 ≤ n ∧ n ≤ 2 ^ 255 - 1 := by
  have hhalf : (Word.half : Int) = 2 ^ 255 := by decide
  unfold FitsSigned
  rw [hhalf]
  omega

namespace Replay

/-! ## One transfer -/

/-- Whether a transfer can be applied: its amount is a signed word, and if it goes to another
account, both balances after it are. -/
def Admits (r : Replay) (t : Transfer) : Prop :=
  FitsSigned t.amount ∧
    (t.sender ≠ t.recipient →
      FitsSigned (r.balanceOf t.sender - t.amount) ∧
      FitsSigned (r.balanceOf t.recipient + t.amount))

/-- What applying a transfer does to the books. -/
structure Applies (r : Replay) (t : Transfer) (next : Replay) : Prop where
  balanceOf : ∀ x, next.balanceOf x =
    r.balanceOf x + (if t.recipient = x then (t.amount : Int) else 0)
      - (if t.sender = x then (t.amount : Int) else 0)
  mem_keys : ∀ x, x ∈ next.balances.keys ↔ x = t.sender ∨ x = t.recipient ∨ x ∈ r.balances.keys
  sum_values : next.balances.values.sum = r.balances.values.sum
  fits : (∀ b ∈ r.balances.values, FitsSigned b) → ∀ b ∈ next.balances.values, FitsSigned b
  applied : next.applied = r.applied + 1
  skipped : next.skipped = r.skipped

/-- A new balance changes the sum of all balances by what it differs from the old one. -/
theorem sum_values_set (r : Replay) (x : Address) (b : Int) :
    (r.balances.set x b).values.sum + r.balanceOf x = r.balances.values.sum + b :=
  Table.sum_values_set r.balances x b

/-- If all balances that are kept fit into signed words, every account's does. -/
theorem fits_balanceOf {r : Replay} (h : ∀ b ∈ r.balances.values, FitsSigned b) (x : Address) :
    FitsSigned (r.balanceOf x) := by
  unfold balanceOf
  cases hx : r.balances.get? x with
  | none => decide
  | some b => exact h b (Table.mem_values_of_get? hx)

/-- A transfer that cannot be applied is an overflow. -/
theorem apply_of_not_admits {r : Replay} {t : Transfer} (h : ¬ r.Admits t) :
    r.apply t = .error .amountOverflow := by
  unfold apply
  by_cases hamount : FitsSigned t.amount
  · have hne : t.sender ≠ t.recipient := fun heq => h ⟨hamount, fun hne => absurd heq hne⟩
    have hout : ¬ (FitsSigned (r.balanceOf t.sender - t.amount) ∧
        FitsSigned (r.balanceOf t.recipient + t.amount)) := fun hin => h ⟨hamount, fun _ => hin⟩
    rw [if_neg (not_not_intro hamount), if_neg hne]
    exact if_neg hout
  · exact if_pos hamount

/-- A transfer from an account to itself enters the account and changes no balance. -/
theorem apply_self {r : Replay} {t : Transfer} (hamount : FitsSigned t.amount)
    (heq : t.sender = t.recipient) : ∃ next, r.apply t = .ok next ∧ r.Applies t next := by
  refine ⟨{ r with
    balances := r.balances.set t.sender (r.balanceOf t.sender)
    applied := r.applied + 1 }, ?_, ?_⟩
  · unfold apply
    rw [if_neg (not_not_intro hamount), if_pos heq]
  · refine ⟨fun x => ?_, fun x => ?_, ?_, fun hfits b hb => ?_, rfl, rfl⟩
    · -- what goes out comes in again
      show ((r.balances.set t.sender (r.balanceOf t.sender)).get? x).getD 0 = _
      rw [Table.get?_set, ← heq]
      by_cases hx : x = t.sender
      · rw [if_pos hx, hx, if_pos rfl]
        simp
      · rw [if_neg hx, if_neg (Ne.symm hx)]
        simp [balanceOf]
    · rw [Table.mem_keys_set, ← heq]
      exact ⟨fun h => h.elim Or.inl fun h => Or.inr (Or.inr h),
        fun h => h.elim Or.inl fun h => h⟩
    · have hsum := r.sum_values_set t.sender (r.balanceOf t.sender)
      show (r.balances.set t.sender (r.balanceOf t.sender)).values.sum = _
      omega
    · rcases Table.mem_values_set hb with rfl | hb
      · exact fits_balanceOf hfits _
      · exact hfits b hb

/-- A transfer between two accounts takes from one what it gives to the other. -/
theorem apply_other {r : Replay} {t : Transfer} (hamount : FitsSigned t.amount)
    (hne : t.sender ≠ t.recipient) (hgiven : FitsSigned (r.balanceOf t.sender - t.amount))
    (hreceived : FitsSigned (r.balanceOf t.recipient + t.amount)) :
    ∃ next, r.apply t = .ok next ∧ r.Applies t next := by
  set given := r.balanceOf t.sender - t.amount with hg
  set taken := r.balanceOf t.recipient + t.amount with ht
  refine ⟨{ r with
    balances := (r.balances.set t.sender given).set t.recipient taken
    applied := r.applied + 1 }, ?_, ?_⟩
  · unfold apply
    rw [if_neg (not_not_intro hamount), if_neg hne]
    exact if_pos ⟨hgiven, hreceived⟩
  · refine ⟨fun x => ?_, fun x => ?_, ?_, fun hfits b hb => ?_, rfl, rfl⟩
    · show (((r.balances.set t.sender given).set t.recipient taken).get? x).getD 0 = _
      rw [Table.get?_set, Table.get?_set]
      by_cases hr : x = t.recipient
      · have hs : t.sender ≠ x := fun hs => hne (hs.trans hr)
        rw [if_pos hr, if_pos hr.symm, if_neg hs, hr]
        simp [ht]
      · by_cases hs : x = t.sender
        · rw [if_neg hr, if_pos hs, if_neg (Ne.symm hr), if_pos hs.symm, hs]
          simp [hg]
        · rw [if_neg hr, if_neg hs, if_neg (Ne.symm hr), if_neg (Ne.symm hs)]
          simp [balanceOf]
    · rw [Table.mem_keys_set, Table.mem_keys_set]
      exact or_left_comm
    · -- the recipient's old balance is read after the sender's new one was put down
      have hsender := r.sum_values_set t.sender given
      have hrecipient := Table.sum_values_set (r.balances.set t.sender given) t.recipient taken
      rw [Table.get?_set, if_neg (Ne.symm hne), ← balanceOf] at hrecipient
      show ((r.balances.set t.sender given).set t.recipient taken).values.sum = _
      omega
    · rcases Table.mem_values_set hb with rfl | hb
      · exact hreceived
      · rcases Table.mem_values_set hb with rfl | hb
        · exact hgiven
        · exact hfits b hb

/-- A transfer that is admitted is applied. -/
theorem apply_of_admits {r : Replay} {t : Transfer} (h : r.Admits t) :
    ∃ next, r.apply t = .ok next ∧ r.Applies t next := by
  by_cases heq : t.sender = t.recipient
  · exact apply_self h.1 heq
  · exact apply_other h.1 heq (h.2 heq).1 (h.2 heq).2

/-! ## One log -/

/-- Whether a log says nothing that can be applied. -/
def Refuses (r : Replay) (log : Log) : Prop := ∀ t, Transfer.ofLog log = .ok t → ¬ r.Admits t

/-- **All that one log can do**: it is a transfer that is applied, or it is noted among the skipped
ones and changes nothing else. -/
theorem step_cases (r : Replay) (log : Log) :
    (∃ t, Transfer.ofLog log = .ok t ∧ r.Admits t ∧ r.Applies t (r.step log)) ∨
    (r.Refuses log ∧
      r.step log = { r with skipped := r.skipped ++ [⟨log.blockNumber, Transfer.flaw log⟩] }) := by
  cases hlog : Transfer.ofLog log with
  | error reason =>
    refine Or.inr ⟨fun t ht => ?_, ?_⟩
    · rw [hlog] at ht
      cases ht
    · rw [step, Transfer.flaw, hlog]
      rfl
  | ok t =>
    have hbind : ∀ f : Transfer → Except Malformed Replay, (Except.ok t >>= f) = f t := fun _ => rfl
    -- a transfer that can be read is applied just if the balances admit it
    by_cases hadmits : r.Admits t
    · obtain ⟨next, happly, hnext⟩ := apply_of_admits hadmits
      have hstep : r.step log = next := by
        rw [step, hlog, hbind, happly]
      exact Or.inl ⟨t, rfl, hadmits, hstep ▸ hnext⟩
    · refine Or.inr ⟨fun t' ht' => ?_, ?_⟩
      · rw [hlog, Except.ok.injEq] at ht'
        exact ht' ▸ hadmits
      · rw [step, Transfer.flaw, hlog, hbind, apply_of_not_admits hadmits]

/-- Whether a log is skipped: taking it in adds a diagnostic. -/
def Skips (r : Replay) (log : Log) : Prop := r.skipped.length < (r.step log).skipped.length

instance (r : Replay) (log : Log) : Decidable (r.Skips log) := inferInstanceAs (Decidable (_ < _))

/-- `r.Skips log ↔ r.Refuses log`: the diagnostic comes just when nothing can be applied. -/
theorem skips_iff_refuses (r : Replay) (log : Log) : r.Skips log ↔ r.Refuses log := by
  rcases step_cases r log with ⟨t, hlog, hadmits, happlies⟩ | ⟨hrefuses, hstep⟩
  · rw [Skips, happlies.skipped]
    exact ⟨fun h => absurd h (Nat.lt_irrefl _), fun h => absurd hadmits (h t hlog)⟩
  · rw [Skips, hstep]
    exact ⟨fun _ => hrefuses, fun _ => by simp⟩

/-! ## All logs -/

/-- The books agree with a list of transfers. -/
structure Balanced (r : Replay) (transfers : List Transfer) : Prop where
  balanceOf : ∀ x, r.balanceOf x = Transfer.received x transfers - Transfer.sent x transfers
  mem_keys : ∀ x, x ∈ r.balances.keys ↔ ∃ t ∈ transfers, x = t.sender ∨ x = t.recipient
  sum_values : r.balances.values.sum = 0
  fits : ∀ b ∈ r.balances.values, FitsSigned b
  applied : r.applied = transfers.length

/-- Empty books agree with no transfers. -/
theorem balanced_empty : Balanced {} [] where
  balanceOf _ := rfl
  mem_keys x := by simp [Table.keys, Table.empty]
  sum_values := rfl
  fits b hb := by simp [Table.values, Table.empty] at hb
  applied := rfl

/-- Applying a transfer keeps the books in agreement. -/
theorem balanced_applied {r next : Replay} {transfers : List Transfer} {t : Transfer}
    (h : r.Balanced transfers) (happlies : r.Applies t next) :
    next.Balanced (transfers ++ [t]) where
  balanceOf x := by
    rw [happlies.balanceOf, h.balanceOf, Transfer.received_concat, Transfer.sent_concat]
    omega
  mem_keys x := by
    rw [happlies.mem_keys, h.mem_keys]
    -- an account has a key by the last transfer or by an earlier one
    constructor
    · rintro (hx | hx | ⟨t', ht', hx⟩)
      · exact ⟨t, by simp, Or.inl hx⟩
      · exact ⟨t, by simp, Or.inr hx⟩
      · exact ⟨t', List.mem_append_left _ ht', hx⟩
    · rintro ⟨t', ht', hx⟩
      rcases List.mem_append.1 ht' with ht' | ht'
      · exact Or.inr (Or.inr ⟨t', ht', hx⟩)
      · rw [List.mem_singleton] at ht'
        subst ht'
        exact hx.imp_right Or.inl
  sum_values := by rw [happlies.sum_values, h.sum_values]
  fits := happlies.fits h.fits
  applied := by rw [happlies.applied, h.applied, List.length_append, List.length_singleton]

/-- Noting a skipped log changes nothing that the books say. -/
theorem Balanced.noted {r : Replay} {transfers : List Transfer} (h : r.Balanced transfers)
    (skipped : List SkippedLog) : Balanced { r with skipped } transfers :=
  ⟨h.balanceOf, h.mem_keys, h.sum_values, h.fits, h.applied⟩

/-- The logs, each with the replay that it is taken into. -/
def history (r : Replay) : List Log → List (Replay × Log)
  | [] => []
  | log :: rest => (r, log) :: (r.step log).history rest

/-- A further log comes last, with the replay of those before it. -/
theorem history_concat (r : Replay) (logs : List Log) (log : Log) :
    r.history (logs ++ [log]) = r.history logs ++ [(logs.foldl step r, log)] := by
  induction logs generalizing r with
  | nil => rfl
  | cons first rest ih =>
    rw [List.cons_append, history, ih, history, List.foldl_cons, List.cons_append]

/-- A log is skipped when it cannot be read, when its amount is no signed word, or when between two
accounts one of the balances after it would be none. -/
theorem skips_iff (r : Replay) (log : Log) :
    r.Skips log ↔
      (∃ reason, Transfer.ofLog log = .error reason) ∨
      ∃ t, Transfer.ofLog log = .ok t ∧
        (2 ^ 255 - 1 < t.amount ∨
          t.sender ≠ t.recipient ∧
            (¬ FitsSigned (r.balanceOf t.sender - t.amount) ∨
              ¬ FitsSigned (r.balanceOf t.recipient + t.amount))) := by
  rw [skips_iff_refuses]
  cases hlog : Transfer.ofLog log with
  | error reason =>
    refine ⟨fun _ => Or.inl ⟨reason, rfl⟩, fun _ t ht => ?_⟩
    rw [hlog] at ht
    cases ht
  | ok t =>
    -- there is one transfer to admit, the one that was read
    have hrefuses : r.Refuses log ↔ ¬ r.Admits t := by
      refine ⟨fun h => h t hlog, fun h t' ht' => ?_⟩
      rw [hlog, Except.ok.injEq] at ht'
      exact ht' ▸ h
    have hamount : FitsSigned t.amount ↔ ¬ 2 ^ 255 - 1 < t.amount := by
      rw [fitsSigned_iff]
      omega
    rw [hrefuses, Admits, hamount]
    constructor
    · intro h
      refine Or.inr ⟨t, rfl, ?_⟩
      by_cases hbig : 2 ^ 255 - 1 < t.amount
      · exact Or.inl hbig
      · obtain ⟨hne, hout⟩ := Classical.not_imp.1 fun hin => h ⟨hbig, hin⟩
        exact Or.inr ⟨hne, Classical.not_and_iff_not_or_not.1 hout⟩
    · rintro (⟨reason, hreason⟩ | ⟨t', ht', hout⟩) hin
      · cases hreason
      · cases ht'
        rcases hout with hbig | ⟨hne, hgiven | htaken⟩
        · exact hin.1 hbig
        · exact hgiven (hin.2 hne).1
        · exact htaken (hin.2 hne).2

end Replay

/-- A further log is taken into the replay of those before it. -/
theorem replay_concat (logs : List Log) (log : Log) :
    replay (logs ++ [log]) = (replay logs).step log := by
  rw [replay, List.foldl_append]
  rfl

/-- The logs that are skipped. -/
def skippedLogs (logs : List Log) : List Log :=
  ((({} : Replay).history logs).filter fun (r, log) => r.Skips log).map Prod.snd

/-- The logs that are not skipped. -/
def appliedLogs (logs : List Log) : List Log :=
  ((({} : Replay).history logs).filter fun (r, log) => ¬ r.Skips log).map Prod.snd

/-- A further log is skipped if the replay before it skips it. -/
theorem skippedLogs_concat (logs : List Log) (log : Log) :
    skippedLogs (logs ++ [log]) =
      skippedLogs logs ++ if (replay logs).Skips log then [log] else [] := by
  rw [skippedLogs, Replay.history_concat, List.filter_append, List.map_append, ← skippedLogs]
  change _ ++ (List.filter _ [(replay logs, log)]).map Prod.snd = _
  by_cases h : (replay logs).Skips log <;> simp [h]

/-- A further log is applied if the replay before it does not skip it. -/
theorem appliedLogs_concat (logs : List Log) (log : Log) :
    appliedLogs (logs ++ [log]) =
      appliedLogs logs ++ if (replay logs).Skips log then [] else [log] := by
  rw [appliedLogs, Replay.history_concat, List.filter_append, List.map_append, ← appliedLogs]
  change _ ++ (List.filter _ [(replay logs, log)]).map Prod.snd = _
  by_cases h : (replay logs).Skips log <;> simp [h]

/-- **The books of every replay**: they agree with the transfers of the logs that were not skipped,
and the other logs are noted in their order. -/
theorem balanced_replay (logs : List Log) :
    ∃ transfers, (appliedLogs logs).map Transfer.ofLog = transfers.map Except.ok ∧
      (replay logs).Balanced transfers ∧
      (replay logs).skipped =
        (skippedLogs logs).map fun log => ⟨log.blockNumber, Transfer.flaw log⟩ := by
  induction logs using List.reverseRecOn with
  | nil => exact ⟨[], rfl, Replay.balanced_empty, rfl⟩
  | append_singleton logs log ih =>
    -- the last log is taken in by the replay of those before it, whose books agree by induction
    obtain ⟨transfers, hdecoded, hbalanced, hskipped⟩ := ih
    rw [replay_concat, appliedLogs_concat, skippedLogs_concat]
    rcases Replay.step_cases (replay logs) log with ⟨t, hlog, hadmits, happlies⟩ | ⟨hrefuses, hstep⟩
    · have hskips : ¬ (replay logs).Skips log := fun h =>
        (Replay.skips_iff_refuses _ _).1 h t hlog hadmits
      rw [if_neg hskips, if_neg hskips]
      refine ⟨transfers ++ [t], ?_, Replay.balanced_applied hbalanced happlies, ?_⟩
      · rw [List.map_append, List.map_append, hdecoded, List.map_singleton,
          List.map_singleton, hlog]
      · rw [happlies.skipped, hskipped, List.append_nil]
    · have hskips : (replay logs).Skips log := (Replay.skips_iff_refuses _ _).2 hrefuses
      rw [if_pos hskips, if_pos hskips, hstep]
      refine ⟨transfers, ?_, hbalanced.noted _, ?_⟩
      · rw [List.append_nil, hdecoded]
      · show (replay logs).skipped ++ _ = _
        rw [hskipped, List.map_append, List.map_singleton]

/-- The logs of a history are those that it is of. -/
theorem Replay.map_snd_history (r : Replay) (logs : List Log) :
    (r.history logs).map Prod.snd = logs := by
  induction logs generalizing r with
  | nil => rfl
  | cons log rest ih => rw [Replay.history, List.map_cons, ih]

/-- The logs that are skipped keep their order. -/
theorem skippedLogs_sublist (logs : List Log) : (skippedLogs logs).Sublist logs := by
  have h := (List.filter_sublist (p := fun (r, log) => decide (r.Skips log))
    (l := ({} : Replay).history logs)).map Prod.snd
  rwa [Replay.map_snd_history] at h

/-- Each log is either skipped or not. -/
theorem length_appliedLogs_add (logs : List Log) :
    (appliedLogs logs).length + (skippedLogs logs).length = logs.length := by
  induction logs using List.reverseRecOn with
  | nil => rfl
  | append_singleton logs log ih =>
    rw [appliedLogs_concat, skippedLogs_concat]
    by_cases h : (replay logs).Skips log <;> simp [h] <;> omega

/-- The logs that are not skipped are counted. -/
theorem applied_replay (logs : List Log) : (replay logs).applied = (appliedLogs logs).length := by
  obtain ⟨transfers, hdecoded, hbalanced, -⟩ := balanced_replay logs
  rw [hbalanced.applied, ← List.length_map Except.ok, ← hdecoded, List.length_map]

/-- A skipped log changes no balance. -/
theorem balances_of_skips {logs : List Log} {log : Log} (h : (replay logs).Skips log) :
    (replay (logs ++ [log])).balances = (replay logs).balances := by
  rw [replay_concat]
  rcases Replay.step_cases (replay logs) log with ⟨t, hlog, hadmits, -⟩ | ⟨-, hstep⟩
  · exact absurd hadmits ((Replay.skips_iff_refuses _ _).1 h t hlog)
  · rw [hstep]

/-- **Replaying conserves value.** The logs that are not skipped are transfers, and of the balances
each is what they brought its account less what they took from it, there is one for just the
accounts they name, none leaves the signed words, and all of them add up to zero. Every log is
either applied or noted among the skipped ones, in order; it is skipped just when it cannot be read,
when its amount is no signed word, or when between two accounts one of the balances would be none,
and then no balance changes. -/
theorem replay_conserves (logs : List Log) :
    ∃ transfers, (appliedLogs logs).map Transfer.ofLog = transfers.map Except.ok ∧
      (∀ x, (replay logs).balanceOf x = Transfer.received x transfers - Transfer.sent x transfers) ∧
      (∀ x, x ∈ (replay logs).balances.keys ↔ ∃ t ∈ transfers, x = t.sender ∨ x = t.recipient) ∧
      (replay logs).balances.values.sum = 0 ∧
      (∀ b ∈ (replay logs).balances.values, -2 ^ 255 ≤ b ∧ b ≤ 2 ^ 255 - 1) ∧
      (replay logs).applied = (appliedLogs logs).length ∧
      (replay logs).applied + (replay logs).skipped.length = logs.length ∧
      (replay logs).skipped =
        (skippedLogs logs).map (fun log => ⟨log.blockNumber, Transfer.flaw log⟩) ∧
      ∀ before log after, logs = before ++ log :: after →
        ((replay before).Skips log ↔
          (∃ reason, Transfer.ofLog log = .error reason) ∨
          ∃ t, Transfer.ofLog log = .ok t ∧
            (2 ^ 255 - 1 < t.amount ∨
              t.sender ≠ t.recipient ∧
                (¬ FitsSigned ((replay before).balanceOf t.sender - t.amount) ∨
                  ¬ FitsSigned ((replay before).balanceOf t.recipient + t.amount)))) ∧
        ((replay before).Skips log →
          (replay (before ++ [log])).balances = (replay before).balances) := by
  obtain ⟨transfers, hdecoded, hbalanced, hskipped⟩ := balanced_replay logs
  -- as many transfers were applied as were read of the logs that are not skipped
  have happlied : (replay logs).applied = (appliedLogs logs).length := by
    rw [hbalanced.applied, ← List.length_map Except.ok, ← hdecoded, List.length_map]
  refine ⟨transfers, hdecoded, hbalanced.balanceOf, hbalanced.mem_keys, hbalanced.sum_values,
    fun b hb => (fitsSigned_iff b).1 (hbalanced.fits b hb), happlied, ?_, hskipped,
    fun before log after _ => ⟨Replay.skips_iff _ log, balances_of_skips⟩⟩
  rw [happlied, hskipped, List.length_map]
  exact length_appliedLogs_add logs

end TokenAudit
