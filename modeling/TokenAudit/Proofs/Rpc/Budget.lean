import Mathlib.Algebra.BigOperators.Group.Finset.Basic
import TokenAudit.CommandLine.Program
import TokenAudit.Proofs.Rpc.Patience
import TokenAudit.Proofs.Text.Numerals

/-! # Budgets of the environment

The time of one request and the number of requests are taken from the environment as they are given
there, up to the greatest numbers of their widths. The pauses between so many requests always fit
into 64 bits. The requests themselves need not fit into a span of time: then there is no budget and
no deadline, and a command that has to wait ends there.

* `Endpoints.questionTime` — how long one question can take;
* `Backoff.total_eq_sum`, `Backoff.total_le` — all pauses together;
* `Endpoints.ofEnvironment_bounds` — what the environment can give.

Main statement: `budget_of_environment`, and `budget_of_environment_too_long` for a time that is too
long. -/

namespace TokenAudit

/-! ## Pauses -/

namespace Backoff

/-- **The pauses together** are the longest ones, one for each failure. -/
theorem total_eq_sum (failures : Nat) :
    total failures = ∑ i ∈ Finset.range failures, longest (i + 1) := by
  induction failures with
  | zero => rfl
  | succ failures ih => rw [total_succ, ih, Finset.sum_range_succ]

/-- No pause is longer than the greatest one with all that chance can add. -/
theorem longest_le (failures : Nat) : longest failures ≤ 19200 := by
  have hbase : base failures ≤ 16000 := Nat.min_le_left ..
  unfold longest jitter jitterPercent least
  omega

/-- No pause is longer than 19.2 seconds, so many pauses are together no longer than so many times
that. -/
theorem total_le (failures : Nat) : total failures ≤ 19200 * failures := by
  induction failures with
  | zero => exact Nat.le_refl 0
  | succ failures ih =>
    have hpause := longest_le (failures + 1)
    rw [total_succ]
    omega

end Backoff

/-! ## What the environment gives -/

/-- A number in decimal digits is one of its width. -/
theorem readNumber_lt {bits n : Nat} {text : String} (h : readNumber bits text = some n) :
    n < 1 <<< bits := by
  rw [readNumber] at h
  cases hread : Numeral.read 10 (1 <<< bits) text.toList with
  | error flaw =>
    rw [hread] at h
    cases h
  | ok m =>
    rw [hread] at h
    cases h
    have hpos : 0 < 1 <<< bits := by rw [Nat.shiftLeft_eq]; positivity
    exact ((Numeral.read_eq_ok_iff (by decide) (by decide) hpos).1 hread).2

/-- What is read of a variable is its default, or read from a text. -/
theorem Environment.get_cases {α : Type} {env : Environment} {key : String}
    {read : String → Option α} {default a : α} (h : env.get key read default = .ok a) :
    a = default ∨ ∃ text, read text = some a := by
  rw [get] at h
  split at h
  case h_1 =>
    cases h
    exact Or.inl rfl
  case h_2 raw hraw =>
    split at h
    case h_2 => cases h
    case h_1 b hb =>
      cases h
      exact Or.inr ⟨_, hb⟩

namespace Endpoints

/-- How long one question can take: at each endpoint every request takes all its time, the pauses
between requests are as long as they can be, and some time is allowed beyond that. -/
def questionTime (e : Endpoints) : Nat :=
  (e.timeout * e.retries +
    ((∑ i ∈ Finset.range (e.retries - 1), Backoff.longest (i + 1)) + slack)) *
    (if e.fallback.isSome then 2 else 1)

/-- **What the environment can give**: a whole number of seconds and at least one request, both of
their widths. -/
theorem ofEnvironment_bounds {env : Environment} {e : Endpoints} (h : ofEnvironment env = .ok e) :
    (∃ seconds < UInt64.size, e.timeout = 1000 * seconds) ∧ 1 ≤ e.retries ∧
      e.retries < UInt32.size := by
  -- endpoints come out only if the address and both numbers were read
  cases hprimary : primaryUrl env with
  | error fault => simp [ofEnvironment, hprimary, bind, Except.bind] at h
  | ok primary =>
    cases hseconds : env.get "COMPLIANCE_CALL_TIMEOUT_SECS" (readNumber 64) 10 with
    | error fault => simp [ofEnvironment, hprimary, hseconds, bind, Except.bind] at h
    | ok seconds =>
      cases hretries : env.get "COMPLIANCE_RPC_RETRIES" (readNumber 32) 4 with
      | error fault => simp [ofEnvironment, hprimary, hseconds, hretries, bind, Except.bind] at h
      | ok retries =>
        simp only [ofEnvironment, hprimary, hseconds, hretries, bind, Except.bind,
          pure, Except.pure, Except.ok.injEq] at h
        subst h
        -- a number is the default or was read with its width
        have hseconds' : seconds < UInt64.size := by
          obtain rfl | ⟨text, htext⟩ := Environment.get_cases hseconds
          · decide
          · exact readNumber_lt htext
        have hretries' : retries < UInt32.size := by
          obtain rfl | ⟨text, htext⟩ := Environment.get_cases hretries
          · decide
          · exact readNumber_lt htext
        exact ⟨⟨seconds, hseconds', rfl⟩, Nat.le_max_left .., Nat.max_lt.2 ⟨by decide, hretries'⟩⟩

/-- What is reckoned is the time that one question can take, if at least one request is made. -/
theorem budget_eq_questionTime {e : Endpoints} (h : 1 ≤ e.retries) : e.budget = e.questionTime := by
  have hattempts : e.attempts = e.retries := Nat.max_eq_right h
  have hurls : e.urls.length = if e.fallback.isSome then 2 else 1 := by
    cases hfallback : e.fallback <;> simp [urls, hfallback]
  rw [budget, budgetAtOne, questionTime, hattempts, hurls, Backoff.total_eq_sum]

/-- There is a deadline just if there is a budget. -/
theorem deadline?_eq_ok_iff {e : Endpoints} {requested span : Nat} :
    e.deadline? requested = .ok span ↔ e.budget < Span.bound ∧ span = e.deadline requested := by
  rw [deadline?]
  cases hbudget : e.budget? with
  | error overflow =>
    have hlong : ¬ e.budget < Span.bound := fun hlt => by
      rw [budget?_eq_ok_iff.2 ⟨hlt, rfl⟩] at hbudget
      cases hbudget
    exact iff_of_false (by simp [Except.map]) fun h => hlong h.1
  | ok budget =>
    obtain ⟨hlt, rfl⟩ := budget?_eq_ok_iff.1 hbudget
    simp [Except.map, hlt, deadline, eq_comm]

/-- A time of up to `2 ^ 31 - 20` seconds can be given to each request, however many there are. -/
theorem questionTime_lt {e : Endpoints} (hretries : e.retries < UInt32.size)
    (htimeout : e.timeout ≤ 1000 * (2 ^ 31 - 20)) : e.questionTime < Span.bound := by
  have hrequests : e.timeout * e.retries ≤ 1000 * (2 ^ 31 - 20) * e.retries :=
    Nat.mul_le_mul_right _ htimeout
  have hpauses : (∑ i ∈ Finset.range (e.retries - 1), Backoff.longest (i + 1)) ≤
      19200 * e.retries := by
    rw [← Backoff.total_eq_sum]
    exact Nat.le_trans (Backoff.total_le _) (Nat.mul_le_mul_left _ (Nat.sub_le ..))
  have hendpoints : (if e.fallback.isSome then 2 else 1) ≤ 2 := by split <;> decide
  have hslack : slack = 500 := rfl
  have hretries : e.retries < 2 ^ 32 := hretries
  calc e.questionTime
    _ ≤ (1000 * (2 ^ 31 - 20) * e.retries + (19200 * e.retries + 500)) * 2 :=
      Nat.mul_le_mul (by omega) hendpoints
    _ < Span.bound := by
      unfold Span.bound UInt64.size
      omega

/-- Where there is no budget, a command that has to wait for the ledger ends before it asks
anything. -/
theorem runCommand_of_overflow {τ : Type} {e : Endpoints} {overflow : Span.Overflow}
    (h : e.budget? = .error overflow) (net : Transport τ) (settings : Settings) (now : Moment)
    {command : Command} (hwaits : command.waits = true) (s : τ) :
    runCommand net settings e now command s = (.ofOverflow overflow, s) := by
  rw [runCommand, hwaits, h]

/-- **The budget of endpoints from the environment.** The pauses and what is allowed beyond them fit
into 64 bits. The budget is the time that one question can take, and the deadline is the longer of
this and of what the caller would wait, provided that the time is a span; it is one if a request may
take at most `2 ^ 31 - 20` seconds. Otherwise there is neither, and a command that has to wait for
the ledger ends before it asks anything. -/
theorem budget_of_environment {env : Environment} {e : Endpoints} (h : ofEnvironment env = .ok e) :
    (∑ i ∈ Finset.range (e.retries - 1), Backoff.longest (i + 1)) + slack < UInt64.size ∧
    (∀ span, e.budget? = .ok span ↔ e.questionTime < Span.bound ∧ span = e.questionTime) ∧
    (∀ requested span, e.deadline? requested = .ok span ↔
      e.questionTime < Span.bound ∧ span = max requested e.questionTime) ∧
    (e.timeout ≤ 1000 * (2 ^ 31 - 20) → e.questionTime < Span.bound) ∧
    (Span.bound ≤ e.questionTime → ∃ overflow, e.budget? = .error overflow ∧
      ∀ (τ : Type) (net : Transport τ) (settings : Settings) (now : Moment) (command : Command)
        (s : τ), command.waits = true →
        runCommand net settings e now command s = (.ofOverflow overflow, s)) := by
  obtain ⟨-, hone, hretries⟩ := ofEnvironment_bounds h
  have hbudget := budget_eq_questionTime hone
  refine ⟨?_, fun span => hbudget ▸ budget?_eq_ok_iff, fun requested span => ?_,
    questionTime_lt hretries, fun hlong => ?_⟩
  · -- the number of requests has 32 bits, and no pause is long
    have hpauses := Backoff.total_le (e.retries - 1)
    have hslack : slack = 500 := rfl
    rw [Backoff.total_eq_sum] at hpauses
    unfold UInt32.size at hretries
    unfold UInt64.size
    omega
  · rw [deadline?_eq_ok_iff, deadline, hbudget]
  · -- a budget that came out would be a span
    cases hreckoned : e.budget? with
    | ok span => exact absurd (hbudget ▸ (budget?_eq_ok_iff.1 hreckoned).1) (Nat.not_lt.2 hlong)
    | error overflow =>
      exact ⟨overflow, rfl, fun τ net settings now command s hwaits =>
        runCommand_of_overflow hreckoned net settings now hwaits s⟩

/-- Two endpoints with a minute for each of six requests. -/
theorem budget_of_environment_patient :
    let e : Endpoints :=
      { primary := "http://one", fallback := some "http://two", timeout := 60000, retries := 6 }
    ofEnvironment [("ETH_RPC_URL", "http://one"), ("ETH_RPC_FALLBACK_URL", "http://two"),
      ("COMPLIANCE_CALL_TIMEOUT_SECS", " 60 "), ("COMPLIANCE_RPC_RETRIES", "6")] = .ok e ∧
    e.deadline? 15000 = .ok 795400 := by
  intro e
  have h : ofEnvironment [("ETH_RPC_URL", "http://one"), ("ETH_RPC_FALLBACK_URL", "http://two"),
      ("COMPLIANCE_CALL_TIMEOUT_SECS", " 60 "), ("COMPLIANCE_RPC_RETRIES", "6")] = .ok e := by
    decide +kernel
  obtain ⟨-, -, hdeadline, hshort, -⟩ := budget_of_environment h
  exact ⟨h, (hdeadline 15000 795400).2 ⟨hshort (by decide), by decide +kernel⟩⟩

/-- A thousand and one requests of 18446744073709551 seconds each are too long together. -/
theorem budget_of_environment_too_long :
    let e : Endpoints :=
      { primary := "http://127.0.0.1:1", timeout := 18446744073709551000, retries := 1001 }
    ofEnvironment [("ETH_RPC_URL", "http://127.0.0.1:1"),
      ("COMPLIANCE_CALL_TIMEOUT_SECS", "18446744073709551"),
      ("COMPLIANCE_RPC_RETRIES", "1001")] = .ok e ∧
    e.budget? = .error .scaling ∧ ∀ requested, e.deadline? requested = .error .scaling := by
  intro e
  have hbudget : e.budget? = .error .scaling := by decide +kernel
  refine ⟨by decide +kernel, hbudget, fun requested => ?_⟩
  rw [deadline?, hbudget]
  rfl

end Endpoints

end TokenAudit
