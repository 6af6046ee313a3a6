import TokenAudit.Table
import TokenAudit.Transfer.Event
import TokenAudit.Word

/-! # Replaying transfers

Balances are worked out again from the logs of a token: each transfer takes its amount from one
account and gives it to the other. Since the logs of a window are only a part of the story, balances
can fall below zero. They are kept in signed words of 256 bits; a transfer that would leave this
range is skipped.

* `Replay` — the balances after a number of logs, and what was skipped;
* `Replay.step`, `replay` — after one more log, and after all;
* `Replay.netSum` — the sum of all balances. -/

namespace TokenAudit

/-- A log that was skipped. -/
structure SkippedLog where
  /-- The block of the log. -/
  blockNumber : Option Nat
  /-- Why it was skipped. -/
  reason : Malformed
  deriving DecidableEq, Repr

/-- Balances worked out from logs. -/
structure Replay where
  /-- The balance of every account that a transfer named, zero and negative ones too. -/
  balances : Table Address Int := .empty
  /-- How many transfers were applied. -/
  applied : Nat := 0
  /-- The logs that were skipped, in their order. -/
  skipped : List SkippedLog := []

/-- Whether a number fits into a signed word. -/
def FitsSigned (n : Int) : Prop := -(Word.half : Int) ≤ n ∧ n < Word.half

instance (n : Int) : Decidable (FitsSigned n) := inferInstanceAs (Decidable (_ ∧ _))

namespace Replay

instance : Inhabited Replay := ⟨{}⟩

/-- The balance of an account; zero if no transfer named it. -/
def balanceOf (r : Replay) (account : Address) : Int := (r.balances.get? account).getD 0

/-- Applies a transfer. A transfer from an account to itself changes no balance. -/
def apply (r : Replay) (t : Transfer) : Except Malformed Replay :=
  if ¬ FitsSigned t.amount then .error .amountOverflow
  else if t.sender = t.recipient then
    .ok { r with
      balances := r.balances.set t.sender (r.balanceOf t.sender)
      applied := r.applied + 1 }
  else
    let given := r.balanceOf t.sender - t.amount
    let received := r.balanceOf t.recipient + t.amount
    if FitsSigned given ∧ FitsSigned received then
      .ok { r with
        balances := (r.balances.set t.sender given).set t.recipient received
        applied := r.applied + 1 }
    else .error .amountOverflow

/-- Takes in one more log: as a transfer, or among the skipped ones. -/
def step (r : Replay) (log : Log) : Replay :=
  match Transfer.ofLog log >>= r.apply with
  | .ok next => next
  | .error reason => { r with skipped := r.skipped ++ [⟨log.blockNumber, reason⟩] }

/-- The balances in the order of the accounts. -/
def byAccount (r : Replay) : List (Address × Int) :=
  r.balances.entries.mergeSort fun a b => a.1 ≤ b.1

/-- A number brought back into the range of signed words. -/
def clamp (n : Int) : Int := max (-(Word.half : Int)) (min n (Word.half - 1))

/-- The sum of balances taken one after the other, each partial sum kept in the range of signed
words. -/
def saturatingSum (balances : List Int) : Int := balances.foldl (fun sum b => clamp (sum + b)) 0

/-- The sum of all balances in the order of the accounts. -/
def netSum (r : Replay) : Int := saturatingSum (r.byAccount.map Prod.snd)

end Replay

/-- Takes in logs one after the other. -/
def replay (logs : List Log) : Replay := logs.foldl Replay.step {}

end TokenAudit
