import TokenAudit.Ledger.Basic
import TokenAudit.Scan.Window
import TokenAudit.Table
import TokenAudit.Text.Lowercase

/-! # Recorded ledgers

A ledger that answers from records. Queries for logs can be made to fail, for ever or a number of
times, and to take time.

* `Recorded` — the records, and what was asked so far;
* `Recorded.ledger` — the ledger that answers from them. -/

namespace TokenAudit

/-- Makes queries fail that meet a range of blocks. -/
structure RangeFailure where
  /-- The range. -/
  range : Window
  /-- The code of the failure. -/
  code : Fault.Code
  /-- How many queries are still to fail; without a number all of them. -/
  remaining : Option Nat
  deriving DecidableEq, Repr

/-- Records that a ledger answers from. -/
structure Recorded where
  /-- The number of the newest block. -/
  head : Nat := 0
  /-- The code of contracts. -/
  code : Table Address (List UInt8) := .empty
  /-- Logs with the contracts they are of. -/
  logs : List (Address × Log) := []
  /-- The results of calls, by contract and the first four bytes of the call. -/
  calls : Table (Address × List UInt8) (List UInt8) := .empty
  /-- Which queries for logs fail. -/
  failures : List RangeFailure := []
  /-- How long there is to wait for the answer to a query for logs, if at all. -/
  logDelay : Option Nat := none
  /-- How many queries for logs there were. -/
  logQueries : Nat := 0

namespace Recorded

instance : Inhabited Recorded := ⟨{}⟩

/-- Looks for the first failure that a query meets: its code, and what is left of the failures. -/
def fire (window : Window) : List RangeFailure → Option Fault.Code × List RangeFailure
  | [] => (none, [])
  | failure :: rest =>
    let (code, left) := fire window rest
    if failure.range.overlaps window then
      match failure.remaining with
      | none => (some failure.code, failure :: rest)
      | some (n + 1) => (some failure.code, { failure with remaining := some n } :: rest)
      | some 0 => (code, failure :: left)
    else (code, failure :: left)

/-- Whether a log of a contract is asked for. Letter case does not matter in topics, and a log that
is in no block is in no range. -/
def Matches (query : LogQuery) (entry : Address × Log) : Bool :=
  entry.1 == query.address &&
  (match entry.2.blockNumber with
    | none => false
    | some block => query.first ≤ block && block ≤ query.last) &&
  (match entry.2.topics with
    | [] => false
    | topic :: _ => Text.lowercase topic == Text.lowercase query.topic)

/-- The logs that a query asks for, ordered by block. -/
def find (logs : List (Address × Log)) (query : LogQuery) : List Log :=
  ((logs.filter (Matches query)).map Prod.snd).mergeSort fun a b =>
    a.blockNumber.getD 0 ≤ b.blockNumber.getD 0

/-- The answer to a query for logs, once its time is over. -/
def answerLogs (query : LogQuery) : Action Recorded (List Log) := fun r =>
  match fire ⟨query.first, query.last⟩ r.failures with
  | (none, _) => (.ok (find r.logs query), r)
  | (some code, failures) =>
    (.error ⟨code,
      "injected failure for " ++ Numeral.decimal query.first ++ "-" ++ Numeral.decimal query.last⟩,
      { r with failures })

/-- The answer to a call. -/
def answerCall (r : Recorded) (contract : Address) (data : List UInt8) :
    Except Fault (List UInt8) :=
  if data.length < 4 then .error ⟨.rpcError, "calldata shorter than a selector"⟩
  else
    match r.calls.get? (contract, data.take 4) with
    | some result => .ok result
    | none => .error ⟨.rpcError, "execution reverted"⟩

/-- The ledger that answers from records. -/
def ledger : Ledger Recorded where
  head _ r := (.ready (pure r.head), r)
  code address _ r := (.ready (pure ((r.code.get? address).getD [])), r)
  logs query _ r := (⟨r.logDelay, answerLogs query⟩, { r with logQueries := r.logQueries + 1 })
  call contract data _ r := (.ready (liftM (r.answerCall contract data)), r)
  deadline requested := requested

end Recorded

end TokenAudit
