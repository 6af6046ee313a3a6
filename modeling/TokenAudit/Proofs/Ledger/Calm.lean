import TokenAudit.Ledger.Recorded

/-! # Asking records

A recorded ledger without failures gives what stands in its records, and asking it changes nothing
but how often it was asked for logs.

* `Recorded.SameRecords` — records that are the same but for that;
* `Recorded.ask_head`, `ask_code`, `ask_logs_of_calm`, `ask_call` — what becomes of each
  question. -/

namespace TokenAudit.Recorded

/-- The records are the same, whatever was asked of them. -/
def SameRecords (r s : Recorded) : Prop := s = { r with logQueries := s.logQueries }

/-- Records stay the same from one state to the next and so throughout. -/
theorem SameRecords.trans {r s t : Recorded} (h : SameRecords r s) (h' : SameRecords s t) :
    SameRecords r t := by
  rw [SameRecords, h', h]

/-- Recorded ledgers tell their newest block at once. -/
theorem ask_head (c : Clocked Recorded) : Ledger.ask ledger.head c = (.ok c.state.head, c) := rfl

/-- Recorded ledgers tell the code of an account at once, and that there is none if nothing is
recorded. -/
theorem ask_code (address : Address) (c : Clocked Recorded) :
    Ledger.ask (ledger.code address) c = (.ok ((c.state.code.get? address).getD []), c) := rfl

/-- Recorded ledgers answer a call at once. -/
theorem ask_call (contract : Address) (data : List UInt8) (c : Clocked Recorded) :
    Ledger.ask (ledger.call contract data) c = (c.state.answerCall contract data, c) := rfl

/-- A ledger without failures answers a query with the logs that it finds, and its records stay the
same. -/
theorem ask_logs_of_calm {c : Clocked Recorded} (hcalm : c.state.failures = []) (query : LogQuery) :
    ∃ c', Ledger.ask (ledger.logs query) c = (.ok (find c.state.logs query), c') ∧
      SameRecords c.state c'.state := by
  let asked : Recorded := { c.state with logQueries := c.state.logQueries + 1 }
  obtain ⟨c', hstate, hawait⟩ :=
    Pending.await_eq ⟨c.state.logDelay, answerLogs query⟩ { c with state := asked }
  have hanswer : answerLogs query asked = (.ok (find c.state.logs query), asked) := by
    rw [answerLogs, show asked.failures = [] from hcalm]
    rfl
  -- the query is counted before the wait, and answered after it
  rw [hstate] at hawait
  dsimp only at hawait
  rw [hanswer] at hawait
  exact ⟨{ c' with state := asked }, hawait, rfl⟩

end TokenAudit.Recorded
