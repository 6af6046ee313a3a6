import TokenAudit.Json.Value
import TokenAudit.Ledger.Log

/-! # Parameters of requests

How the things that a request is about are written in it: accounts in checksum case, numbers as
quantities, bytes as hexadecimal text.

* `LogQuery.params`, `callParams`, `codeParams` — the parameters of the requests for logs, calls and
  code. -/

namespace TokenAudit

/-- An account in a request. -/
def accountParam (a : Address) : Json := .str a.toChecksum

/-- The parameters of a request for logs. -/
def LogQuery.params (q : LogQuery) : Json :=
  .arr
    [.sorted
      [("address", accountParam q.address), ("topics", .strs [q.topic]),
       ("fromBlock", .str (Quantity.write q.first)), ("toBlock", .str (Quantity.write q.last))]]

/-- The parameters of a request for the code at an account, as it is now. -/
def codeParams (a : Address) : Json := .arr [accountParam a, .str "latest"]

/-- The parameters of a call that changes nothing. -/
def callParams (contract : Address) (data : List UInt8) : Json :=
  .arr [.sorted [("to", accountParam contract), ("data", .str (Hex.marked data))], .str "latest"]

end TokenAudit
