import TokenAudit.Ledger.Recorded
import TokenAudit.Rpc.Answer
import TokenAudit.Rpc.Params
import TokenAudit.Rpc.Transport

/-! # Serving a ledger

A recorded ledger as an endpoint: requests are read, put to the records, and answered in the form
that endpoints use.

* `ServedRequest` and `ServedRequest.ofPayload?` — what a request asks for;
* `Log.toWire` — a log as endpoints write it;
* `Recorded.serve` — the answer to a request, and `Recorded.transport`, the network on which the
  ledger is served at every address. -/

namespace TokenAudit

open Json (Document)

/-! ## Reading requests -/

/-- What a request asks for. -/
inductive ServedRequest
  | head
  | code (address : Address)
  | logs (query : LogQuery)
  | call (contract : Address) (data : List UInt8)
  deriving DecidableEq, Repr

/-- The text that a JSON value is. -/
def textOf? : Json → Option String
  | .str s => some s
  | _ => none

/-- The account in a request. -/
def accountOf? (j : Json) : Option Address := do
  (Address.parse (← textOf? j)).toOption

/-- The number in a request. -/
def quantityOf? (j : Json) : Option Nat := do
  (Quantity.read (← textOf? j)).toOption

/-- The bytes in a request. -/
def bytesOf? (j : Json) : Option (List UInt8) := do
  Hex.decode? (Hex.withoutMark (← textOf? j).toList)

/-- What a method with parameters asks for. -/
def ServedRequest.of? (method : String) (params : List Json) : Option ServedRequest :=
  match method, params with
  | "eth_blockNumber", [] => some .head
  | "eth_getCode", [address, _] => (accountOf? address).map .code
  | "eth_getLogs", [filter] => do
    match ← filter.get? "topics" with
    | .arr [topic] =>
      return .logs
        { address := ← (filter.get? "address").bind accountOf?
          topic := ← textOf? topic
          first := ← (filter.get? "fromBlock").bind quantityOf?
          last := ← (filter.get? "toBlock").bind quantityOf? }
    | _ => none
  | "eth_call", [transaction, _] => do
    return .call (← (transaction.get? "to").bind accountOf?)
      (← (transaction.get? "data").bind bytesOf?)
  | _, _ => none

/-- What a request asks for. -/
def ServedRequest.ofPayload? (payload : Json) : Option ServedRequest := do
  match ← payload.get? "params" with
  | .arr params => ServedRequest.of? (← (payload.get? "method").bind textOf?) params
  | _ => none

/-! ## Writing answers -/

/-- A log as endpoints write it. -/
def Log.toWire (log : Log) : Json :=
  .obj
    [("topics", .strs log.topics), ("data", .str log.data),
     ("blockNumber", .option (fun n => .str (Quantity.write n)) log.blockNumber)]

/-- An answer with a result. -/
def resultBody (result : Json) : Json :=
  .obj [("jsonrpc", .str "2.0"), ("id", .nat 1), ("result", result)]

/-- An answer with a complaint. -/
def complaintBody (complaint : Complaint) : Json :=
  .obj
    [("jsonrpc", .str "2.0"), ("id", .nat 1),
     ("error",
      .obj [("code", .num (.int complaint.code)), ("message", .str complaint.message)])]

/-- The answer to something that was asked for, or a complaint with the words of the fault. -/
def answerBody {α : Type} (encode : α → Json) : Except Fault α → Json
  | .ok a => resultBody (encode a)
  | .error fault => complaintBody ⟨3, fault.message⟩

namespace Recorded

/-- The result of a question with what it does to the records. -/
def settled {α : Type} (question : Question Recorded α) (now : Nat) (r : Recorded) :
    Nat × Except Fault α × Recorded :=
  let (answer, r) := question now r
  (answer.delay.getD 0, answer.settle r)

/-- Answers what is asked for: how long it takes, the body of the answer, and the records
afterwards. -/
def respond (now : Nat) (r : Recorded) : ServedRequest → Nat × Json × Recorded
  | .head =>
    let (delay, result, r) := settled ledger.head now r
    (delay, answerBody (fun n => .str (Quantity.write n)) result, r)
  | .code address =>
    let (delay, result, r) := settled (ledger.code address) now r
    (delay, answerBody (fun bytes => .str (Hex.marked bytes)) result, r)
  | .logs query =>
    let (delay, result, r) := settled (ledger.logs query) now r
    (delay, answerBody (fun logs => .arr (logs.map Log.toWire)) result, r)
  | .call contract data =>
    let (delay, result, r) := settled (ledger.call contract data) now r
    (delay, answerBody (fun bytes => .str (Hex.marked bytes)) result, r)

/-- Answers a request. One that asks for nothing known is complained about. -/
def serve (payload : Json) (now : Nat) (r : Recorded) : Reply × Recorded :=
  match ServedRequest.ofPayload? payload with
  | some request =>
    let (delay, body, r) := respond now r request
    (.after delay (.answered 200 (Document.ofJson body)), r)
  | none =>
    (.after 0 (.answered 200 (Document.ofJson (complaintBody ⟨-32601, "method not found"⟩))), r)

/-- The network on which the ledger is served at every address. -/
def transport : Transport Recorded where
  post _ payload now r := serve payload now r
  draw r := (0, r)

end Recorded

end TokenAudit
