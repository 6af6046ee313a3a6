import TokenAudit.Ledger.Basic
import TokenAudit.Rpc.Answer
import TokenAudit.Rpc.Endpoints
import TokenAudit.Rpc.Params
import TokenAudit.Rpc.Target
import TokenAudit.Rpc.Transport

/-! # Asking endpoints

A question is put to the first endpoint. A request whose fault may pass is made again after a pause,
up to a number of requests. If the first endpoint fails in the end and the second one might know
better, the question is put there in the same way.

* `request` — one request, and `requestAfter`, with the pause before it;
* `persist` — requests to one endpoint;
* `failover` — the second endpoint after the first;
* `Endpoints.ask` — the whole course of a question;
* `Endpoints.ledger` — the ledger behind endpoints. -/

namespace TokenAudit

open Json (Decoder)

variable {σ τ α : Type}

/-! ## One request -/

/-- No answer came in the time that a request may take. -/
def requestTimeout : Fault := ⟨.timedOut, "Request timeout"⟩

/-- Sends a request to an address and waits for its end, but only so long. Without any time it is
given up before it is sent. -/
def request (net : Transport τ) (limit : Nat) (result : Decoder α) (payload : Json) (url : String) :
    Action (Clocked τ) α := fun c =>
  match Target.parse url with
  | .error refusal => (.error ⟨.rpcError, refusal.message⟩, c)
  | .ok target =>
    if limit = 0 then (.error requestTimeout, c)
    else
      match net.post url payload c.now c.state with
      | (.after delay exchange, s) =>
        if delay ≤ limit then
          ((exchange.document target.url.toText).bind (Answer.read result),
            { c with state := s }.wait delay)
        else (.error requestTimeout, { c with state := s }.wait limit)
      | (.never, s) => (.error requestTimeout, { c with state := s }.wait limit)

/-! ## Many requests -/

/-- Pauses after so many failures. -/
def backOff (net : Transport τ) (failures : Nat) : Action (Clocked τ) Unit := fun c =>
  let (draw, s) := net.draw c.state
  (.ok (), { c with state := s }.wait (Backoff.pause failures draw))

/-- A request after so many failures, with a pause before it if there were any. -/
def requestAfter (pause : Nat → Action σ Unit) (request : Action σ α) (failures : Nat) :
    Action σ α := do
  if failures ≠ 0 then pause failures
  request

/-- No request was made, although so many were allowed. -/
def noAttempt (attempts : Nat) : Fault :=
  ⟨.noEndpoints, "No attempt made after " ++ Numeral.decimal attempts ++ " retries"⟩

/-- Makes up to `more` requests, as long as they fail in a way that may pass. There were `failures`
before, the last one with the given fault; `idle` is the fault if there is no request at all. -/
def persist (request : (failures : Nat) → Action σ α) (idle : Fault) :
    (more failures : Nat) → (last : Option Fault) → Action σ α
  | 0, _, last => throw (last.getD idle)
  | more + 1, failures, _ => do
    match ← attempt (request failures) with
    | .ok a => return a
    | .error fault =>
      if fault.isRetryable then persist request idle more (failures + 1) (some fault)
      else throw fault

/-- Both endpoints failed, the second one with the given fault. -/
def allFailed (method : String) (last : Fault) : Fault :=
  ⟨.noEndpoints, "All RPC endpoints failed for " ++ method ++ ": " ++ last.display⟩

/-- Whether the second endpoint is asked after the first failed: its fault may pass, or is one that
another endpoint need not have. -/
def Fault.movesOn (fault : Fault) : Bool := fault.isRetryable || fault.code == .rpcError

/-- Asks the first endpoint, then possibly the second. -/
def failover (method : String) (primary : Action σ α) : Option (Action σ α) → Action σ α
  | none => primary
  | some fallback => do
    match ← attempt primary with
    | .ok a => return a
    | .error fault =>
      if fault.movesOn then
        match ← attempt fallback with
        | .ok a => return a
        | .error last => throw (allFailed method last)
      else throw fault

/-! ## Questions -/

/-- What a request says. -/
def payload (method : String) (params : Json) : Json :=
  .sorted
    [("jsonrpc", .str "2.0"), ("method", .str method), ("params", params), ("id", .nat 1)]

/-- The bytes that a text of hexadecimal digits spells; the mark before them may be missing. -/
def bytesOf (text : String) : Except Fault (List UInt8) :=
  let digits :=
    match text.toList with
    | '0' :: 'x' :: rest => rest
    | cs => cs
  match Hex.decode? digits with
  | some bytes => .ok bytes
  | none => .error Fault.Origin.hexadecimal.fault

namespace Endpoints

/-- Puts a question to the endpoint at an address. -/
def askAt (e : Endpoints) (net : Transport τ) (result : Decoder α) (said : Json) (url : String) :
    Action (Clocked τ) α :=
  persist (requestAfter (backOff net) (request net e.timeout result said url))
    (noAttempt e.attempts) e.attempts 0 none

/-- Puts a question to the endpoints. -/
def ask (e : Endpoints) (net : Transport τ) (result : Decoder α) (method : String) (params : Json) :
    Action (Clocked τ) α :=
  let atUrl := e.askAt net result (payload method params)
  failover method (atUrl e.primary) (e.fallback.map atUrl)

/-- Asks for the number of the newest block. -/
def head (e : Endpoints) (net : Transport τ) : Action (Clocked τ) Nat := do
  let text ← e.ask net Decoder.str "eth_blockNumber" (.arr [])
  match Quantity.read text with
  | .ok n => return n
  | .error flaw => throw flaw.fault

/-- Asks for the code at an account. -/
def code (e : Endpoints) (net : Transport τ) (address : Address) :
    Action (Clocked τ) (List UInt8) := do
  let text ← e.ask net Decoder.str "eth_getCode" (codeParams address)
  liftM (bytesOf text)

/-- Asks for logs. -/
def logs (e : Endpoints) (net : Transport τ) (query : LogQuery) : Action (Clocked τ) (List Log) :=
  e.ask net (Decoder.list decodeLog) "eth_getLogs" query.params

/-- Asks for the result of a call. -/
def call (e : Endpoints) (net : Transport τ) (contract : Address) (data : List UInt8) :
    Action (Clocked τ) (List UInt8) := do
  let text ← e.ask net Decoder.str "eth_call" (callParams contract data)
  liftM (bytesOf text)

/-- A question as part of a ledger: the answer is on its way as long as asking takes. -/
def question (action : Action (Clocked τ) α) : Question τ α := fun now s =>
  let (result, c) := action { Clocked.start s with now }
  ((Pending.ready (liftM result)).later (c.now - now), c.state)

/-- The ledger behind endpoints. -/
def ledger (e : Endpoints) (net : Transport τ) : Ledger τ where
  head := question (e.head net)
  code address := question (e.code net address)
  logs query := question (e.logs net query)
  call contract data := question (e.call net contract data)
  deadline := e.deadline

end Endpoints

end TokenAudit
