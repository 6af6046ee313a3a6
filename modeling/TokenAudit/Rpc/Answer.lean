import TokenAudit.Fault
import TokenAudit.Json.Decoder
import TokenAudit.Ledger.Log
import TokenAudit.Text.Lowercase
import TokenAudit.Text.Search

/-! # Answers of endpoints

The body of an answer is a JSON object with the **result**, or with a **complaint** of the endpoint.
Endpoints complain about too many requests in more than one way.

* `Complaint` — what an endpoint complains about, and the fault that it amounts to;
* `Answer.value` — the result, or why there is none;
* `decodeLog` — a log as endpoints write it. -/

namespace TokenAudit

open Json (Decoder Document checked)

/-- What an endpoint complains about. -/
structure Complaint where
  /-- The number of the complaint. -/
  code : Int
  /-- Its words. -/
  message : String
  deriving DecidableEq, Repr

namespace Complaint

/-- The number of a complaint about too many requests. -/
def limitExceeded : Int := -32005

/-- Whether a complaint is about too many requests, by its number or its words. -/
def isRateLimit (c : Complaint) : Bool :=
  c.code == limitExceeded ||
    Text.occursIn "rate limit".toList (Text.lowercase c.message).toList

/-- The fault that a complaint amounts to. -/
def fault (c : Complaint) : Fault :=
  if c.isRateLimit then .rateLimited
  else ⟨.rpcError, "RPC error: " ++ c.message ++ " (code: " ++ toString c.code ++ ")"⟩

/-- A complaint. -/
def decode : Decoder Complaint := fun r => do
  let number := Decoder.int (-0x8000000000000000) 0x8000000000000000
  let fields ← r.record [("code", checked number), ("message", checked Decoder.str)]
  return {
    code := ← fields.required "code" number
    message := ← fields.required "message" Decoder.str }

end Complaint

/-- What the body of an answer says. -/
structure Answer (α : Type) where
  /-- The result, if there is one. -/
  result : Option α
  /-- The complaint, if there is one. -/
  complaint : Option Complaint
  deriving DecidableEq, Repr

namespace Answer

variable {α : Type}

/-- The body of an answer whose result has a certain shape. -/
def decode (result : Decoder α) : Decoder (Answer α) := fun r => do
  let fields ← r.record
    [("result", checked (Decoder.option result)),
     ("error", checked (Decoder.option Complaint.decode))]
  return {
    result := ← fields.optional "result" result
    complaint := ← fields.optional "error" Complaint.decode }

/-- The result of an answer. A complaint counts more than a result. -/
def value (answer : Answer α) : Except Fault α :=
  match answer.complaint, answer.result with
  | some complaint, _ => .error complaint.fault
  | none, some a => .ok a
  | none, none => .error (.invalidResponse "No result in response")

/-- The result in the body of an answer. -/
def read (result : Decoder α) (body : Document) : Except Fault α :=
  match body.decode (decode result) with
  | .ok answer => answer.value
  | .error _ => .error (.invalidResponse "Undecodable response body")

end Answer

/-- A log as endpoints write it. Topics and data may be missing; a number of a block that is no
quantity counts as none. -/
def decodeLog : Decoder Log := fun r => do
  let texts := Decoder.list Decoder.str
  let fields ← r.record
    [("topics", checked texts), ("data", checked Decoder.str),
     ("blockNumber", checked (Decoder.option Decoder.str))]
  let block ← fields.optional "blockNumber" Decoder.str
  return {
    topics := ← fields.withDefault "topics" texts []
    data := ← fields.withDefault "data" Decoder.str ""
    blockNumber := block.bind fun text => (Quantity.read text).toOption }

end TokenAudit
