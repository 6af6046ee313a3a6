import TokenAudit.Proofs.Json.Members
import TokenAudit.Proofs.Ledger.Spellings
import TokenAudit.Rpc.Client
import TokenAudit.Rpc.Served

/-! # What goes over the wire

Requests and answers have a standard form: numbers are quantities, accounts are in checksum case,
bytes are hexadecimal text after a mark, logs are objects. Who reads what is written in this form
gets what was meant, no matter how the members of objects are ordered and what else is in them.

* `WireLog`, `Brings` — the standard form of logs and of answers;
* `decodeLog_of_wireLog`, `Answer.read_of_brings` — reading it;
* `ofPayload?_logs` and its siblings — a request says what was meant by it. -/

namespace TokenAudit

open Json (Decoder Document Reading checked checked_of_get? checked_of_ok Fields)

variable {α : Type}

/-! ## The standard form -/

/-- An object that says of a log what its topics and its data are, and has the number of its block
as a text, or null. -/
structure WireLog (topics : List String) (data : String) (block : Option String) (wire : Json) :
    Prop where
  object : wire.IsObject
  topics : wire.get? "topics" = some (.strs topics)
  data : wire.get? "data" = some (.str data)
  blockNumber : wire.get? "blockNumber" = some (.option .str block)

/-- A log in the standard form: the number of its block is a quantity. -/
def Log.IsWritten (log : Log) (wire : Json) : Prop :=
  WireLog log.topics log.data (log.blockNumber.map Quantity.write) wire

/-- The body of an answer that brings a result and no complaint. -/
structure Brings (result body : Json) : Prop where
  object : body.IsObject
  result : body.get? "result" = some result
  complaint : body.get? "error" = none ∨ body.get? "error" = some .null

/-- A log is written in the standard form. -/
theorem Log.isWritten_toWire (log : Log) : log.IsWritten log.toWire where
  object := ⟨_, rfl, by simp⟩
  topics := rfl
  data := rfl
  blockNumber := congrArg some (by cases log.blockNumber <;> rfl)

/-- The body made for a result brings it. -/
theorem brings_resultBody (result : Json) : Brings result (resultBody result) where
  object := ⟨_, rfl, by simp⟩
  result := rfl
  complaint := .inl rfl

/-! ## Reading the standard form -/

/-- **A log off the wire** has the topics and the data that stand there, and the number of its block
if the text for it is a quantity. -/
theorem decodeLog_of_wireLog {topics : List String} {data : String} {block : Option String}
    {wire : Json} (h : WireLog topics data block wire) :
    decodeLog (Reading.ofJson wire) =
      .ok ⟨topics, data, block.bind fun text => (Quantity.read text).toOption⟩ := by
  have htopics := Decoder.list_strs topics
  have hblock : Decoder.option Decoder.str (Reading.ofJson (.option .str block)) = .ok block := by
    cases block <;> rfl
  -- three fields are looked for, and anything else is passed over
  obtain ⟨fields, hfields, hlookup⟩ : ∃ fields,
      (Reading.ofJson wire).record
          [("topics", checked (Decoder.list Decoder.str)), ("data", checked Decoder.str),
            ("blockNumber", checked (Decoder.option Decoder.str))] = .ok fields ∧
        ∀ name ∈ ["topics", "data", "blockNumber"],
          fields.lookup name = (wire.get? name).map Reading.ofJson :=
    Reading.record_ofJson h.object <| List.forall_mem_cons.2 ⟨checked_of_get? h.topics htopics,
      List.forall_mem_cons.2 ⟨checked_of_get? h.data rfl,
        List.forall_mem_singleton.2 (checked_of_get? h.blockNumber hblock)⟩⟩
  have hreadTopics := hlookup "topics" (by simp)
  have hreadData := hlookup "data" (by simp)
  have hreadBlock := hlookup "blockNumber" (by simp)
  rw [h.topics] at hreadTopics
  rw [h.data] at hreadData
  rw [h.blockNumber] at hreadBlock
  simp only [decodeLog, hfields, bind, Except.bind, Fields.optional,
    Fields.withDefault, hreadTopics, hreadData, hreadBlock, Option.map_some, htopics, hblock]
  rfl

/-- A log in the standard form is read back, if its block has a number of 64 bits. -/
theorem decodeLog_of_isWritten {log : Log} {wire : Json} (h : log.IsWritten wire)
    (hblock : ∀ n, log.blockNumber = some n → n < UInt64.size) :
    decodeLog (Reading.ofJson wire) = .ok log := by
  have hread :
      ((log.blockNumber.map Quantity.write).bind fun text => (Quantity.read text).toOption) =
      log.blockNumber := by
    cases hnumber : log.blockNumber with
    | none => rfl
    | some n =>
      rw [Option.map_some, Option.bind_some, Quantity.read_write (hblock n hnumber)]
      rfl
  rw [decodeLog_of_wireLog h, hread]

/-- **The result of an answer** is what it brings. -/
theorem Answer.read_of_brings {decode : Decoder α} {result body : Json} {a : α}
    (h : Brings result body) (hresult : decode (Reading.ofJson result) = .ok a)
    (hnull : Reading.ofJson result ≠ .null) :
    Answer.read decode (Document.ofJson body) = .ok a := by
  have hsome := Decoder.option_of_ok hresult hnull
  -- a complaint that is null is none
  have hnone : ∀ value, body.get? "error" = some value →
      Decoder.option Complaint.decode (Reading.ofJson value) = .ok none := by
    intro value hvalue
    rcases h.complaint with hmissing | hcomplaint
    · rw [hmissing] at hvalue
      cases hvalue
    · rw [hcomplaint] at hvalue
      cases hvalue
      rfl
  obtain ⟨fields, hfields, hlookup⟩ : ∃ fields,
      (Reading.ofJson body).record
          [("result", checked (Decoder.option decode)),
            ("error", checked (Decoder.option Complaint.decode))] = .ok fields ∧
        ∀ name ∈ ["result", "error"], fields.lookup name = (body.get? name).map Reading.ofJson :=
    Reading.record_ofJson h.object <| List.forall_mem_cons.2 ⟨checked_of_get? h.result hsome,
      List.forall_mem_singleton.2 fun value hvalue => checked_of_ok (hnone value hvalue)⟩
  have hreadResult := hlookup "result" (by simp)
  rw [h.result] at hreadResult
  have hoptional : fields.optional "error" Complaint.decode = .ok none := by
    rw [Fields.optional, hlookup "error" (by simp)]
    cases herror : body.get? "error" with
    | none => rfl
    | some value => exact hnone value herror
  have hanswer : Answer.decode decode (Reading.ofJson body) = .ok ⟨some a, none⟩ := by
    simp only [Answer.decode, hfields, bind, Except.bind, hoptional]
    simp only [Fields.optional, hreadResult, Option.map_some, hsome]
    rfl
  rw [Answer.read, Document.decode, Document.ofJson]
  dsimp only
  rw [hanswer]
  rfl

/-! ## Requests -/

/-- An account is read back from the parameter it is written as. -/
theorem accountOf?_accountParam (a : Address) : accountOf? (accountParam a) = some a := by
  rw [accountOf?, accountParam, textOf?]
  show (Address.parse a.toChecksum).toOption = some a
  rw [Address.parse_toChecksum]
  rfl

/-- A number of 64 bits is read back from its quantity. -/
theorem quantityOf?_write {n : Nat} (h : n < UInt64.size) :
    quantityOf? (.str (Quantity.write n)) = some n := by
  show (Quantity.read (Quantity.write n)).toOption = some n
  rw [Quantity.read_write h]
  rfl

/-- Bytes are read back from their marked digits, where they stand as a parameter. -/
theorem bytesOf?_marked (bytes : List UInt8) : bytesOf? (.str (Hex.marked bytes)) = some bytes := by
  show Hex.decode? (Hex.withoutMark (Hex.marked bytes).toList) = some bytes
  rw [Hex.marked, String.toList_ofList]
  exact Hex.decode?_encode bytes

/-- Bytes are read back from their marked digits, where they stand as a result. -/
theorem bytesOf_marked (bytes : List UInt8) : bytesOf (Hex.marked bytes) = .ok bytes := by
  simp [bytesOf, Hex.marked]

/-- What a request asks for is found in its method and its parameters. -/
theorem ofPayload?_payload (method : String) (params : List Json) :
    ServedRequest.ofPayload? (payload method (.arr params)) = ServedRequest.of? method params := by
  have hget : ∀ key, (payload method (.arr params)).get? key = _ := Json.get?_sorted (by simp)
  rw [ServedRequest.ofPayload?, hget "params", hget "method"]
  rfl

/-- The request for the newest block is read as such. -/
theorem ofPayload?_head :
    ServedRequest.ofPayload? (payload "eth_blockNumber" (.arr [])) = some .head :=
  ofPayload?_payload ..

/-- The request for the code at an account is read as such. -/
theorem ofPayload?_code (address : Address) :
    ServedRequest.ofPayload? (payload "eth_getCode" (codeParams address)) =
      some (.code address) := by
  rw [codeParams, ofPayload?_payload]
  show (accountOf? (accountParam address)).map ServedRequest.code = _
  rw [accountOf?_accountParam]
  rfl

/-- **The parameters of a request for logs** tell everything about it: the account, the topic, and
both ends of the range. -/
theorem ofPayload?_logs {query : LogQuery} (hfirst : query.first < UInt64.size)
    (hlast : query.last < UInt64.size) :
    ServedRequest.ofPayload? (payload "eth_getLogs" query.params) = some (.logs query) := by
  rw [LogQuery.params, ofPayload?_payload]
  have hget : ∀ key, (Json.sorted
      [("address", accountParam query.address), ("topics", .strs [query.topic]),
        ("fromBlock", .str (Quantity.write query.first)),
        ("toBlock", .str (Quantity.write query.last))]).get? key = _ := Json.get?_sorted (by simp)
  simp only [ServedRequest.of?, hget]
  -- with the members looked up, each parameter is to be read back
  show (do
    let address ← accountOf? (accountParam query.address)
    let first ← quantityOf? (.str (Quantity.write query.first))
    let last ← quantityOf? (.str (Quantity.write query.last))
    return ServedRequest.logs ⟨address, query.topic, first, last⟩) = _
  rw [accountOf?_accountParam, quantityOf?_write hfirst, quantityOf?_write hlast]
  rfl

/-- The request for a call is read as such. -/
theorem ofPayload?_call (contract : Address) (data : List UInt8) :
    ServedRequest.ofPayload? (payload "eth_call" (callParams contract data)) =
      some (.call contract data) := by
  rw [callParams, ofPayload?_payload]
  have hget : ∀ key, (Json.sorted
      [("to", accountParam contract), ("data", .str (Hex.marked data))]).get? key = _ :=
    Json.get?_sorted (by simp)
  simp only [ServedRequest.of?, hget]
  show (do
    let contract ← accountOf? (accountParam contract)
    let data ← bytesOf? (.str (Hex.marked data))
    return ServedRequest.call contract data) = _
  rw [accountOf?_accountParam, bytesOf?_marked]
  rfl

end TokenAudit
