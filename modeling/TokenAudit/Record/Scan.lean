import TokenAudit.Record.Scalar
import TokenAudit.Scan.Snapshot

/-! # Records on holders

Logs, diagnostics and snapshots as JSON, and read back. A reason for skipping a log and a diagnostic
name their kind, under `kind` and under `type`. -/

namespace TokenAudit

open Json (Decoder Fields checked)

/-! ## Logs -/

/-- A log as JSON. -/
def Log.toJson (log : Log) : Json :=
  .obj
    [("topics", .strs log.topics), ("data", .str log.data),
     ("blockNumber", .option .nat log.blockNumber)]

/-- A log. -/
def Log.decode : Decoder Log := fun r => do
  let texts := Decoder.list Decoder.str
  let fields ← r.record
    [("topics", checked texts), ("data", checked Decoder.str),
     ("blockNumber", checked (Decoder.option (Decoder.nat 64)))]
  return {
    topics := ← fields.required "topics" texts
    data := ← fields.required "data" Decoder.str
    blockNumber := ← fields.optional "blockNumber" (Decoder.nat 64) }

/-! ## Reasons for skipping a log -/

/-- The kinds of reasons. -/
inductive Malformed.Kind
  | missingTopics | badTopic | emptyData | badData | amountOverflow

/-- The kinds of reasons by their names. -/
def Malformed.kinds : List (String × Malformed.Kind) :=
  [("missing_topics", .missingTopics), ("bad_topic", .badTopic), ("empty_data", .emptyData),
   ("bad_data", .badData), ("amount_overflow", .amountOverflow)]

/-- A reason as JSON. -/
def Malformed.toJson : Malformed → Json
  | .missingTopics found => .obj [("kind", .str "missing_topics"), ("found", .nat found)]
  | .badTopic index => .obj [("kind", .str "bad_topic"), ("index", .nat index)]
  | .emptyData => .obj [("kind", .str "empty_data")]
  | .badData => .obj [("kind", .str "bad_data")]
  | .amountOverflow => .obj [("kind", .str "amount_overflow")]

/-- A reason; `within` says that it stands in a value that was taken whole. -/
def Malformed.decode (within : Bool) (depth : Nat) : Decoder Malformed := fun r => do
  let (kind, rest) ← r.tagged "kind" (Json.kindOf kinds within) depth
  let number (name : String) : Except Json.Problem Nat := do
    let fields ← rest.record [(name, checked (Decoder.nat 64))]
    fields.required name (Decoder.nat 64)
  Json.withinWhole <|
    match kind with
    | .missingTopics => (number "found").map .missingTopics
    | .badTopic => (number "index").map .badTopic
    | .emptyData => (Json.noFields rest).map fun _ => .emptyData
    | .badData => (Json.noFields rest).map fun _ => .badData
    | .amountOverflow => (Json.noFields rest).map fun _ => .amountOverflow

/-! ## Diagnostics -/

/-- The kinds of diagnostics. -/
inductive Diagnostic.Kind
  | chunkFailed | logSkipped | linkFailed

/-- The kinds of diagnostics by their names. -/
def Diagnostic.kinds : List (String × Diagnostic.Kind) :=
  [("chunk_failed", .chunkFailed), ("log_skipped", .logSkipped), ("link_failed", .linkFailed)]

/-- A diagnostic as JSON. -/
def Diagnostic.toJson : Diagnostic → Json
  | .chunkFailed window attempts code message =>
    .obj
      [("type", .str "chunk_failed"), ("from_block", .nat window.first),
       ("to_block", .nat window.last), ("attempts", .nat attempts), ("code", .str code),
       ("message", .str message)]
  | .logSkipped skipped =>
    .obj
      [("type", .str "log_skipped"), ("block_number", .option .nat skipped.blockNumber),
       ("reason", skipped.reason.toJson)]
  | .linkFailed address message =>
    .obj
      [("type", .str "link_failed"), ("address", address.toJson), ("message", .str message)]

/-- The fields of a failed chunk. -/
def Diagnostic.decodeChunkFailed : Decoder Diagnostic := fun r => do
  let number := Decoder.nat 64
  let fields ← r.record
    [("from_block", checked number), ("to_block", checked number),
     ("attempts", checked (Decoder.nat 32)), ("code", checked Decoder.str),
     ("message", checked Decoder.str)]
  return .chunkFailed
    ⟨← fields.required "from_block" number, ← fields.required "to_block" number⟩
    (← fields.required "attempts" (Decoder.nat 32))
    (← fields.required "code" Decoder.str) (← fields.required "message" Decoder.str)

/-- The fields of a skipped log. -/
def Diagnostic.decodeLogSkipped : Decoder Diagnostic := fun r => do
  let block := Decoder.nat 64
  let reason := Malformed.decode true Json.maxDepth
  let fields ← r.record
    [("block_number", checked (Decoder.option block)), ("reason", checked reason)]
  return .logSkipped
    ⟨← fields.optional "block_number" block, ← fields.required "reason" reason⟩

/-- The fields of a link that failed. -/
def Diagnostic.decodeLinkFailed : Decoder Diagnostic := fun r => do
  let address := Address.decodeWithin true
  let fields ← r.record [("address", checked address), ("message", checked Decoder.str)]
  return .linkFailed (← fields.required "address" address)
    (← fields.required "message" Decoder.str)

/-- A diagnostic. -/
def Diagnostic.decode (depth : Nat) : Decoder Diagnostic := fun r => do
  let (kind, rest) ← r.tagged "type" (Json.kindOf kinds false) depth
  Json.withinWhole <|
    match kind with
    | .chunkFailed => decodeChunkFailed rest
    | .logSkipped => decodeLogSkipped rest
    | .linkFailed => decodeLinkFailed rest

/-! ## Snapshots -/

/-- A holder with its balance as JSON. -/
def HolderBalance.toJson (h : HolderBalance) : Json :=
  .obj [("address", h.address.toJson), ("balance", wordJson h.balance)]

/-- A holder with its balance. -/
def HolderBalance.decode : Decoder HolderBalance := fun r => do
  let fields ← r.record [("address", checked Address.decode), ("balance", checked decodeWord)]
  return ⟨← fields.required "address" Address.decode, ← fields.required "balance" decodeWord⟩

/-- An anomaly as JSON. -/
def Anomaly.toJson (a : Anomaly) : Json := .str a.name

/-- An anomaly by its name. -/
def Anomaly.decode : Decoder Anomaly := Decoder.choice (Anomaly.all.map fun a => (a.name, a))

/-- A status as JSON. -/
def Snapshot.Status.toJson (status : Snapshot.Status) : Json := .str status.name

/-- A status by its name. -/
def Snapshot.Status.decode : Decoder Snapshot.Status :=
  Decoder.choice (Snapshot.Status.all.map fun status => (status.name, status))

/-- A snapshot as JSON. -/
def Snapshot.toJson (s : Snapshot) : Json :=
  .obj
    [("token", s.token.toJson), ("status", s.status.toJson),
     ("top_holders", .arr (s.topHolders.map HolderBalance.toJson)),
     ("centralization_score", .float s.centralizationScore),
     ("anomalies", .arr (s.anomalies.map Anomaly.toJson)),
     ("total_holder_count", .nat s.totalHolderCount),
     ("total_supply_calculated", wordJson s.totalSupply),
     ("transfer_events", .nat s.transferEvents),
     ("scanned_from", .nat s.scanned.first), ("scanned_to", .nat s.scanned.last),
     ("chunks_total", .nat s.chunksTotal), ("chunks_failed", .nat s.chunksFailed),
     ("diagnostics", .arr (s.diagnostics.map Diagnostic.toJson))]

/-- A snapshot. -/
def Snapshot.decode (depth : Nat) : Decoder Snapshot := fun r => do
  let number := Decoder.nat 64
  let holders := Decoder.list HolderBalance.decode
  let anomalies := Decoder.list Anomaly.decode
  let diagnostics := Decoder.list (Diagnostic.decode (depth - 2))
  let fields ← r.record
    [("token", checked Address.decode), ("status", checked Snapshot.Status.decode),
     ("top_holders", checked holders), ("centralization_score", checked Decoder.float),
     ("anomalies", checked anomalies), ("total_holder_count", checked number),
     ("total_supply_calculated", checked decodeWord), ("transfer_events", checked number),
     ("scanned_from", checked number), ("scanned_to", checked number),
     ("chunks_total", checked number), ("chunks_failed", checked number),
     ("diagnostics", checked diagnostics)]
  return {
    token := ← fields.required "token" Address.decode
    status := ← fields.required "status" Snapshot.Status.decode
    topHolders := ← fields.required "top_holders" holders
    centralizationScore := ← fields.required "centralization_score" Decoder.float
    anomalies := ← fields.required "anomalies" anomalies
    totalHolderCount := ← fields.required "total_holder_count" number
    totalSupply := ← fields.required "total_supply_calculated" decodeWord
    transferEvents := ← fields.required "transfer_events" number
    scanned :=
      ⟨← fields.required "scanned_from" number, ← fields.required "scanned_to" number⟩
    chunksTotal := ← fields.required "chunks_total" number
    chunksFailed := ← fields.required "chunks_failed" number
    diagnostics := ← fields.required "diagnostics" diagnostics }

end TokenAudit
