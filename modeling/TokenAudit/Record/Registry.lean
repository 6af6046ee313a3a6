import TokenAudit.Record.Code
import TokenAudit.Record.Scan
import TokenAudit.Registry.Entry

/-! # Records of the registry

The entries of the registry as JSON, and read back. -/

namespace TokenAudit

open Json (Decoder checked)

/-- A holder as JSON. -/
def Holder.toJson (h : Holder) : Json :=
  .obj [("id", h.id.toJson), ("name", .str h.name), ("created_at", h.createdAt.toJson)]

/-- A holder. -/
def Holder.decode : Decoder Holder := fun r => do
  let fields ← r.record
    [("id", checked Uid.decode), ("name", checked Decoder.str),
     ("created_at", checked Moment.decode)]
  return {
    id := ← fields.required "id" Uid.decode
    name := ← fields.required "name" Decoder.str
    createdAt := ← fields.required "created_at" Moment.decode }

/-- The record of an account as JSON. -/
def AddressRecord.toJson (a : AddressRecord) : Json :=
  .obj
    [("id", a.id.toJson), ("holder_id", a.holderId.toJson), ("address", a.address.toJson),
     ("created_at", a.createdAt.toJson)]

/-- The record of an account. -/
def AddressRecord.decode : Decoder AddressRecord := fun r => do
  let fields ← r.record
    [("id", checked Uid.decode), ("holder_id", checked Uid.decode),
     ("address", checked Address.decode), ("created_at", checked Moment.decode)]
  return {
    id := ← fields.required "id" Uid.decode
    holderId := ← fields.required "holder_id" Uid.decode
    address := ← fields.required "address" Address.decode
    createdAt := ← fields.required "created_at" Moment.decode }

/-- A link as JSON. -/
def Link.toJson (l : Link) : Json :=
  .obj
    [("id", l.id.toJson), ("address_id", l.addressId.toJson), ("token", l.token.toJson),
     ("balance", wordJson l.balance), ("created_at", l.createdAt.toJson),
     ("updated_at", l.updatedAt.toJson)]

/-- A link. -/
def Link.decode : Decoder Link := fun r => do
  let fields ← r.record
    [("id", checked Uid.decode), ("address_id", checked Uid.decode),
     ("token", checked Address.decode), ("balance", checked decodeWord),
     ("created_at", checked Moment.decode), ("updated_at", checked Moment.decode)]
  return {
    id := ← fields.required "id" Uid.decode
    addressId := ← fields.required "address_id" Uid.decode
    token := ← fields.required "token" Address.decode
    balance := ← fields.required "balance" decodeWord
    createdAt := ← fields.required "created_at" Moment.decode
    updatedAt := ← fields.required "updated_at" Moment.decode }

/-- What became of a link as JSON. -/
def LinkOutcome.toJson (outcome : LinkOutcome) : Json := .str outcome.name

/-- What became of a link, by its name. -/
def LinkOutcome.decode : Decoder LinkOutcome :=
  Decoder.choice (LinkOutcome.all.map fun outcome => (outcome.name, outcome))

/-- What linking did as JSON. -/
def LinkReport.toJson (l : LinkReport) : Json :=
  .obj
    [("holder_id", l.holderId.toJson), ("address_id", l.addressId.toJson),
     ("new_identity", .bool l.newIdentity), ("link", l.link.toJson)]

/-- What linking did. -/
def LinkReport.decode : Decoder LinkReport := fun r => do
  let fields ← r.record
    [("holder_id", checked Uid.decode), ("address_id", checked Uid.decode),
     ("new_identity", checked Decoder.bool), ("link", checked LinkOutcome.decode)]
  return {
    holderId := ← fields.required "holder_id" Uid.decode
    addressId := ← fields.required "address_id" Uid.decode
    newIdentity := ← fields.required "new_identity" Decoder.bool
    link := ← fields.required "link" LinkOutcome.decode }

/-- An analysis of code as JSON. -/
def ContractAnalysis.toJson (a : ContractAnalysis) : Json :=
  .obj
    [("id", a.id.toJson), ("token", a.token.toJson), ("report", a.report.toJson),
     ("engine_version", .str a.engineVersion), ("analyzed_at", a.analyzedAt.toJson)]

/-- An analysis of code. -/
def ContractAnalysis.decode : Decoder ContractAnalysis := fun r => do
  let fields ← r.record
    [("id", checked Uid.decode), ("token", checked Address.decode),
     ("report", checked Code.Report.decode), ("engine_version", checked Decoder.str),
     ("analyzed_at", checked Moment.decode)]
  return {
    id := ← fields.required "id" Uid.decode
    token := ← fields.required "token" Address.decode
    report := ← fields.required "report" Code.Report.decode
    engineVersion := ← fields.required "engine_version" Decoder.str
    analyzedAt := ← fields.required "analyzed_at" Moment.decode }

/-- An analysis of holders as JSON. -/
def HolderAnalysis.toJson (a : HolderAnalysis) : Json :=
  .obj
    [("id", a.id.toJson), ("token", a.token.toJson), ("snapshot", a.snapshot.toJson),
     ("engine_version", .str a.engineVersion), ("created_at", a.createdAt.toJson)]

/-- An analysis of holders. -/
def HolderAnalysis.decode (depth : Nat) : Decoder HolderAnalysis := fun r => do
  let snapshot := Snapshot.decode (depth - 1)
  let fields ← r.record
    [("id", checked Uid.decode), ("token", checked Address.decode),
     ("snapshot", checked snapshot), ("engine_version", checked Decoder.str),
     ("created_at", checked Moment.decode)]
  return {
    id := ← fields.required "id" Uid.decode
    token := ← fields.required "token" Address.decode
    snapshot := ← fields.required "snapshot" snapshot
    engineVersion := ← fields.required "engine_version" Decoder.str
    createdAt := ← fields.required "created_at" Moment.decode }

end TokenAudit
