import TokenAudit.Profile.Entry
import TokenAudit.Record.Scalar

/-! # Records on tokens

Metadata and profiles as JSON, and read back. -/

namespace TokenAudit

open Json (Decoder checked)

/-- What a token says about itself as JSON. -/
def TokenMetadata.toJson (m : TokenMetadata) : Json :=
  .obj
    [("name", .option .str m.name), ("symbol", .option .str m.symbol),
     ("decimals", .option .nat m.decimals)]

/-- What a token says about itself. -/
def TokenMetadata.decode : Decoder TokenMetadata := fun r => do
  let text := checked (Decoder.option Decoder.str)
  let fields ← r.record
    [("name", text), ("symbol", text), ("decimals", checked (Decoder.option (Decoder.nat 8)))]
  return {
    name := ← fields.optional "name" Decoder.str
    symbol := ← fields.optional "symbol" Decoder.str
    decimals := ← fields.optional "decimals" (Decoder.nat 8) }

/-- A recommendation as JSON. -/
def Recommendation.toJson (r : Recommendation) : Json := .str r.name

/-- A recommendation by its name. -/
def Recommendation.decode : Decoder Recommendation :=
  Decoder.choice (Recommendation.all.map fun r => (r.name, r))

/-- A profile as JSON. -/
def Profile.toJson (p : Profile) : Json :=
  .obj
    [("token_address", p.token.toJson), ("metadata", p.metadata.toJson),
     ("risk_score", .nat p.riskScore), ("recommendation", p.recommendation.toJson),
     ("flags", .strs p.flags), ("modules", .obj p.modules),
     ("updated_at", p.updatedAt.toJson)]

/-- A profile. -/
def Profile.decode (depth : Nat) : Decoder Profile := fun r => do
  let texts := Decoder.list Decoder.str
  let modules := Decoder.members (depth - 1)
  let fields ← r.record
    [("token_address", checked Address.decode), ("metadata", checked TokenMetadata.decode),
     ("risk_score", checked (Decoder.nat 8)), ("recommendation", checked Recommendation.decode),
     ("flags", checked texts), ("modules", checked modules),
     ("updated_at", checked Moment.decode)]
  return {
    token := ← fields.required "token_address" Address.decode
    metadata := ← fields.required "metadata" TokenMetadata.decode
    riskScore := ← fields.required "risk_score" (Decoder.nat 8)
    recommendation := ← fields.required "recommendation" Recommendation.decode
    flags := ← fields.required "flags" texts
    modules := ← fields.required "modules" modules
    updatedAt := ← fields.required "updated_at" Moment.decode }

end TokenAudit
