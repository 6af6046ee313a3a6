import TokenAudit.Code.Report
import TokenAudit.Record.Scalar

/-! # Records on code

Reports on code as JSON, and read back. -/

namespace TokenAudit.Code

open Json (Decoder checked)

/-- A flag as JSON. -/
def Flag.toJson (flag : Flag) : Json := .str flag.name

/-- A flag by its name. -/
def Flag.decode : Decoder Flag := Decoder.choice (Flag.all.map fun flag => (flag.name, flag))

/-- A report as JSON. -/
def Report.toJson (report : Report) : Json :=
  .obj
    [("address", report.address.toJson),
     ("risk_score", .nat report.riskScore),
     ("flags", .arr (report.flags.map Flag.toJson)),
     ("evidence", .strs report.evidence),
     ("bytecode_hash", .str report.bytecodeHash),
     ("entropy_bits", .float report.entropyBits),
     ("matched_function_signatures", .strs report.signatures),
     ("opcode_trace", .strs report.opcodeTrace),
     ("bytecode_size", .nat report.bytecodeSize)]

/-- A report. -/
def Report.decode : Decoder Report := fun r => do
  let texts := Decoder.list Decoder.str
  let flags := Decoder.list Flag.decode
  let fields ← r.record
    [("address", checked Address.decode),
     ("risk_score", checked (Decoder.nat 8)),
     ("flags", checked flags),
     ("evidence", checked texts),
     ("bytecode_hash", checked Decoder.str),
     ("entropy_bits", checked Decoder.float),
     ("matched_function_signatures", checked texts),
     ("opcode_trace", checked texts),
     ("bytecode_size", checked (Decoder.nat 64))]
  return {
    address := ← fields.required "address" Address.decode
    riskScore := ← fields.required "risk_score" (Decoder.nat 8)
    flags := ← fields.required "flags" flags
    evidence := ← fields.required "evidence" texts
    bytecodeHash := ← fields.required "bytecode_hash" Decoder.str
    entropyBits := ← fields.required "entropy_bits" Decoder.float
    signatures := ← fields.required "matched_function_signatures" texts
    opcodeTrace := ← fields.required "opcode_trace" texts
    bytecodeSize := ← fields.required "bytecode_size" (Decoder.nat 64) }

end TokenAudit.Code
