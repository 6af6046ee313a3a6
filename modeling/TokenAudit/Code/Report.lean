import TokenAudit.Code.Entropy
import TokenAudit.Code.Instruction
import TokenAudit.Code.Selector
import TokenAudit.Fault
import TokenAudit.Settings

/-! # Reports on code

A contract's code is looked at without running it. Five **checks** are made in a fixed order; each
that applies raises its flag and adds a line of evidence, and each flag costs a number of points out
of a hundred.

* `Code.Flag` — what a check can raise;
* `Code.checks` — the checks of a code;
* `Code.score` — the points that are left;
* `Code.Report` and `Code.analyze` — all that is said about a code. -/

namespace TokenAudit.Code

/-- What can be wrong with a code, in the order of the checks. -/
inductive Flag
  /-- It can run foreign code in its own place. -/
  | proxyDetected
  /-- It can make contracts. -/
  | contractFactoryDetected
  /-- It uses an instruction that is given up. -/
  | deprecatedCallcodeUsed
  /-- The function that moves tokens is missing. -/
  | nonstandardTransfer
  /-- Its bytes are spread too evenly. -/
  | obfuscatedCode
  deriving DecidableEq, Repr

/-- Every flag once, in order. -/
def Flag.all : List Flag :=
  [.proxyDetected, .contractFactoryDetected, .deprecatedCallcodeUsed, .nonstandardTransfer,
   .obfuscatedCode]

/-- The name of a flag. -/
def Flag.name : Flag → String
  | .proxyDetected => "proxy_detected"
  | .contractFactoryDetected => "contract_factory_detected"
  | .deprecatedCallcodeUsed => "deprecated_callcode_used"
  | .nonstandardTransfer => "nonstandard_transfer"
  | .obfuscatedCode => "obfuscated_code"

/-- One check of a code: what it would raise, whether it applies, and the evidence. -/
structure Check where
  /-- The flag it raises. -/
  flag : Flag
  /-- Whether it applies. -/
  applies : Bool
  /-- The line of evidence. -/
  evidence : String

/-- Whether an instruction of a code has the given opcode. -/
def uses (instructions : List Instruction) (opcode : UInt8) : Bool :=
  instructions.any fun i => i.opcode == opcode

/-- The checks of a code in their order. -/
def checks (code : List UInt8) (settings : Settings) : List Check :=
  let instructions := Instruction.read code
  let entropyBits := entropy code
  [⟨.proxyDetected, uses instructions Opcode.delegatecall,
      "DELEGATECALL instruction found in bytecode"⟩,
   ⟨.contractFactoryDetected,
      uses instructions Opcode.create || uses instructions Opcode.create2,
      "CREATE/CREATE2 instruction found (contract factory behavior)"⟩,
   ⟨.deprecatedCallcodeUsed, uses instructions Opcode.callcode,
      "CALLCODE is deprecated and unsafe"⟩,
   ⟨.nonstandardTransfer, !Selector.transfer.isIn (Hex.encode code),
      "Missing ERC20 transfer(address,uint256) selector"⟩,
   ⟨.obfuscatedCode, settings.entropyThreshold < entropyBits,
      "Bytecode entropy is high (" ++ (Decimal.fixed 2 entropyBits).getD "" ++
        "), may be obfuscated"⟩]

/-- The points left of a hundred when each flag costs `penalty`. -/
def score (flags penalty : Nat) : Nat := 100 - flags * penalty

/-- All that is said about a code. -/
structure Report where
  /-- Where the contract stands. -/
  address : Address
  /-- The points out of a hundred; more is safer. -/
  riskScore : Nat
  /-- The flags raised, in the order of the checks. -/
  flags : List Flag
  /-- A line for each flag. -/
  evidence : List String
  /-- The digest of the code. -/
  bytecodeHash : String
  /-- The entropy of the code in bits for each byte. -/
  entropyBits : Float
  /-- The known functions found. -/
  signatures : List String
  /-- The names of the first instructions. -/
  opcodeTrace : List String
  /-- The length of the code in bytes. -/
  bytecodeSize : Nat

namespace Report

/-- Whether a flag was raised. -/
def hasFlag (report : Report) (flag : Flag) : Bool := report.flags.contains flag

/-- The names of the flags raised. -/
def flagNames (report : Report) : List String := report.flags.map Flag.name

end Report

/-- The report on the code of a contract. -/
def analyze (address : Address) (code : List UInt8) (settings : Settings) : Report :=
  let raised := (checks code settings).filter Check.applies
  { address
    riskScore := score raised.length settings.flagPenalty
    flags := raised.map Check.flag
    evidence := raised.map Check.evidence
    bytecodeHash := Hex.marked (Keccak.hash code)
    entropyBits := entropy code
    signatures := Selector.signaturesIn (Hex.encode code)
    opcodeTrace := ((Instruction.read code).take settings.opcodeTraceLimit).map Instruction.mnemonic
    bytecodeSize := code.length }

end TokenAudit.Code
