import TokenAudit.Text.Hex

/-! # Opcodes

The instructions of the virtual machine, each named by one byte.

* `Opcode.mnemonic` — the name of the instruction that a byte stands for;
* `Opcode.immediateWidth` — how many bytes of the code belong to the instruction as its data. -/

namespace TokenAudit.Opcode

/-- Makes a copy of the code run in the place of this contract. -/
def delegatecall : UInt8 := 0xF4

/-- Makes a contract. -/
def create : UInt8 := 0xF0

/-- Makes a contract at an address known in advance. -/
def create2 : UInt8 := 0xF5

/-- Runs foreign code in the place of this contract, in a way that is given up. -/
def callcode : UInt8 := 0xF2

/-- How many data bytes follow the byte of an instruction: the instructions `PUSH1` to `PUSH32` take
as many as their names say, all others none. -/
def immediateWidth (opcode : UInt8) : Nat :=
  if 0x60 ≤ opcode.toNat ∧ opcode.toNat ≤ 0x7F then opcode.toNat - 0x5F else 0

/-- The names of the instructions that form no series. -/
def names : List (Nat × String) :=
  [(0x00, "STOP"), (0x01, "ADD"), (0x02, "MUL"), (0x03, "SUB"), (0x04, "DIV"), (0x05, "SDIV"),
   (0x06, "MOD"), (0x07, "SMOD"), (0x08, "ADDMOD"), (0x09, "MULMOD"), (0x0A, "EXP"),
   (0x0B, "SIGNEXTEND"),
   (0x10, "LT"), (0x11, "GT"), (0x12, "SLT"), (0x13, "SGT"), (0x14, "EQ"), (0x15, "ISZERO"),
   (0x16, "AND"), (0x17, "OR"), (0x18, "XOR"), (0x19, "NOT"), (0x1A, "BYTE"), (0x1B, "SHL"),
   (0x1C, "SHR"), (0x1D, "SAR"),
   (0x20, "KECCAK256"),
   (0x30, "ADDRESS"), (0x31, "BALANCE"), (0x32, "ORIGIN"), (0x33, "CALLER"), (0x34, "CALLVALUE"),
   (0x35, "CALLDATALOAD"), (0x36, "CALLDATASIZE"), (0x37, "CALLDATACOPY"), (0x38, "CODESIZE"),
   (0x39, "CODECOPY"), (0x3A, "GASPRICE"), (0x3B, "EXTCODESIZE"), (0x3C, "EXTCODECOPY"),
   (0x3D, "RETURNDATASIZE"), (0x3E, "RETURNDATACOPY"), (0x3F, "EXTCODEHASH"),
   (0x40, "BLOCKHASH"), (0x41, "COINBASE"), (0x42, "TIMESTAMP"), (0x43, "NUMBER"),
   (0x44, "DIFFICULTY"), (0x45, "GASLIMIT"), (0x46, "CHAINID"), (0x47, "SELFBALANCE"),
   (0x48, "BASEFEE"), (0x49, "BLOBHASH"), (0x4A, "BLOBBASEFEE"),
   (0x50, "POP"), (0x51, "MLOAD"), (0x52, "MSTORE"), (0x53, "MSTORE8"), (0x54, "SLOAD"),
   (0x55, "SSTORE"), (0x56, "JUMP"), (0x57, "JUMPI"), (0x58, "PC"), (0x59, "MSIZE"), (0x5A, "GAS"),
   (0x5B, "JUMPDEST"), (0x5C, "TLOAD"), (0x5D, "TSTORE"), (0x5E, "MCOPY"),
   (0xD0, "DATALOAD"), (0xD1, "DATALOADN"), (0xD2, "DATASIZE"), (0xD3, "DATACOPY"),
   (0xE0, "RJUMP"), (0xE1, "RJUMPI"), (0xE2, "RJUMPV"), (0xE3, "CALLF"), (0xE4, "RETF"),
   (0xE5, "JUMPF"), (0xE6, "DUPN"), (0xE7, "SWAPN"), (0xE8, "EXCHANGE"), (0xEC, "EOFCREATE"),
   (0xEE, "RETURNCONTRACT"),
   (0xF0, "CREATE"), (0xF1, "CALL"), (0xF2, "CALLCODE"), (0xF3, "RETURN"), (0xF4, "DELEGATECALL"),
   (0xF5, "CREATE2"), (0xF7, "RETURNDATALOAD"), (0xF8, "EXTCALL"), (0xF9, "EXTDELEGATECALL"),
   (0xFA, "STATICCALL"), (0xFB, "EXTSTATICCALL"), (0xFD, "REVERT"), (0xFE, "INVALID"),
   (0xFF, "SELFDESTRUCT")]

/-- The name of an instruction. A byte that stands for none is shown as its number. -/
def mnemonic (opcode : UInt8) : String :=
  let n := opcode.toNat
  if 0x5F ≤ n ∧ n ≤ 0x7F then "PUSH" ++ toString (n - 0x5F)
  else if 0x80 ≤ n ∧ n ≤ 0x8F then "DUP" ++ toString (n - 0x7F)
  else if 0x90 ≤ n ∧ n ≤ 0x9F then "SWAP" ++ toString (n - 0x8F)
  else if 0xA0 ≤ n ∧ n ≤ 0xA4 then "LOG" ++ toString (n - 0xA0)
  else (names.lookup n).getD ("UNKNOWN_0x" ++ Hex.text [opcode])

end TokenAudit.Opcode
