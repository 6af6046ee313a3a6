import TokenAudit.Code.Opcode

/-! # Instructions

Code is read front to back. Each instruction takes its own byte and the data bytes that its opcode
asks for; only at the end of the code it has to do with fewer. So data is never taken for an
instruction, and every code, however ill-formed, is read to its end.

* `Instruction` — an opcode with its data and its place;
* `Instruction.read` — the instructions of a code. -/

namespace TokenAudit

/-- One instruction of a code. -/
structure Instruction where
  /-- How many bytes of the code stand before it. -/
  offset : Nat
  /-- The byte that names it. -/
  opcode : UInt8
  /-- Its data: fewer bytes than the opcode asks for where the code ends early. -/
  immediate : List UInt8
  deriving DecidableEq, Repr

namespace Instruction

/-- The name of the instruction. -/
def mnemonic (i : Instruction) : String := Opcode.mnemonic i.opcode

/-- The bytes of the code that the instruction takes. -/
def bytes (i : Instruction) : List UInt8 := i.opcode :: i.immediate

/-- Reads code whose first byte has `offset` bytes before it. -/
def readFrom (offset : Nat) : List UInt8 → List Instruction
  | [] => []
  | opcode :: rest =>
    let width := Opcode.immediateWidth opcode
    ⟨offset, opcode, rest.take width⟩ :: readFrom (offset + 1 + width) (rest.drop width)
termination_by code => code.length
decreasing_by simp only [List.length_drop, List.length_cons]; omega

/-- Where there are no bytes, there are no instructions. -/
@[simp] theorem readFrom_nil (offset : Nat) : readFrom offset [] = [] := by
  rw [readFrom]

/-- An instruction takes its opcode and the bytes behind it that belong to it, and reading goes on
with the rest. -/
theorem readFrom_cons (offset : Nat) (opcode : UInt8) (rest : List UInt8) :
    readFrom offset (opcode :: rest) =
      ⟨offset, opcode, rest.take (Opcode.immediateWidth opcode)⟩ ::
        readFrom (offset + 1 + Opcode.immediateWidth opcode)
          (rest.drop (Opcode.immediateWidth opcode)) := by
  rw [readFrom]

/-- The instructions of a code. -/
def read (code : List UInt8) : List Instruction := readFrom 0 code

end Instruction

end TokenAudit
