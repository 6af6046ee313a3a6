import TokenAudit.Code.Instruction

/-! # Where instructions start

A place of a code is a **boundary** if the instructions before it end there: the start is one, and
from each boundary the next lies behind the data of the instruction that starts there. Which bytes
are opcodes and which are data is settled by that alone, without the list of instructions.

* `Boundary`, `Stands` — the places where instructions start, and the opcodes found there;
* `boundary_cons_iff` — the boundaries of a code, one instruction at a time;
* `exists_mem_read_iff` — they are the places of the instructions that are read;
* `Boundary.behind` — there is none in the data of an instruction;
* `Stands.append` — an opcode stays one when the code goes on. -/

namespace TokenAudit.Code

/-- Whether an instruction of a code can start at a place. -/
inductive Boundary (code : List UInt8) : Nat → Prop
  /-- The first one starts at the start. -/
  | start : Boundary code 0
  /-- Each other one starts behind the data of the one before it. -/
  | next {place : Nat} {opcode : UInt8} (h : Boundary code place)
    (hopcode : code[place]? = some opcode) :
      Boundary code (place + 1 + Opcode.immediateWidth opcode)

/-- Whether an opcode stands in a code at the start of an instruction. -/
def Stands (code : List UInt8) (opcode : UInt8) : Prop :=
  ∃ place, Boundary code place ∧ code[place]? = some opcode

variable {code rest more : List UInt8} {opcode found : UInt8} {place : Nat}

/-! ## One instruction at a time -/

/-- Behind an opcode and its immediate bytes a code goes on with the rest. -/
theorem getElem?_behind (opcode : UInt8) (width : Nat) :
    (opcode :: rest)[1 + width + place]? = (rest.drop width)[place]? := by
  rw [Nat.add_assoc, Nat.add_comm 1, List.getElem?_cons_succ, List.getElem?_drop]

/-- The boundaries of a code are its start and, behind its first instruction, those of what is
left. -/
theorem boundary_cons_iff :
    Boundary (opcode :: rest) place ↔
      place = 0 ∨ ∃ left, Boundary (rest.drop (Opcode.immediateWidth opcode)) left ∧
        place = 1 + Opcode.immediateWidth opcode + left := by
  constructor
  · intro h
    induction h with
    | start => exact .inl rfl
    | next h hopcode ih =>
      refine .inr ?_
      rcases ih with rfl | ⟨left, hleft, rfl⟩
      · -- behind the first instruction what is left begins
        cases hopcode
        exact ⟨0, .start, by omega⟩
      · rw [getElem?_behind] at hopcode
        exact ⟨_, .next hleft hopcode, by omega⟩
  · rintro (rfl | ⟨left, h, rfl⟩)
    · exact .start
    · -- the boundaries of what is left are reached in the same steps
      induction h with
      | start =>
        have hsecond : Boundary (opcode :: rest) (0 + 1 + Opcode.immediateWidth opcode) :=
          .next .start rfl
        rwa [Nat.zero_add] at hsecond
      | next h hopcode ih =>
        rw [← getElem?_behind opcode] at hopcode
        have hnext := Boundary.next ih hopcode
        rwa [Nat.add_assoc, Nat.add_assoc, ← Nat.add_assoc _ 1] at hnext

/-- An instruction that is read starts at a boundary, with its opcode. -/
theorem boundary_of_mem_readFrom {offset : Nat} {i : Instruction}
    (h : i ∈ Instruction.readFrom offset code) :
    ∃ place, i.offset = offset + place ∧ Boundary code place ∧ code[place]? = some i.opcode := by
  induction offset, code using Instruction.readFrom.induct with
  | case1 offset =>
    rw [Instruction.readFrom_nil] at h
    cases h
  | case2 offset opcode rest width ih =>
    rw [Instruction.readFrom_cons, List.mem_cons] at h
    rcases h with rfl | h
    · exact ⟨0, rfl, .start, rfl⟩
    · obtain ⟨left, hoffset, hleft, hopcode⟩ := ih h
      refine ⟨1 + width + left, by omega, boundary_cons_iff.2 (.inr ⟨left, hleft, rfl⟩), ?_⟩
      rwa [getElem?_behind]

/-- At each boundary but the end of the code an instruction is read. -/
theorem exists_mem_readFrom (offset place : Nat) (h : Boundary code place)
    (hfound : code[place]? = some found) :
    ∃ i ∈ Instruction.readFrom offset code, i.offset = offset + place ∧ i.opcode = found := by
  induction offset, code using Instruction.readFrom.induct generalizing place with
  | case1 offset => cases hfound
  | case2 offset opcode rest width ih =>
    rw [Instruction.readFrom_cons]
    rcases boundary_cons_iff.1 h with rfl | ⟨left, hleft, rfl⟩
    · cases hfound
      exact ⟨_, List.mem_cons_self, rfl, rfl⟩
    · rw [getElem?_behind] at hfound
      obtain ⟨i, hi, hoffset, hopcode⟩ := ih left hleft hfound
      exact ⟨i, List.mem_cons_of_mem _ hi, by omega, hopcode⟩

/-- **The boundaries are the places of the instructions that are read**, and the bytes found there
their opcodes. -/
theorem exists_mem_read_iff :
    (∃ i ∈ Instruction.read code, i.offset = place ∧ i.opcode = found) ↔
      Boundary code place ∧ code[place]? = some found := by
  constructor
  · rintro ⟨i, hi, rfl, rfl⟩
    obtain ⟨place, hoffset, h⟩ := boundary_of_mem_readFrom hi
    rwa [hoffset, Nat.zero_add]
  · rintro ⟨h, hfound⟩
    obtain ⟨i, hi, hoffset, hopcode⟩ := exists_mem_readFrom 0 place h hfound
    exact ⟨i, hi, by rw [hoffset, Nat.zero_add], hopcode⟩

/-- An opcode stands in a code if an instruction that is read has it. -/
theorem stands_iff : Stands code opcode ↔ ∃ i ∈ Instruction.read code, i.opcode = opcode := by
  constructor
  · rintro ⟨place, h⟩
    obtain ⟨i, hi, -, hopcode⟩ := exists_mem_read_iff.2 h
    exact ⟨i, hi, hopcode⟩
  · rintro ⟨i, hi, rfl⟩
    exact ⟨i.offset, exists_mem_read_iff.1 ⟨i, hi, rfl, rfl⟩⟩

/-! ## Data -/

/-- **No instruction starts in the data of another.** -/
theorem Boundary.behind {later : Nat} (h : Boundary code place)
    (hopcode : code[place]? = some opcode) (hlater : Boundary code later) (hlt : place < later) :
    place + 1 + Opcode.immediateWidth opcode ≤ later := by
  -- what is left behind an instruction has lost its data too, so the induction is on the length
  induction hlength : code.length using Nat.strongRecOn generalizing code place later with
  | ind n ih =>
    cases code with
    | nil => cases hopcode
    | cons first rest =>
      -- the later place is behind the first instruction
      obtain ⟨left, hleft, rfl⟩ := (boundary_cons_iff.1 hlater).resolve_left (by omega)
      rcases boundary_cons_iff.1 h with rfl | ⟨before, hbefore, rfl⟩
      · cases hopcode
        omega
      · rw [getElem?_behind] at hopcode
        have hshorter : (rest.drop (Opcode.immediateWidth first)).length < n := by
          rw [List.length_drop, ← hlength, List.length_cons]
          omega
        have hle := ih _ hshorter hbefore hopcode hleft (by omega) rfl
        omega

/-! ## Longer code -/

/-- A byte stands in its place, whatever is appended. -/
theorem getElem?_append_of_eq_some (h : code[place]? = some found) :
    (code ++ more)[place]? = some found := by
  obtain ⟨hlt, -⟩ := List.getElem?_eq_some_iff.1 h
  rw [List.getElem?_append_left hlt, h]

/-- An instruction begins where it began, whatever is appended. -/
theorem Boundary.append (h : Boundary code place) : Boundary (code ++ more) place := by
  induction h with
  | start => exact .start
  | next h hopcode ih => exact .next ih (getElem?_append_of_eq_some hopcode)

/-- **An opcode stays one when the code goes on.** -/
theorem Stands.append (h : Stands code opcode) : Stands (code ++ more) opcode := by
  obtain ⟨place, hplace, hopcode⟩ := h
  exact ⟨place, hplace.append, getElem?_append_of_eq_some hopcode⟩

end TokenAudit.Code
