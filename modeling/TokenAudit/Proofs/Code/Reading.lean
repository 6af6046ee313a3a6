import Mathlib.Data.List.Chain
import TokenAudit.Code.Instruction

/-! # Code and its instructions

Every code has one reading. Its instructions put together again are the code, they stand one behind
the other from the start on, and each has all the data that its opcode asks for, but for the last
one, whose data ends with the code. No other instructions are like that: where an instruction starts
is settled by the opcode and the place of the one before it.

* `Instruction.Spells` — whether instructions are a reading of a code, and `spells_cons_iff`, one
  instruction at a time;
* `Instruction.spells_readFrom` — what is read is a reading;
* `Instruction.eq_readFrom_of_spells` — there is no other one.

Main statement: `eq_read_iff`. -/

namespace TokenAudit.Instruction

/-- Whether instructions are a reading of a code that has `offset` bytes before it. -/
structure Spells (offset : Nat) (code : List UInt8) (instructions : List Instruction) : Prop where
  /-- Put together again they are the code. -/
  bytes : instructions.flatMap bytes = code
  /-- The first one stands at the start. -/
  first : ∀ i ∈ instructions.head?, i.offset = offset
  /-- Each other one stands behind the data of the one before it. -/
  next : instructions.IsChain fun i j => j.offset = i.offset + 1 + i.immediate.length
  /-- All but the last one have all their data. -/
  whole : ∀ i ∈ instructions.dropLast, i.immediate.length = Opcode.immediateWidth i.opcode
  /-- The last one has no more than that. -/
  last : ∀ i ∈ instructions.getLast?, i.immediate.length ≤ Opcode.immediateWidth i.opcode

/-- No instructions spell no bytes, and no others do. -/
theorem spells_nil_iff {offset : Nat} {code : List UInt8} : Spells offset code [] ↔ code = [] := by
  constructor
  · intro h
    exact h.bytes.symm
  · rintro rfl
    exact ⟨rfl, by simp, by simp, by simp, by simp⟩

/-- A reading starts with an instruction, whose data is all there if others come after it, and goes
on with a reading of what is left. -/
theorem spells_cons_iff {offset : Nat} {code : List UInt8} {i : Instruction}
    {rest : List Instruction} :
    Spells offset code (i :: rest) ↔
      i.offset = offset ∧ i.immediate.length ≤ Opcode.immediateWidth i.opcode ∧
        (rest ≠ [] → i.immediate.length = Opcode.immediateWidth i.opcode) ∧
        ∃ more, code = i.bytes ++ more ∧ Spells (offset + 1 + i.immediate.length) more rest := by
  cases rest with
  | nil =>
    -- the last instruction: its data may be cut short
    constructor
    · intro h
      refine ⟨h.first i rfl, h.last i rfl, fun hne => absurd rfl hne, [], ?_, spells_nil_iff.2 rfl⟩
      rw [← h.bytes, List.flatMap_cons, List.flatMap_nil]
    · rintro ⟨hoffset, hlast, -, more, rfl, hmore⟩
      rw [spells_nil_iff.1 hmore]
      exact ⟨by simp, by simpa using hoffset, by simp, by simp, by simpa using hlast⟩
  | cons j rest =>
    -- another one follows, so the data are whole and it starts right behind them
    constructor
    · intro h
      have hchain := List.isChain_cons_cons.1 h.next
      have hwhole := h.whole i (by simp)
      refine ⟨h.first i rfl, Nat.le_of_eq hwhole, fun _ => hwhole,
        (j :: rest).flatMap bytes, ?_, rfl, ?_, hchain.2, fun k hk => h.whole k ?_,
        fun k hk => h.last k ?_⟩
      · rw [← h.bytes, List.flatMap_cons]
      · intro k hk
        cases hk
        rw [hchain.1, h.first i rfl]
      · rw [List.dropLast_cons_of_ne_nil (List.cons_ne_nil j rest)]
        exact List.mem_cons_of_mem i hk
      · rwa [List.getLast?_cons_cons]
    · rintro ⟨hoffset, -, hwhole, more, rfl, h⟩
      refine ⟨?_, ?_, List.isChain_cons_cons.2 ⟨?_, h.next⟩, ?_, fun k hk => h.last k ?_⟩
      · rw [List.flatMap_cons, h.bytes]
      · intro k hk
        cases hk
        exact hoffset
      · rw [h.first j rfl, hoffset]
      · rw [List.dropLast_cons_of_ne_nil (List.cons_ne_nil j rest), List.forall_mem_cons]
        exact ⟨hwhole (List.cons_ne_nil j rest), h.whole⟩
      · rwa [List.getLast?_cons_cons] at hk

/-- What is read is a reading. -/
theorem spells_readFrom (offset : Nat) (code : List UInt8) :
    Spells offset code (readFrom offset code) := by
  induction offset, code using readFrom.induct with
  | case1 offset =>
    rw [readFrom_nil]
    exact spells_nil_iff.2 rfl
  | case2 offset opcode rest width ih =>
    rw [readFrom_cons, spells_cons_iff]
    refine ⟨rfl, List.length_take_le .., ?_, rest.drop width, ?_, ?_⟩
    · -- there are further instructions only if there are bytes behind the data
      intro hmore
      have hlong : width < rest.length := by
        by_contra hshort
        rw [List.drop_eq_nil_of_le (Nat.not_lt.1 hshort), readFrom_nil] at hmore
        exact hmore rfl
      exact List.length_take_of_le (Nat.le_of_lt hlong)
    · show opcode :: rest = opcode :: (rest.take width ++ rest.drop width)
      rw [List.take_append_drop]
    · show Spells (offset + 1 + (rest.take width).length) _ _
      by_cases hlong : width ≤ rest.length
      · rw [List.length_take_of_le hlong]
        exact ih
      · -- the code ends in the data, and nothing is left to be read
        rw [List.drop_eq_nil_of_le (Nat.le_of_not_le hlong), readFrom_nil]
        exact spells_nil_iff.2 rfl

/-- There is no other reading. -/
theorem eq_readFrom_of_spells {offset : Nat} {code : List UInt8} {instructions : List Instruction}
    (h : Spells offset code instructions) : instructions = readFrom offset code := by
  induction instructions generalizing offset code with
  | nil => rw [spells_nil_iff.1 h, readFrom_nil]
  | cons i rest ih =>
    obtain ⟨rfl, hatMost, hwhole, more, rfl, hmore⟩ := spells_cons_iff.1 h
    show i :: rest = readFrom i.offset (i.opcode :: (i.immediate ++ more))
    rw [readFrom_cons, ih hmore]
    cases rest with
    | nil =>
      rw [spells_nil_iff.1 hmore, List.append_nil, List.take_of_length_le hatMost,
        List.drop_eq_nil_of_le hatMost, readFrom_nil, readFrom_nil]
    | cons j rest =>
      rw [← hwhole (List.cons_ne_nil j rest), List.take_left, List.drop_left]

/-- **Reading loses nothing and leaves no choice.** Of all lists of instructions the one that is
read from a code is the one that gives the code back when its opcodes and their data are put
together again, in which the first instruction stands at the start and each other one right behind
the data of the one before it, and in which `PUSH1` to `PUSH32` have as many bytes of data as their
names say, all others none, and only the last instruction can have fewer. -/
theorem eq_read_iff (code : List UInt8) (instructions : List Instruction) :
    instructions = read code ↔
      instructions.flatMap (fun i => i.opcode :: i.immediate) = code ∧
      (∀ i ∈ instructions.head?, i.offset = 0) ∧
      instructions.IsChain (fun i j => j.offset = i.offset + 1 + i.immediate.length) ∧
      (∀ i ∈ instructions.dropLast, i.immediate.length =
        if 0x60 ≤ i.opcode.toNat ∧ i.opcode.toNat ≤ 0x7F then i.opcode.toNat - 0x5F else 0) ∧
      ∀ i ∈ instructions.getLast?, i.immediate.length ≤
        if 0x60 ≤ i.opcode.toNat ∧ i.opcode.toNat ≤ 0x7F then i.opcode.toNat - 0x5F else 0 := by
  constructor
  · rintro rfl
    have h := spells_readFrom 0 code
    exact ⟨h.bytes, h.first, h.next, h.whole, h.last⟩
  · rintro ⟨hbytes, hfirst, hnext, hwhole, hlast⟩
    exact eq_readFrom_of_spells ⟨hbytes, hfirst, hnext, hwhole, hlast⟩

/-- A `PUSH2` whose second byte is missing, behind a `PUSH1` whose data is an opcode. -/
example : read [0x60, 0xF4, 0x61, 0x00] = [⟨0, 0x60, [0xF4]⟩, ⟨2, 0x61, [0x00]⟩] := by
  cbv

end TokenAudit.Instruction
