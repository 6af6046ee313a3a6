import Mathlib.Data.List.Infix
import TokenAudit.Proofs.Code.Checks

/-! # Code that goes on

When bytes are put behind a code, its instructions stay: only the last one can change, if the code
ended in its data, and then only by getting more of it. So what a report finds in a code it also
finds in every code that begins with it: nothing that is put behind a code can hide one of its
instructions or functions.

* `Instruction.GoesOn` — whether instructions go on as others, with `GoesOn.getElem?` and
  `GoesOn.mnemonics`;
* `Instruction.readFrom_append` — the instructions of a code go on as those of every code that
  begins with it.

Main statement: `analyze_append`. -/

namespace TokenAudit

namespace Instruction

variable {instructions longer : List Instruction}

/-- Whether instructions are the first of others, but for data that the last one lacks. -/
inductive GoesOn : List Instruction → List Instruction → Prop
  /-- There are none yet. -/
  | nil (longer : List Instruction) : GoesOn [] longer
  /-- An instruction that has all its data stays as it is. -/
  | cons (i : Instruction) {rest longer : List Instruction} (h : GoesOn rest longer) :
      GoesOn (i :: rest) (i :: longer)
  /-- The last one gets more of the data that it lacks. -/
  | more {i : Instruction} {data : List UInt8} {longer : List Instruction}
    (hlacks : i.immediate.length < Opcode.immediateWidth i.opcode) (hdata : i.immediate <+: data) :
      GoesOn [i] ({ i with immediate := data } :: longer)

/-- Each instruction has its place and its opcode still, and its data too unless it is the last one
and lacks some. -/
theorem GoesOn.getElem? (h : GoesOn instructions longer) {k : Nat} {i : Instruction}
    (hi : instructions[k]? = some i) :
    ∃ j, longer[k]? = some j ∧ j.offset = i.offset ∧ j.opcode = i.opcode ∧
      (j.immediate = i.immediate ∨ k + 1 = instructions.length ∧
        i.immediate.length < Opcode.immediateWidth i.opcode ∧ i.immediate <+: j.immediate) := by
  induction h generalizing k with
  | nil => cases hi
  | cons first h ih =>
    cases k with
    | zero =>
      cases hi
      exact ⟨_, rfl, rfl, rfl, .inl rfl⟩
    | succ k =>
      obtain ⟨j, hj, hoffset, hopcode, hdata⟩ := ih hi
      -- the last of the rest is the last of all
      refine ⟨j, hj, hoffset, hopcode, hdata.imp_right fun hlast => ⟨?_, hlast.2⟩⟩
      rw [hlast.1, List.length_cons]
  | more hlacks hdata =>
    cases k with
    | zero =>
      cases hi
      exact ⟨_, rfl, rfl, rfl, .inr ⟨rfl, hlacks, hdata⟩⟩
    | succ k => cases hi

/-- The names of instructions do not tell how much data they have. -/
theorem GoesOn.mnemonics (h : GoesOn instructions longer) :
    instructions.map mnemonic <+: longer.map mnemonic := by
  induction h with
  | nil => exact List.nil_prefix
  | cons first h ih => exact List.cons_prefix_cons.2 ⟨rfl, ih⟩
  | more hlacks hdata => exact List.cons_prefix_cons.2 ⟨rfl, List.nil_prefix⟩

/-- **The instructions of a code go on as those of every code that begins with it.** -/
theorem readFrom_append (offset : Nat) (code more : List UInt8) :
    GoesOn (readFrom offset code) (readFrom offset (code ++ more)) := by
  induction offset, code using readFrom.induct with
  | case1 offset =>
    rw [readFrom_nil]
    exact .nil _
  | case2 offset opcode rest width ih =>
    rw [List.cons_append, readFrom_cons, readFrom_cons]
    by_cases hwhole : width ≤ rest.length
    · -- the data is all there, and what comes behind it goes on
      rw [List.take_append_of_le_length hwhole, List.drop_append_of_le_length hwhole]
      exact .cons _ ih
    · -- the code ends in the data, and the bytes behind it are taken as more of them
      rw [List.drop_eq_nil_of_le (Nat.le_of_not_le hwhole), readFrom_nil,
        List.take_of_length_le (Nat.le_of_not_le hwhole)]
      have hdata : rest <+: (rest ++ more).take width := by
        rw [List.take_append, List.take_of_length_le (Nat.le_of_not_le hwhole)]
        exact List.prefix_append ..
      exact .more (Nat.lt_of_not_le hwhole) hdata

/-- The second byte of a `PUSH2` that was cut off is the first one that follows, although it is an
opcode. -/
example : read ([0xF4, 0x61, 0x00] ++ [0xF2, 0x00]) =
    [⟨0, 0xF4, []⟩, ⟨1, 0x61, [0x00, 0xF2]⟩, ⟨4, 0x00, []⟩] := by
  cbv

end Instruction

namespace Code

variable {code more : List UInt8}

/-- A selector that is found in a code is found in every code that begins with it. -/
theorem isIn_append {s : Selector} (h : s.isIn (Hex.encode code)) :
    s.isIn (Hex.encode (code ++ more)) := by
  rw [Selector.isIn, Text.occursIn_iff_infix] at h ⊢
  rw [Hex.encode_append]
  exact h.trans (List.prefix_append ..).isInfix

/-- **What a report finds in a code it finds in every code that begins with it.** The instructions
of the code are the first of the longer code, at the same places and with the same opcodes, and with
the same data but for the last one, which gets more if it lacks some. So the flags that stand for an
instruction stay raised, the flag of a missing transfer function stays down, the functions stay
reported, and the trace goes on. -/
theorem analyze_append (address : Address) (code more : List UInt8) (settings : Settings) :
    (∀ k i, (Instruction.read code)[k]? = some i →
      ∃ j, (Instruction.read (code ++ more))[k]? = some j ∧
        j.offset = i.offset ∧ j.opcode = i.opcode ∧
        (j.immediate = i.immediate ∨ k + 1 = (Instruction.read code).length ∧
          i.immediate.length < Opcode.immediateWidth i.opcode ∧ i.immediate <+: j.immediate)) ∧
    (∀ flag ∈ [Flag.proxyDetected, .contractFactoryDetected, .deprecatedCallcodeUsed],
      flag ∈ (analyze address code settings).flags →
        flag ∈ (analyze address (code ++ more) settings).flags) ∧
    (.nonstandardTransfer ∈ (analyze address (code ++ more) settings).flags →
      .nonstandardTransfer ∈ (analyze address code settings).flags) ∧
    (analyze address code settings).signatures ⊆
      (analyze address (code ++ more) settings).signatures ∧
    (analyze address code settings).opcodeTrace <+:
      (analyze address (code ++ more) settings).opcodeTrace := by
  have hgoesOn := Instruction.readFrom_append 0 code more
  refine ⟨fun k i hi => hgoesOn.getElem? hi, ?_, ?_, ?_, ?_⟩
  · -- where an instruction begins, one begins in the longer code, too
    intro flag hflag
    rw [mem_flags_iff, mem_flags_iff]
    simp only [List.mem_cons, List.not_mem_nil, or_false] at hflag
    rcases hflag with rfl | rfl | rfl
    · exact Stands.append
    · exact Or.imp Stands.append Stands.append
    · exact Stands.append
  · -- a selector that is missing in the longer code is missing in the shorter one
    rw [mem_flags_iff, mem_flags_iff]
    exact mt isIn_append
  · intro signature hsignature
    obtain ⟨s, hs, rfl⟩ := List.mem_map.1 hsignature
    have hknown := (List.mem_filter.1 hs).1
    exact (mem_signatures_iff hknown).2 (isIn_append ((mem_signatures_iff hknown).1 hsignature))
  · -- no mnemonic shows the data, which are all that can be different
    have hmnemonics := List.IsPrefix.take hgoesOn.mnemonics settings.opcodeTraceLimit
    rwa [← List.map_take, ← List.map_take] at hmnemonics

end Code

end TokenAudit
