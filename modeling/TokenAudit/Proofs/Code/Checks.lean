import TokenAudit.Code.Report
import TokenAudit.Proofs.Code.Boundaries

/-! # What a report says

A report puts its verdict in four fields, which are filled from one list of checks and so say the
same: each flag comes with its evidence, in the order of the checks, and costs the same number of
points. What raises a flag is a property of the code alone.

* `Flag.Raised`, `Flag.evidence` — what a flag says about a code, and the line that goes with it;
* `mem_checks`, `map_flag_checks` — there is one check for each flag, and it applies if the flag is
  raised;
* `mem_flags_iff`, `evidence_analyze` — a report has the flags that are raised, each with its
  evidence;
* `mem_signatures_iff` — a function is reported if its selector is found;
* `Report.Coherent` — the fields of a report say the same.

Main statement: `analyze_coherent`. -/

namespace TokenAudit.Code

variable {address : Address} {code : List UInt8} {settings : Settings}

/-! ## Flags -/

/-- What a flag says about a code. -/
def Flag.Raised (code : List UInt8) (settings : Settings) : Flag → Prop
  | .proxyDetected => Stands code Opcode.delegatecall
  | .contractFactoryDetected => Stands code Opcode.create ∨ Stands code Opcode.create2
  | .deprecatedCallcodeUsed => Stands code Opcode.callcode
  | .nonstandardTransfer => ¬ Selector.transfer.isIn (Hex.encode code)
  | .obfuscatedCode => settings.entropyThreshold < entropy code

/-- The line of evidence that goes with a flag, for code of some entropy. -/
def Flag.evidence (entropyBits : Float) : Flag → String
  | .proxyDetected => "DELEGATECALL instruction found in bytecode"
  | .contractFactoryDetected => "CREATE/CREATE2 instruction found (contract factory behavior)"
  | .deprecatedCallcodeUsed => "CALLCODE is deprecated and unsafe"
  | .nonstandardTransfer => "Missing ERC20 transfer(address,uint256) selector"
  | .obfuscatedCode =>
    "Bytecode entropy is high (" ++ (Decimal.fixed 2 entropyBits).getD "" ++ "), may be obfuscated"

/-- An opcode is used by the instructions of a code exactly if it stands where one begins. -/
theorem uses_read_iff {opcode : UInt8} :
    uses (Instruction.read code) opcode = true ↔ Stands code opcode := by
  simp [uses, stands_iff]

/-- There is one check for each flag. -/
theorem map_flag_checks : (checks code settings).map Check.flag = Flag.all := rfl

/-- A check applies if its flag is raised, and has the evidence that goes with it. -/
theorem mem_checks {check : Check} (h : check ∈ checks code settings) :
    (check.applies = true ↔ check.flag.Raised code settings) ∧
      check.evidence = check.flag.evidence (entropy code) := by
  simp only [checks, List.mem_cons, List.not_mem_nil, or_false] at h
  rcases h with rfl | rfl | rfl | rfl | rfl
  · exact ⟨uses_read_iff, rfl⟩
  · refine ⟨?_, rfl⟩
    rw [Bool.or_eq_true, uses_read_iff, uses_read_iff, Flag.Raised]
  · exact ⟨uses_read_iff, rfl⟩
  · refine ⟨?_, rfl⟩
    rw [Bool.not_eq_true', ← Bool.not_eq_true, Flag.Raised]
  · exact ⟨decide_eq_true_iff, rfl⟩

/-- **A report has the flags that are raised.** -/
theorem mem_flags_iff (flag : Flag) :
    flag ∈ (analyze address code settings).flags ↔ flag.Raised code settings := by
  show flag ∈ ((checks code settings).filter Check.applies).map Check.flag ↔ _
  constructor
  · intro h
    obtain ⟨check, hcheck, rfl⟩ := List.mem_map.1 h
    obtain ⟨hmem, happlies⟩ := List.mem_filter.1 hcheck
    exact (mem_checks hmem).1.1 happlies
  · intro hraised
    -- every flag has its check
    have hall : flag ∈ (checks code settings).map Check.flag := by
      rw [map_flag_checks]
      cases flag <;> decide
    obtain ⟨check, hmem, rfl⟩ := List.mem_map.1 hall
    exact List.mem_map_of_mem (List.mem_filter.2 ⟨hmem, (mem_checks hmem).1.2 hraised⟩)

/-- The checks of a code raise the flags in order, each at most once. -/
theorem flags_sublist (address : Address) (code : List UInt8) (settings : Settings) :
    (analyze address code settings).flags.Sublist Flag.all :=
  (List.filter_sublist ..).map Check.flag

/-- Each flag comes with its evidence. -/
theorem evidence_analyze : (analyze address code settings).evidence =
    (analyze address code settings).flags.map (Flag.evidence (entropy code)) := by
  show ((checks code settings).filter Check.applies).map Check.evidence =
    (((checks code settings).filter Check.applies).map Check.flag).map
      (Flag.evidence (entropy code))
  rw [List.map_map]
  refine List.map_congr_left fun check hcheck => ?_
  exact (mem_checks (List.mem_filter.1 hcheck).1).2

/-- The points left of a hundred, as an exact difference that is cut off at zero. -/
theorem score_eq_max (flags penalty : Nat) :
    (score flags penalty : Int) = max 0 (100 - penalty * flags) := by
  rw [score, Nat.mul_comm]
  omega

/-! ## Functions -/

/-- No two functions that are looked for have the same name. -/
theorem eq_of_signature_eq :
    ∀ s ∈ Selector.known, ∀ t ∈ Selector.known, s.signature = t.signature → s = t := by
  decide

/-- A function is reported if its selector is found. -/
theorem mem_signatures_iff {s : Selector} (h : s ∈ Selector.known) :
    s.signature ∈ (analyze address code settings).signatures ↔ s.isIn (Hex.encode code) := by
  show s.signature ∈
    (Selector.known.filter (Selector.isIn (Hex.encode code))).map Selector.signature ↔ _
  constructor
  · intro hmem
    obtain ⟨t, ht, heq⟩ := List.mem_map.1 hmem
    obtain ⟨hknown, hfound⟩ := List.mem_filter.1 ht
    rwa [← eq_of_signature_eq t hknown s h heq]
  · intro hfound
    exact List.mem_map_of_mem (List.mem_filter.2 ⟨h, hfound⟩)

/-! ## The report as a whole -/

/-- Whether the fields of a report on a code say the same. -/
structure Report.Coherent (code : List UInt8) (settings : Settings) (report : Report) : Prop where
  /-- The flag of proxies stands for a `DELEGATECALL` where an instruction starts. -/
  proxy_iff : .proxyDetected ∈ report.flags ↔ Stands code 0xF4
  /-- The flag of factories stands for a `CREATE` or `CREATE2` where an instruction starts. -/
  factory_iff : .contractFactoryDetected ∈ report.flags ↔ Stands code 0xF0 ∨ Stands code 0xF5
  /-- The third flag stands for a `CALLCODE` where an instruction starts. -/
  callcode_iff : .deprecatedCallcodeUsed ∈ report.flags ↔ Stands code 0xF2
  /-- The fourth flag stands for the function that moves tokens not being reported. -/
  transfer_iff : .nonstandardTransfer ∈ report.flags ↔
    "transfer(address,uint256)" ∉ report.signatures
  /-- The last flag stands for more entropy than the settings allow. -/
  obfuscated_iff : .obfuscatedCode ∈ report.flags ↔ settings.entropyThreshold < report.entropyBits
  /-- No flag is raised twice. -/
  nodup : report.flags.Nodup
  /-- The flags come in order. -/
  inOrder : report.flags.Sublist
    [.proxyDetected, .contractFactoryDetected, .deprecatedCallcodeUsed, .nonstandardTransfer,
      .obfuscatedCode]
  /-- There are as many lines of evidence as flags. -/
  length_evidence : report.evidence.length = report.flags.length
  /-- Each line of evidence is that of the flag at its place. -/
  evidence_eq : report.evidence = report.flags.map (Flag.evidence report.entropyBits)
  /-- The points are those left of a hundred, and none if the flags cost more. -/
  score_eq : (report.riskScore : Int) = max 0 (100 - settings.flagPenalty * report.flags.length)
  /-- As many instructions are named as there are, up to the limit. -/
  length_trace : report.opcodeTrace.length =
    min settings.opcodeTraceLimit (Instruction.read code).length
  /-- They are the first ones. -/
  trace_prefix : report.opcodeTrace <+: (Instruction.read code).map Instruction.mnemonic

/-- **A report is coherent, and its flags speak of instructions only.** The flags of a report are
those whose conditions hold, with one line of evidence each, and the score counts them. An
instruction starts where the one before it ends, never in the data of a `PUSH`, and how many
instructions the report names has no influence on the flags. -/
theorem analyze_coherent (address : Address) (code : List UInt8) (settings : Settings) :
    (analyze address code settings).Coherent code settings ∧
      (∀ place opcode, Boundary code place → code[place]? = some opcode →
        ∀ byte, place < byte → byte ≤ place + Opcode.immediateWidth opcode → ¬ Boundary code byte) ∧
      ∀ limit, (analyze address code { settings with opcodeTraceLimit := limit }).flags =
        (analyze address code settings).flags := by
  refine ⟨?_, ?_, fun limit => rfl⟩
  · have hflags := flags_sublist address code settings
    refine
      { proxy_iff := mem_flags_iff .proxyDetected
        factory_iff := mem_flags_iff .contractFactoryDetected
        callcode_iff := mem_flags_iff .deprecatedCallcodeUsed
        transfer_iff := ?_
        obfuscated_iff := mem_flags_iff .obfuscatedCode
        nodup := hflags.nodup (by decide)
        inOrder := hflags
        length_evidence := ?_
        evidence_eq := evidence_analyze
        score_eq := ?_
        length_trace := ?_
        trace_prefix := ?_ }
    · -- whether the function is reported goes by the same search as the flag
      have htransfer : Selector.transfer ∈ Selector.known := List.mem_cons_self
      exact (mem_flags_iff .nonstandardTransfer).trans
        (not_congr (mem_signatures_iff htransfer)).symm
    · rw [evidence_analyze, List.length_map]
    · show (score ((checks code settings).filter Check.applies).length settings.flagPenalty : Int) =
        _
      rw [score_eq_max, analyze, List.length_map]
    · show (((Instruction.read code).take _).map _).length = _
      rw [List.length_map, List.length_take]
    · exact (List.take_prefix ..).map Instruction.mnemonic
  · -- the next instruction starts behind the data
    intro place opcode hplace hopcode byte hlt hle hbyte
    have hbehind := hplace.behind hopcode hbyte hlt
    omega

end TokenAudit.Code
