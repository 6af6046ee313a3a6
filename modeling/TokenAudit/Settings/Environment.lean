import TokenAudit.Decimal.Literal
import TokenAudit.Fault
import TokenAudit.Settings
import TokenAudit.Text.Blank
import TokenAudit.Text.Lowercase
import TokenAudit.Text.Numeral

/-! # Settings from the environment

Every setting can be given by a variable of the environment; a variable that is missing or blank
leaves the usual value. The settings as a whole then have to pass a validation.

* `Environment` — the variables;
* `Settings.validate` — what makes settings unusable;
* `Settings.ofEnvironment` — the settings, or the first flaw. -/

namespace TokenAudit

/-- The variables of the environment with their values. -/
abbrev Environment := List (String × String)

/-- The variables that anything can be given by. -/
def Environment.known : List String :=
  ["ETH_RPC_URL", "ETH_RPC_FALLBACK_URL", "ALCHEMY_API_KEY", "COMPLIANCE_ENTROPY_THRESHOLD",
   "COMPLIANCE_FLAG_PENALTY", "COMPLIANCE_OPCODE_TRACE_LIMIT", "COMPLIANCE_LOOKBACK_BLOCKS",
   "COMPLIANCE_CHUNK_SIZE", "COMPLIANCE_CHUNK_PACING_MS", "COMPLIANCE_CALL_TIMEOUT_SECS",
   "COMPLIANCE_CHUNK_RETRIES", "COMPLIANCE_MAX_CONCURRENT_CHUNKS", "COMPLIANCE_TOP_N",
   "COMPLIANCE_WHALE_THRESHOLD_PCT", "COMPLIANCE_MAJORITY_THRESHOLD_PCT",
   "COMPLIANCE_LOW_DISTRIBUTION_FLOOR", "COMPLIANCE_LINK_POLICY", "COMPLIANCE_NO_GO_BELOW",
   "COMPLIANCE_EDD_BELOW", "COMPLIANCE_RPC_RETRIES"]

/-- A text without the blanks at its ends. -/
def trimmed (text : String) : String := String.ofList (Text.trim text.toList)

/-- The value of a variable, unless it is blank. -/
def Environment.find? (env : Environment) (key : String) : Option String :=
  (env.lookup key).filter fun value => !(trimmed value).isEmpty

/-- The value of a variable read by `read`, which gets it without blanks at its ends; the default if
the variable is missing or blank. -/
def Environment.get {α : Type} (env : Environment) (key : String) (read : String → Option α)
    (default : α) : Except Fault α :=
  match env.find? key with
  | none => .ok default
  | some raw =>
    match read (trimmed raw) with
    | some a => .ok a
    | none => .error (.invalidValue ("Invalid value for " ++ key ++ ": " ++ raw))

/-- A number of so many bits in decimal digits. -/
def readNumber (bits : Nat) (text : String) : Option Nat :=
  (Numeral.read 10 (1 <<< bits) text.toList).toOption

/-- A double. -/
def readDouble (text : String) : Option Float := Literal.parse? text.toList

/-! ## Link policies -/

/-- The names that a policy can go by. -/
def LinkPolicy.names : List (String × LinkPolicy) :=
  [("first_wins", .firstWins), ("first", .firstWins), ("latest_wins", .latestWins),
   ("latest", .latestWins), ("upsert", .latestWins)]

/-- The name by which a policy is shown. -/
def LinkPolicy.name : LinkPolicy → String
  | .firstWins => "first_wins"
  | .latestWins => "latest_wins"

/-- Reads a policy. Blanks around the name and letter case do not matter. -/
def LinkPolicy.parse (text : String) : Except Fault LinkPolicy :=
  let name := Text.lowercase (trimmed text)
  match names.lookup name with
  | some policy => .ok policy
  | none => .error (.invalidValue ("Unknown link policy: " ++ name))

/-! ## Validation -/

namespace Settings

/-- What makes settings unusable. -/
inductive Flaw
  /-- A request for logs would cover no block. -/
  | emptyChunks
  /-- No request for logs could run. -/
  | noConcurrency
  /-- No code has this much entropy, or less than none. -/
  | entropyOutOfRange
  /-- A share is not between nothing and all. -/
  | shareOutOfRange (field : String)
  /-- The two cutoffs and the best score are not in order. -/
  | cutoffsOutOfOrder
  deriving DecidableEq, Repr

/-- The wording of a flaw. -/
def Flaw.message : Flaw → String
  | .emptyChunks => "chunk_size must be > 0"
  | .noConcurrency => "max_concurrent_chunks must be > 0"
  | .entropyOutOfRange => "entropy_threshold must be within [0, 8]"
  | .shareOutOfRange field => field ++ " must be within [0, 100]"
  | .cutoffsOutOfOrder =>
    "recommendation cutoffs must satisfy no_go_below <= edd_below <= 100"

/-- Whether a double lies from `low` to `high`; what is not a number does not. -/
def within (low high x : Float) : Bool := low ≤ x && x ≤ high

/-- Checks settings; the first flaw in the order of the list counts. -/
def validate (s : Settings) : Except Flaw Unit :=
  if s.chunkSize = 0 then .error .emptyChunks
  else if s.maxConcurrentChunks = 0 then .error .noConcurrency
  else if !within 0.0 8.0 s.entropyThreshold then .error .entropyOutOfRange
  else if !within 0.0 100.0 s.whaleThreshold then .error (.shareOutOfRange "whale_threshold_pct")
  else if !within 0.0 100.0 s.majorityThreshold then
    .error (.shareOutOfRange "majority_threshold_pct")
  else if s.eddBelow < s.noGoBelow ∨ 100 < s.eddBelow then .error .cutoffsOutOfOrder
  else .ok ()

/-- Flawed settings are an invalid value. -/
def Flaw.fault (flaw : Flaw) : Fault := .invalidValue flaw.message

/-- The settings that the environment gives, if they can be used. -/
def ofEnvironment (env : Environment) : Except Fault Settings := do
  let usual : Settings := {}
  let settings : Settings :=
    { entropyThreshold :=
        ← env.get "COMPLIANCE_ENTROPY_THRESHOLD" readDouble usual.entropyThreshold
      flagPenalty := ← env.get "COMPLIANCE_FLAG_PENALTY" (readNumber 8) usual.flagPenalty
      opcodeTraceLimit :=
        ← env.get "COMPLIANCE_OPCODE_TRACE_LIMIT" (readNumber 64) usual.opcodeTraceLimit
      lookbackBlocks := ← env.get "COMPLIANCE_LOOKBACK_BLOCKS" (readNumber 64) usual.lookbackBlocks
      chunkSize := ← env.get "COMPLIANCE_CHUNK_SIZE" (readNumber 64) usual.chunkSize
      chunkPacing := ← env.get "COMPLIANCE_CHUNK_PACING_MS" (readNumber 64) usual.chunkPacing
      callTimeout :=
        ← env.get "COMPLIANCE_CALL_TIMEOUT_SECS" (fun text => (readNumber 64 text).map (1000 * ·))
          usual.callTimeout
      chunkRetries := ← env.get "COMPLIANCE_CHUNK_RETRIES" (readNumber 32) usual.chunkRetries
      maxConcurrentChunks :=
        ← env.get "COMPLIANCE_MAX_CONCURRENT_CHUNKS" (readNumber 64) usual.maxConcurrentChunks
      topN := ← env.get "COMPLIANCE_TOP_N" (readNumber 64) usual.topN
      whaleThreshold :=
        ← env.get "COMPLIANCE_WHALE_THRESHOLD_PCT" readDouble usual.whaleThreshold
      majorityThreshold :=
        ← env.get "COMPLIANCE_MAJORITY_THRESHOLD_PCT" readDouble usual.majorityThreshold
      lowDistributionFloor :=
        ← env.get "COMPLIANCE_LOW_DISTRIBUTION_FLOOR" (readNumber 64) usual.lowDistributionFloor
      linkPolicy :=
        ← env.get "COMPLIANCE_LINK_POLICY" (fun text => (LinkPolicy.parse text).toOption)
          usual.linkPolicy
      noGoBelow := ← env.get "COMPLIANCE_NO_GO_BELOW" (readNumber 8) usual.noGoBelow
      eddBelow := ← env.get "COMPLIANCE_EDD_BELOW" (readNumber 8) usual.eddBelow }
  match settings.validate with
  | .ok () => return settings
  | .error flaw => throw flaw.fault

end Settings

end TokenAudit
