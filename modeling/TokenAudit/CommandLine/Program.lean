import TokenAudit.CommandLine.Help
import TokenAudit.Profile.Assess
import TokenAudit.Record.Profile
import TokenAudit.Record.Registry
import TokenAudit.Registry.Memory
import TokenAudit.Rpc.Client

/-! # The program

What the program does with its arguments and the environment: it prints a record as JSON, or says
what is wrong. Nothing is kept from one run to the next.

* `Finish` — how a run ends;
* `Command.perform` — what a command finds out;
* `run` — the whole run. -/

namespace TokenAudit

/-- How a run ends. -/
structure Finish where
  /-- What other programs are told: zero if all went well. -/
  exitCode : Nat
  /-- What is printed. -/
  output : String := ""
  /-- What is printed about problems. -/
  errors : String := ""
  deriving DecidableEq, Repr, Inhabited

namespace Finish

/-- The end of a run that has nothing to do. -/
def ofStop (stop : Stop) : Finish :=
  if stop.exitCode = 0 then { exitCode := 0, output := stop.text }
  else { exitCode := stop.exitCode, errors := stop.text }

/-- The end of a run that failed. -/
def ofFault (fault : Fault) : Finish :=
  { exitCode := 1, errors := "Error: " ++ fault.display ++ "\n" }

/-- The end of a run in which a span of time became too long. -/
def ofOverflow (overflow : Span.Overflow) : Finish :=
  { exitCode := 101, errors := overflow.message ++ "\n" }

/-- The end of a run that found something out. -/
def ofRecord (record : Json) : Finish := { exitCode := 0, output := record.pretty ++ "\n" }

end Finish

/-- The scan that references to blocks ask for. A reference to the head of the chain leaves its
bound open. -/
def ScanRequest.ofRefs (token : Address) (first last : Option BlockRef) (topN : Option Nat) :
    ScanRequest where
  token
  first := first.bind BlockRef.resolve
  last := last.bind BlockRef.resolve
  topN

namespace Command

/-- Whether a command has to wait for the ledger. The scan of an empty window does not. -/
def waits : Command → Bool
  | .bytecode _ | .assess _ => true
  | .holders _ first last _ =>
    match first.bind BlockRef.resolve, last.bind BlockRef.resolve with
    | some first, some last => first ≤ last
    | _, _ => true

variable {σ : Type}

/-- What a command finds out. -/
def perform (ledger : Ledger σ) (settings : Settings) (now : Moment) :
    Command → Action (World σ Memory) Json
  | .bytecode address => do
    let report ← onLedger (analyzeCode ledger settings address)
    return report.toJson
  | .holders address first last topN => do
    let snapshot ← reconstruct ledger Memory.registry settings (.ofRefs address first last topN)
    return snapshot.toJson
  | .assess address => do
    let profile ← TokenAudit.assess ledger Memory.registry settings now address
    return profile.toJson

end Command

/-- Performs a command on the ledger behind endpoints. -/
def runCommand {τ : Type} (net : Transport τ) (settings : Settings) (endpoints : Endpoints)
    (now : Moment) (command : Command) (s : τ) : Finish × τ :=
  match command.waits, endpoints.budget? with
  | true, .error overflow => (.ofOverflow overflow, s)
  | _, _ =>
    let world : World τ Memory := ⟨.start s, { now }⟩
    let (result, world) := command.perform (endpoints.ledger net) settings now world
    match result with
    | .ok record => (.ofRecord record, world.ledger.state)
    | .error fault => (.ofFault fault, world.ledger.state)

/-- The settings and the endpoints that the environment gives. -/
def configuration (env : Environment) : Except Fault (Settings × Endpoints) := do
  let settings ← Settings.ofEnvironment env
  let endpoints ← Endpoints.ofEnvironment env
  return (settings, endpoints)

/-- Runs the program at the time `now`. -/
def run {τ : Type} (net : Transport τ) (env : Environment) (now : Moment) (arguments : List String)
    (s : τ) : Finish × τ :=
  match Command.parse arguments with
  | .error stop => (.ofStop stop, s)
  | .ok command =>
    match configuration env with
    | .error fault => (.ofFault fault, s)
    | .ok (settings, endpoints) => runCommand net settings endpoints now command s

end TokenAudit
