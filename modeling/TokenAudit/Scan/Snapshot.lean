import TokenAudit.Scan.Window
import TokenAudit.Transfer.Concentration

/-! # Snapshots

What is known about the holders of a token after its transfers in a window were replayed.

* `Diagnostic` — what went wrong on the way without spoiling the whole;
* `Snapshot` — the holders, how much is in few hands, and how it was found. -/

namespace TokenAudit

/-- A problem that was put up with. -/
inductive Diagnostic
  /-- The logs of a chunk could not be had. -/
  | chunkFailed (window : Window) (attempts : Nat) (code message : String)
  /-- A log was skipped. -/
  | logSkipped (skipped : SkippedLog)
  /-- A holder could not be entered into the registry. -/
  | linkFailed (address : Address) (message : String)
  deriving DecidableEq, Repr

/-- Whether there was any transfer in the window. -/
inductive Snapshot.Status
  /-- At least one log was found. -/
  | activity
  /-- No log was found. -/
  | noTransfers
  deriving DecidableEq, Repr

/-- The holders of a token as far as a window of blocks tells. -/
structure Snapshot where
  /-- The token. -/
  token : Address
  /-- Whether there was any transfer. -/
  status : Snapshot.Status
  /-- The first of the ranked holders. -/
  topHolders : List HolderBalance
  /-- Their share in percent. -/
  centralizationScore : Float
  /-- What stands out. -/
  anomalies : List Anomaly
  /-- How many holders there are. -/
  totalHolderCount : Nat
  /-- What all holders hold together. -/
  totalSupply : Nat
  /-- How many logs were found, skipped ones too. -/
  transferEvents : Nat
  /-- The window that was scanned. -/
  scanned : Window
  /-- How many chunks the window was asked for in. -/
  chunksTotal : Nat
  /-- How many of them could not be had. -/
  chunksFailed : Nat
  /-- The problems that were put up with. -/
  diagnostics : List Diagnostic

namespace Snapshot

/-- Every status once. -/
def Status.all : List Status := [.activity, .noTransfers]

/-- The name of a status. -/
def Status.name : Status → String
  | .activity => "activity"
  | .noTransfers => "no_transfers"

/-- The snapshot of a window without transfers. -/
def noTransfers (token : Address) (scanned : Window) : Snapshot where
  token
  status := .noTransfers
  topHolders := []
  centralizationScore := 0.0
  anomalies := []
  totalHolderCount := 0
  totalSupply := 0
  transferEvents := 0
  scanned
  chunksTotal := 0
  chunksFailed := 0
  diagnostics := []

/-- Whether no transfer was found. -/
def isEmptyActivity (s : Snapshot) : Bool := s.status == .noTransfers

/-- The names of what stands out. -/
def anomalyNames (s : Snapshot) : List String := s.anomalies.map Anomaly.name

end Snapshot

end TokenAudit
