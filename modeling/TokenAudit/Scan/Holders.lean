import TokenAudit.Scan.Fetch
import TokenAudit.Scan.Snapshot

/-! # Scanning for holders

The holders of a token are found by replaying its transfers in a window. Chunks that could not be
fetched and logs that say nothing are noted; only when no chunk at all could be fetched the scan
fails.

* `ScanRequest` and `resolveWindow` — what is scanned;
* `summarize` — the snapshot that the chunks amount to;
* `scan` — all of it. -/

namespace TokenAudit

/-- What to scan. -/
structure ScanRequest where
  /-- The token. -/
  token : Address
  /-- The first block, if it is given. -/
  first : Option Nat := none
  /-- The last block, if it is given. -/
  last : Option Nat := none
  /-- How many holders to list, if that is given. -/
  topN : Option Nat := none
  deriving DecidableEq, Repr, Inhabited

/-- The window to scan: where a bound is missing, it reaches up to the head of the chain, and back
from there by so many blocks. -/
def resolveWindow {σ : Type} (ledger : Ledger σ) (settings : Settings) (first last : Option Nat) :
    Action (Clocked σ) Window :=
  match first, last with
  | some first, some last => return ⟨first, last⟩
  | _, _ => do
    let head ← Ledger.askWithin (ledger.deadline settings.callTimeout) ledger.head
    return ⟨first.getD (head - settings.lookbackBlocks), last.getD head⟩

/-- The logs of the chunks that could be fetched. -/
def fetchedLogs (results : List ChunkResult) : List Log :=
  results.flatMap fun r => r.outcome.toOption.getD []

/-- The chunks that could not be fetched, as diagnostics. -/
def chunkDiagnostics (results : List ChunkResult) : List Diagnostic :=
  results.filterMap fun r =>
    match r.outcome with
    | .ok _ => none
    | .error failure =>
      some (.chunkFailed r.window failure.attempts failure.fault.code.name failure.fault.message)

/-- No chunk of a window could be fetched. -/
def allChunksFailed (token : Address) (window : Window) (chunks : Nat) : Fault :=
  ⟨.noEndpoints,
    "All " ++ Numeral.decimal chunks ++ " log chunks failed for " ++ token.toChecksum ++ " (" ++
      Numeral.decimal window.first ++ "-" ++ Numeral.decimal window.last ++ ")"⟩

/-- The snapshot that the chunks of a window amount to. -/
def summarize (settings : Settings) (token : Address) (window : Window) (topN : Nat)
    (results : List ChunkResult) : Except Fault Snapshot :=
  let failed := chunkDiagnostics results
  let logs := fetchedLogs results
  if 0 < results.length ∧ failed.length = results.length then
    .error (allChunksFailed token window results.length)
  else if logs.isEmpty then
    .ok { Snapshot.noTransfers token window with
      chunksTotal := results.length
      chunksFailed := failed.length
      diagnostics := failed }
  else
    let replayed := replay logs
    let ranked := replayed.holders
    let top := ranked.take topN
    let figures := concentrate ranked top
    .ok
      { token
        status := .activity
        topHolders := top
        centralizationScore := figures.centralizationScore
        anomalies := findAnomalies figures ranked.length settings
        totalHolderCount := ranked.length
        totalSupply := figures.totalSupply
        transferEvents := logs.length
        scanned := window
        chunksTotal := results.length
        chunksFailed := failed.length
        diagnostics := failed ++ replayed.skipped.map .logSkipped }

/-- Scans for the holders of a token. -/
def scan {σ : Type} (ledger : Ledger σ) (settings : Settings) (request : ScanRequest) :
    Action (Clocked σ) Snapshot := do
  let window ← resolveWindow ledger settings request.first request.last
  let results ← modifyGet
    (fetchChunks ledger settings request.token (window.chunks settings.chunkSize))
  liftM (summarize settings request.token window (request.topN.getD settings.topN) results)

end TokenAudit
