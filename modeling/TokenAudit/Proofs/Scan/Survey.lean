import TokenAudit.Profile.Assess

/-! # Surveys of holders

A survey is a scan whose holders are linked to a registry if there is one. Once its window is known,
all that counts is what became of the chunks, and of that only the logs that were fetched and the
chunks that failed: from the logs alone comes everything that is said about holders.

* `survey` — the snapshot of a token's holders, with a registry or without;
* `conclude` — what the results of the chunks lead to, and `survey_of_window`;
* `findings` — what logs lead to, and `conclude_eq_ok`, `conclude_eq_error`. -/

namespace TokenAudit

variable {σ ρ : Type}

/-- The snapshot of a token's holders, linked to a registry if there is one. -/
def survey (ledger : Ledger σ) (target : Option (Registry ρ)) (settings : Settings)
    (request : ScanRequest) : Action (World σ ρ) Snapshot :=
  match target with
  | none => onLedger (scan ledger settings request)
  | some registry => reconstruct ledger registry settings request

/-! ## From the results of chunks -/

/-- Links holders to a registry if there is one: the diagnostics, and the registry afterwards. -/
def linkAll (target : Option (Registry ρ)) (policy : LinkPolicy) (token : Address)
    (holders : List HolderBalance) (s : ρ) : List Diagnostic × ρ :=
  match target with
  | none => ([], s)
  | some registry => linkHolders registry policy token holders s

/-- What the results of the chunks of a window lead to. -/
def conclude (target : Option (Registry ρ)) (settings : Settings) (token : Address)
    (window : Window) (topN : Nat) (results : List ChunkResult) (s : ρ) :
    Except Fault Snapshot × ρ :=
  match summarize settings token window topN results with
  | .error fault => (.error fault, s)
  | .ok snapshot =>
    let (unlinked, s) := linkAll target settings.linkPolicy token snapshot.topHolders s
    (.ok { snapshot with diagnostics := snapshot.diagnostics ++ unlinked }, s)

/-- Once its window is known, a scan hangs on the results of the chunks, and is over with them. -/
theorem scan_of_window {ledger : Ledger σ} {settings : Settings} {request : ScanRequest}
    {c c' : Clocked σ} {window : Window}
    (h : resolveWindow ledger settings request.first request.last c = (.ok window, c')) :
    scan ledger settings request c =
      let fetched := fetchChunks ledger settings request.token (window.chunks settings.chunkSize) c'
      (summarize settings request.token window (request.topN.getD settings.topN) fetched.1,
        fetched.2) := by
  unfold scan
  simp only [bind, ExceptT.bind, ExceptT.mk, StateT.bind, h]
  rfl

/-- **Once its window is known, a survey hangs on the results of the chunks.** -/
theorem survey_of_window {ledger : Ledger σ} (target : Option (Registry ρ)) {settings : Settings}
    {request : ScanRequest} {w : World σ ρ} {c : Clocked σ} {window : Window}
    (h : resolveWindow ledger settings request.first request.last w.ledger = (.ok window, c)) :
    survey ledger target settings request w =
      let fetched := fetchChunks ledger settings request.token (window.chunks settings.chunkSize) c
      let concluded := conclude target settings request.token window
        (request.topN.getD settings.topN) fetched.1 w.registry
      (concluded.1, ⟨fetched.2, concluded.2⟩) := by
  have hscan := scan_of_window h
  cases target with
  | none =>
    -- without a registry no holder is linked
    simp only [survey, onLedger, hscan, conclude, linkAll]
    cases hsum : summarize settings request.token window (request.topN.getD settings.topN)
        (fetchChunks ledger settings request.token (window.chunks settings.chunkSize) c).1 with
    | error fault => rfl
    | ok snapshot => simp
  | some registry =>
    simp only [survey, reconstruct, bind, ExceptT.bind, ExceptT.mk, StateT.bind, onLedger, hscan,
      conclude, linkAll]
    cases hsum : summarize settings request.token window (request.topN.getD settings.topN)
        (fetchChunks ledger settings request.token (window.chunks settings.chunkSize) c).1 with
    | error fault => rfl
    | ok snapshot => rfl

/-- A survey whose window cannot be told fails like the question for it. -/
theorem survey_of_lost_window {ledger : Ledger σ} (target : Option (Registry ρ))
    {settings : Settings} {request : ScanRequest} {w : World σ ρ} {c : Clocked σ} {fault : Fault}
    (h : resolveWindow ledger settings request.first request.last w.ledger = (.error fault, c)) :
    survey ledger target settings request w = (.error fault, ⟨c, w.registry⟩) := by
  have hscan : scan ledger settings request w.ledger = (.error fault, c) := by
    unfold scan
    simp only [bind, ExceptT.bind, ExceptT.mk, StateT.bind, h]
    rfl
  cases target with
  | none => simp only [survey, onLedger, hscan]
  | some registry =>
    simp only [survey, reconstruct, bind, ExceptT.bind, ExceptT.mk, StateT.bind, onLedger, hscan]
    rfl

/-! ## From logs -/

/-- The snapshot that logs alone amount to, chunks left aside. -/
def logFindings (settings : Settings) (token : Address) (window : Window) (topN : Nat)
    (logs : List Log) : Snapshot :=
  if logs.isEmpty then Snapshot.noTransfers token window
  else
    let replayed := replay logs
    let ranked := replayed.holders
    let top := ranked.take topN
    let figures := concentrate ranked top
    { token
      status := .activity
      topHolders := top
      centralizationScore := figures.centralizationScore
      anomalies := findAnomalies figures ranked.length settings
      totalHolderCount := ranked.length
      totalSupply := figures.totalSupply
      transferEvents := logs.length
      scanned := window
      chunksTotal := 0
      chunksFailed := 0
      diagnostics := replayed.skipped.map .logSkipped }

/-- What logs lead to: the snapshot, its holders linked if there is a registry, and the registry
afterwards. -/
def findings (target : Option (Registry ρ)) (settings : Settings) (token : Address)
    (window : Window) (topN : Nat) (logs : List Log) (s : ρ) : Snapshot × ρ :=
  let found := logFindings settings token window topN logs
  let linked := linkAll target settings.linkPolicy token found.topHolders s
  ({ found with diagnostics := found.diagnostics ++ linked.1 }, linked.2)

/-- A summary says of the chunks how many there are and which failed, and all else is said by the
logs. -/
theorem summarize_eq_ok {settings : Settings} {token : Address} {window : Window} {topN : Nat}
    {results : List ChunkResult}
    (h : ¬ (0 < results.length ∧ (chunkDiagnostics results).length = results.length)) :
    summarize settings token window topN results =
      let found := logFindings settings token window topN (fetchedLogs results)
      .ok { found with
        chunksTotal := results.length
        chunksFailed := (chunkDiagnostics results).length
        diagnostics := chunkDiagnostics results ++ found.diagnostics } := by
  simp only [summarize, logFindings, if_neg h]
  by_cases hempty : (fetchedLogs results).isEmpty = true
  · simp only [if_pos hempty, Snapshot.noTransfers, List.append_nil]
  · simp only [if_neg hempty]

/-- **A survey of which a chunk was fetched, or that has none, leads to what its logs lead to**, and
only adds how many chunks there are, and those that failed. -/
theorem conclude_eq_ok {target : Option (Registry ρ)} {settings : Settings} {token : Address}
    {window : Window} {topN : Nat} {results : List ChunkResult} {s : ρ}
    (h : ¬ (0 < results.length ∧ (chunkDiagnostics results).length = results.length)) :
    conclude target settings token window topN results s =
      let found := findings target settings token window topN (fetchedLogs results) s
      (.ok { found.1 with
        chunksTotal := results.length
        chunksFailed := (chunkDiagnostics results).length
        diagnostics := chunkDiagnostics results ++ found.1.diagnostics }, found.2) := by
  rw [conclude, summarize_eq_ok h]
  simp only [findings, List.append_assoc]

/-- A survey of which every chunk failed fails, and leaves the registry alone. -/
theorem conclude_eq_error {target : Option (Registry ρ)} {settings : Settings} {token : Address}
    {window : Window} {topN : Nat} {results : List ChunkResult} {s : ρ}
    (h : 0 < results.length ∧ (chunkDiagnostics results).length = results.length) :
    conclude target settings token window topN results s =
      (.error (allChunksFailed token window results.length), s) := by
  rw [conclude, summarize]
  simp only [if_pos h]

/-! ## Kinds of diagnostics -/

/-- Whether a diagnostic says that a chunk failed. -/
def Diagnostic.IsChunkFailed : Diagnostic → Prop
  | .chunkFailed .. => True
  | .logSkipped _ | .linkFailed .. => False

/-- Linking holders notes no failed chunk. -/
theorem not_isChunkFailed_of_linkHolders {registry : Registry ρ} {policy : LinkPolicy}
    {token : Address} {holders : List HolderBalance} {s : ρ} {d : Diagnostic}
    (h : d ∈ (linkHolders registry policy token holders s).1) : ¬ d.IsChunkFailed := by
  induction holders generalizing s with
  | nil => cases h
  | cons holder rest ih =>
    rw [linkHolders] at h
    simp only [bind, StateT.bind] at h
    cases hlink : (linkHolder registry policy token holder.address holder.balance).run s with
    | mk result s' =>
      rw [hlink] at h
      dsimp only at h
      cases result with
      | ok report => exact ih h
      | error fault =>
        rcases List.mem_cons.1 h with rfl | h
        · exact not_false
        · exact ih h

/-- Logs lead to no failed chunk. -/
theorem not_isChunkFailed_of_findings {target : Option (Registry ρ)} {settings : Settings}
    {token : Address} {window : Window} {topN : Nat} {logs : List Log} {s : ρ} {d : Diagnostic}
    (h : d ∈ (findings target settings token window topN logs s).1.diagnostics) :
    ¬ d.IsChunkFailed := by
  rcases List.mem_append.1 h with h | h
  · rw [logFindings] at h
    split at h
    · cases h
    · obtain ⟨skipped, -, rfl⟩ := List.mem_map.1 h
      exact not_false
  · cases target with
    | none => cases h
    | some registry => exact not_isChunkFailed_of_linkHolders h

end TokenAudit
