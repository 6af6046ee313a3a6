import TokenAudit.Proofs.Scan.Course
import TokenAudit.Proofs.Scan.Partition
import TokenAudit.Proofs.Scan.Survey
import TokenAudit.Proofs.Transfer.Conservation

/-! # The accounts of a survey

Whatever a ledger answers and whatever a registry makes of the holders, a survey fails for two
reasons only, and if it does not, its numbers agree with each other and with the diagnostics. These
come in three parts: the chunks that failed, the logs that were skipped and the holders that could
not be linked, each part in its own order.

* `HeadLost` — the newest block cannot be had in time;
* `chunkResults` — what becomes of the chunks that are asked for;
* `linkReports` — what becomes of linking each holder;
* `Accounted` — what the numbers of a snapshot say.

Main statement: `survey_accounts`. -/

namespace TokenAudit

variable {σ ρ : Type}

/-! ## The window -/

/-- Waiting for an answer does not change it. -/
theorem Pending.await_fst {α : Type} (p : Pending σ α) (c : Clocked σ) :
    (p.await c).1 = (p.settle c.state).1 := by
  rw [Pending.await]
  cases p.delay <;> rfl

/-- The newest block cannot be had: the answer does not come in time, or it is a fault. -/
def HeadLost (ledger : Ledger σ) (settings : Settings) (c : Clocked σ) : Prop :=
  let (answer, state) := ledger.head c.now c.state
  ledger.deadline settings.callTimeout < answer.delay.getD 0 ∨
    ∃ fault, (answer.settle state).1 = .error fault

/-- The newest block is lost exactly if asking for it in time ends with a fault. -/
theorem headLost_iff {ledger : Ledger σ} {settings : Settings} {c : Clocked σ} :
    HeadLost ledger settings c ↔
      ∃ fault, (Ledger.askWithin (ledger.deadline settings.callTimeout) ledger.head c).1 =
        .error fault := by
  rw [HeadLost, Ledger.askWithin]
  cases ledger.head c.now c.state with
  | mk answer state =>
    dsimp only [Pending.within]
    by_cases htime : answer.delay.getD 0 ≤ ledger.deadline settings.callTimeout
    · rw [if_pos htime, Pending.await_fst, or_iff_right (Nat.not_lt.2 htime)]
    · rw [if_neg htime]
      exact iff_of_true (Or.inl (Nat.not_le.1 htime)) ⟨_, rfl⟩

/-- The window of a request that leaves a bound open hangs on the newest block. -/
theorem resolveWindow_of_open {ledger : Ledger σ} {settings : Settings} {first last : Option Nat}
    (c : Clocked σ) (h : first = none ∨ last = none) :
    (resolveWindow ledger settings first last c).1 =
      (Ledger.askWithin (ledger.deadline settings.callTimeout) ledger.head c).1.map fun head =>
        ⟨first.getD (head - settings.lookbackBlocks), last.getD head⟩ := by
  have hask : resolveWindow ledger settings first last =
      (do
        let head ← Ledger.askWithin (ledger.deadline settings.callTimeout) ledger.head
        return ⟨first.getD (head - settings.lookbackBlocks), last.getD head⟩) := by
    rcases h with rfl | rfl
    · rfl
    · cases first <;> rfl
  rw [hask]
  simp only [bind, ExceptT.bind, ExceptT.mk, StateT.bind]
  cases Ledger.askWithin (ledger.deadline settings.callTimeout) ledger.head c with
  | mk result c' => cases result <;> rfl

/-- Which window it is cannot be told just if a bound is missing and the newest block cannot be
had. -/
theorem resolveWindow_eq_error_iff {ledger : Ledger σ} {settings : Settings}
    {first last : Option Nat} {c : Clocked σ} :
    (∃ fault, (resolveWindow ledger settings first last c).1 = .error fault) ↔
      (first = none ∨ last = none) ∧ HeadLost ledger settings c := by
  by_cases hopen : first = none ∨ last = none
  · rw [resolveWindow_of_open c hopen, headLost_iff, and_iff_right hopen]
    cases (Ledger.askWithin (ledger.deadline settings.callTimeout) ledger.head c).1 with
    | error fault => exact iff_of_true ⟨fault, rfl⟩ ⟨fault, rfl⟩
    | ok head =>
      refine iff_of_false (fun ⟨fault, hfault⟩ => ?_) (fun ⟨fault, hfault⟩ => ?_)
      · cases hfault
      · cases hfault
  · refine iff_of_false (fun ⟨fault, hfault⟩ => ?_) fun hlost => hopen hlost.1
    rw [not_or] at hopen
    obtain ⟨first, rfl⟩ := Option.ne_none_iff_exists'.1 hopen.1
    obtain ⟨last, rfl⟩ := Option.ne_none_iff_exists'.1 hopen.2
    cases hfault

/-- What becomes of the chunks of a survey, in their order; if its window cannot be told, there are
none. -/
def chunkResults (ledger : Ledger σ) (settings : Settings) (request : ScanRequest) (c : Clocked σ) :
    List ChunkResult :=
  match resolveWindow ledger settings request.first request.last c with
  | (.error _, _) => []
  | (.ok window, c) =>
    (fetchChunks ledger settings request.token (window.chunks settings.chunkSize) c).1

/-- Each chunk of the window has a result. -/
theorem map_window_chunkResults {ledger : Ledger σ} {settings : Settings} {request : ScanRequest}
    {c c' : Clocked σ} {window : Window}
    (h : resolveWindow ledger settings request.first request.last c = (.ok window, c')) :
    (chunkResults ledger settings request c).map ChunkResult.window =
      window.chunks settings.chunkSize := by
  rw [chunkResults, h]
  exact fetchChunks_windows ..

/-- Once its window is known, a survey leads to what the results of its chunks lead to. -/
theorem survey_eq_conclude {ledger : Ledger σ} (target : Option (Registry ρ)) {settings : Settings}
    {request : ScanRequest} {w : World σ ρ} {c : Clocked σ} {window : Window}
    (h : resolveWindow ledger settings request.first request.last w.ledger = (.ok window, c)) :
    (survey ledger target settings request w).1 =
      (conclude target settings request.token window (request.topN.getD settings.topN)
        (chunkResults ledger settings request w.ledger) w.registry).1 := by
  rw [survey_of_window target h, chunkResults, h]

/-! ## Linking -/

/-- What becomes of linking each holder, one after the other. -/
def linkReports (registry : Registry ρ) (policy : LinkPolicy) (token : Address) :
    List HolderBalance → StateM ρ (List (HolderBalance × Except Fault LinkReport))
  | [] => return []
  | holder :: rest => do
    let result ← (linkHolder registry policy token holder.address holder.balance).run
    let reports ← linkReports registry policy token rest
    return (holder, result) :: reports

/-- The note on a holder that could not be linked. -/
def unlinkedNote : HolderBalance × Except Fault LinkReport → Option Diagnostic
  | (_, .ok _) => none
  | (holder, .error fault) => some (.linkFailed holder.address fault.display)

/-- There is one report for each holder, in the order of the holders. -/
theorem map_fst_linkReports (registry : Registry ρ) (policy : LinkPolicy) (token : Address)
    (holders : List HolderBalance) (s : ρ) :
    (linkReports registry policy token holders s).1.map Prod.fst = holders := by
  induction holders generalizing s with
  | nil => rfl
  | cons holder rest ih =>
    rw [linkReports]
    simp only [bind, StateT.bind]
    exact congrArg (holder :: ·) (ih _)

/-- Each holder that cannot be linked is noted, in the order of the holders. -/
theorem linkHolders_fst (registry : Registry ρ) (policy : LinkPolicy) (token : Address)
    (holders : List HolderBalance) (s : ρ) :
    (linkHolders registry policy token holders s).1 =
      (linkReports registry policy token holders s).1.filterMap unlinkedNote := by
  induction holders generalizing s with
  | nil => rfl
  | cons holder rest ih =>
    rw [linkHolders, linkReports]
    simp only [bind, StateT.bind]
    cases (linkHolder registry policy token holder.address holder.balance).run s with
    | mk result s' =>
      cases result with
      | ok report => exact ih s'
      | error fault =>
        exact congrArg (Diagnostic.linkFailed holder.address fault.display :: ·) (ih s')

/-- The diagnostics on holders that could not be linked, if there is a registry. -/
def unlinked (target : Option (Registry ρ)) (policy : LinkPolicy) (token : Address)
    (holders : List HolderBalance) (s : ρ) : List Diagnostic :=
  target.elim [] fun registry =>
    (linkReports registry policy token holders s).1.filterMap unlinkedNote

/-- What linking holders adds to a snapshot are the diagnostics on those that were not linked. -/
theorem linkAll_fst (target : Option (Registry ρ)) (policy : LinkPolicy) (token : Address)
    (holders : List HolderBalance) (s : ρ) :
    (linkAll target policy token holders s).1 = unlinked target policy token holders s := by
  cases target with
  | none => rfl
  | some registry => exact linkHolders_fst registry policy token holders s

/-! ## Kinds of diagnostics -/

/-- The notes on the logs that a replay skips, in the order of the logs. -/
def skips (logs : List Log) : List SkippedLog :=
  (skippedLogs logs).map fun log => ⟨log.blockNumber, Transfer.flaw log⟩

instance : DecidablePred Diagnostic.IsChunkFailed
  | .chunkFailed .. => isTrue trivial
  | .logSkipped _ => isFalse id
  | .linkFailed .. => isFalse id

/-- Whether a diagnostic says that a log was skipped. -/
def Diagnostic.IsLogSkipped : Diagnostic → Prop
  | .logSkipped _ => True
  | .chunkFailed .. | .linkFailed .. => False

instance : DecidablePred Diagnostic.IsLogSkipped
  | .logSkipped _ => isTrue trivial
  | .chunkFailed .. => isFalse id
  | .linkFailed .. => isFalse id

/-- The chunk that a diagnostic speaks of. -/
def Diagnostic.chunk? : Diagnostic → Option Window
  | .chunkFailed window .. => some window
  | .logSkipped _ | .linkFailed .. => none

/-- The account of the holder that a diagnostic speaks of. -/
def Diagnostic.account? : Diagnostic → Option Address
  | .linkFailed address _ => some address
  | .chunkFailed .. | .logSkipped _ => none

/-- The notes on holders that could not be linked speak of some of the holders, in their order. -/
theorem accounts_of_unlinked (target : Option (Registry ρ)) (policy : LinkPolicy) (token : Address)
    (holders : List HolderBalance) (s : ρ) :
    ((unlinked target policy token holders s).filterMap Diagnostic.account?).Sublist
      (holders.map HolderBalance.address) := by
  cases target with
  | none => exact List.nil_sublist _
  | some registry =>
    have hholders := map_fst_linkReports registry policy token holders s
    rw [unlinked, Option.elim_some]
    -- what became of each holder does not matter for the order, so the reports may be any with
    -- these holders
    generalize (linkReports registry policy token holders s).1 = reports at hholders ⊢
    subst hholders
    induction reports with
    | nil => exact List.Sublist.slnil
    | cons report rest ih =>
      obtain ⟨holder, result⟩ := report
      cases result with
      | ok report => exact ih.cons holder.address
      | error fault => exact ih.cons_cons holder.address

/-- The notes on failed chunks speak of some of the chunks, in their order. -/
theorem chunks_of_chunkDiagnostics (results : List ChunkResult) :
    ((chunkDiagnostics results).filterMap Diagnostic.chunk?).Sublist
      (results.map ChunkResult.window) := by
  induction results with
  | nil => exact List.Sublist.slnil
  | cons r rest ih =>
    obtain ⟨window, outcome⟩ := r
    cases outcome with
    | ok logs => exact ih.cons window
    | error failure => exact ih.cons_cons window

/-- All diagnostics on chunks are of one kind. -/
theorem isChunkFailed_of_chunkDiagnostics {results : List ChunkResult} {d : Diagnostic}
    (h : d ∈ chunkDiagnostics results) : d.IsChunkFailed := by
  obtain ⟨r, -, hr⟩ := List.mem_filterMap.1 h
  cases hout : r.outcome with
  | ok logs => simp [hout] at hr
  | error failure =>
    simp only [hout, Option.some.injEq] at hr
    rw [← hr]
    trivial

/-- All diagnostics on linking are of one kind. -/
theorem linkFailed_of_unlinked {target : Option (Registry ρ)} {policy : LinkPolicy}
    {token : Address} {holders : List HolderBalance} {s : ρ} {d : Diagnostic}
    (h : d ∈ unlinked target policy token holders s) :
    ∃ address message, d = .linkFailed address message := by
  cases target with
  | none => cases h
  | some registry =>
    obtain ⟨⟨holder, result⟩, -, hnote⟩ := List.mem_filterMap.1 h
    cases result with
    | ok report => cases hnote
    | error fault => exact ⟨_, _, (Option.some.inj hnote).symm⟩

/-- Every chunk failed just if there is a diagnostic for each. -/
theorem length_chunkDiagnostics_eq_iff {results : List ChunkResult} :
    (chunkDiagnostics results).length = results.length ↔
      ∀ r ∈ results, ∃ failure, r.outcome = .error failure := by
  rw [chunkDiagnostics, List.filterMap_length_eq_length]
  refine forall₂_congr fun r _ => ?_
  cases r.outcome with
  | ok logs => simp
  | error failure => simp

/-- How many diagnostics there are of the first two kinds, and which chunks and which accounts they
speak of. -/
theorem count_diagnostics (results : List ChunkResult) (target : Option (Registry ρ))
    (policy : LinkPolicy) (token : Address) (holders : List HolderBalance) (s : ρ)
    (skipped : List SkippedLog) :
    let diagnostics := chunkDiagnostics results ++ skipped.map .logSkipped ++
      unlinked target policy token holders s
    diagnostics.countP (·.IsChunkFailed) = (chunkDiagnostics results).length ∧
      diagnostics.countP (·.IsLogSkipped) = skipped.length ∧
      diagnostics.filterMap Diagnostic.chunk? =
        (chunkDiagnostics results).filterMap Diagnostic.chunk? ∧
      diagnostics.filterMap Diagnostic.account? =
        (unlinked target policy token holders s).filterMap Diagnostic.account? := by
  intro diagnostics
  -- each part holds diagnostics of one kind, so each is counted whole or not at all
  have hfailed : ∀ d ∈ chunkDiagnostics results,
      d.IsChunkFailed ∧ ¬ d.IsLogSkipped ∧ d.account? = none := by
    intro d hd
    have hkind := isChunkFailed_of_chunkDiagnostics hd
    cases d with
    | chunkFailed => exact ⟨trivial, id, rfl⟩
    | _ => exact absurd hkind id
  have hunlinked : ∀ d ∈ unlinked target policy token holders s,
      ¬ d.IsChunkFailed ∧ ¬ d.IsLogSkipped ∧ d.chunk? = none := by
    intro d hd
    obtain ⟨address, message, rfl⟩ := linkFailed_of_unlinked hd
    exact ⟨id, id, rfl⟩
  have hskipped : ∀ d ∈ skipped.map Diagnostic.logSkipped,
      ¬ d.IsChunkFailed ∧ d.IsLogSkipped ∧ d.chunk? = none ∧ d.account? = none := by
    intro d hd
    obtain ⟨log, -, rfl⟩ := List.mem_map.1 hd
    exact ⟨id, trivial, rfl, rfl⟩
  refine ⟨?_, ?_, ?_, ?_⟩
  · rw [List.countP_append, List.countP_append,
      List.countP_eq_length.2 fun d hd => decide_eq_true (hfailed d hd).1,
      List.countP_eq_zero.2 fun d hd => mt of_decide_eq_true (hskipped d hd).1,
      List.countP_eq_zero.2 fun d hd => mt of_decide_eq_true (hunlinked d hd).1,
      Nat.add_zero]
  · rw [List.countP_append, List.countP_append,
      List.countP_eq_zero.2 fun d hd => mt of_decide_eq_true (hfailed d hd).2.1,
      List.countP_eq_length.2 fun d hd => decide_eq_true (hskipped d hd).2.1,
      List.countP_eq_zero.2 fun d hd => mt of_decide_eq_true (hunlinked d hd).2.1,
      List.length_map, Nat.zero_add, Nat.add_zero]
  · rw [List.filterMap_append, List.filterMap_append,
      List.filterMap_eq_nil_iff.2 fun d hd => (hskipped d hd).2.2.1,
      List.filterMap_eq_nil_iff.2 fun d hd => (hunlinked d hd).2.2,
      List.append_nil, List.append_nil]
  · rw [List.filterMap_append, List.filterMap_append,
      List.filterMap_eq_nil_iff.2 fun d hd => (hfailed d hd).2.2,
      List.filterMap_eq_nil_iff.2 fun d hd => (hskipped d hd).2.2.2,
      List.nil_append, List.nil_append]

/-! ## The snapshot -/

/-- What the numbers and the diagnostics of a snapshot say, for what became of its chunks. -/
structure Accounted (target : Option (Registry ρ)) (settings : Settings) (request : ScanRequest)
    (s : ρ) (results : List ChunkResult) (snapshot : Snapshot) : Prop where
  planned : results.map ChunkResult.window = snapshot.scanned.chunks settings.chunkSize
  chunksTotal : snapshot.chunksTotal = results.length
  chunksFailed : snapshot.chunksFailed = snapshot.diagnostics.countP (·.IsChunkFailed)
  /-- Unless there are no chunks at all, one of them was fetched. -/
  chunksFailed_lt : snapshot.chunksTotal ≠ 0 → snapshot.chunksFailed < snapshot.chunksTotal
  /-- The logs of all chunks that were fetched. -/
  transferEvents : snapshot.transferEvents =
    (results.map fun r => (r.outcome.toOption.getD []).length).sum
  status : snapshot.status = .activity ↔ 0 < snapshot.transferEvents
  /-- Each log is skipped or applied. -/
  applied : snapshot.diagnostics.countP (·.IsLogSkipped) + (replay (fetchedLogs results)).applied =
    snapshot.transferEvents
  totalHolderCount : snapshot.totalHolderCount = (replay (fetchedLogs results)).holders.length
  topHolders : snapshot.topHolders =
    (replay (fetchedLogs results)).holders.take (request.topN.getD settings.topN)
  length_topHolders : snapshot.topHolders.length =
    min (request.topN.getD settings.topN) snapshot.totalHolderCount
  /-- Failed chunks, skipped logs and holders that could not be linked. -/
  diagnostics : snapshot.diagnostics =
    chunkDiagnostics results ++ (skips (fetchedLogs results)).map .logSkipped ++
      unlinked target settings.linkPolicy request.token snapshot.topHolders s
  /-- Failed chunks come in the order of their blocks. -/
  failed_ascending : (snapshot.diagnostics.filterMap Diagnostic.chunk?).Pairwise
    fun earlier later => earlier.last < later.first
  /-- Skipped logs come in the order of the logs. -/
  skipped_in_order : (skippedLogs (fetchedLogs results)).Sublist (fetchedLogs results)
  /-- Holders that could not be linked come in the order of the holders. -/
  unlinked_in_order : (snapshot.diagnostics.filterMap Diagnostic.account?).Sublist
    (snapshot.topHolders.map HolderBalance.address)

/-- What logs say of holders, and what they say of themselves. -/
theorem logFindings_spec (settings : Settings) (token : Address) (window : Window) (topN : Nat)
    (logs : List Log) :
    let found := logFindings settings token window topN logs
    (found.status = .activity ↔ 0 < logs.length) ∧ found.transferEvents = logs.length ∧
      found.topHolders = (replay logs).holders.take topN ∧
      found.totalHolderCount = (replay logs).holders.length ∧ found.scanned = window ∧
      found.diagnostics = (skips logs).map .logSkipped := by
  obtain ⟨-, -, -, hskipped⟩ := balanced_replay logs
  change (replay logs).skipped = skips logs at hskipped
  cases logs with
  | nil =>
    have hholders : (replay []).holders = [] := by
      simp [replay, Replay.holders, rankHolders, Table.empty]
    simp [logFindings, Snapshot.noTransfers, hholders, skips, skippedLogs, Replay.history]
  | cons log rest => simp [logFindings, hskipped]

/-- The accounts of what the results of chunks lead to. -/
theorem accounted_of_conclude {target : Option (Registry ρ)} {settings : Settings}
    {request : ScanRequest} {window : Window} {results : List ChunkResult} {s : ρ}
    {snapshot : Snapshot}
    (hplanned : results.map ChunkResult.window = window.chunks settings.chunkSize)
    (hfetched : ¬ (0 < results.length ∧ (chunkDiagnostics results).length = results.length))
    (h : (conclude target settings request.token window (request.topN.getD settings.topN) results
      s).1 = .ok snapshot) :
    snapshot.scanned = window ∧ Accounted target settings request s results snapshot := by
  rw [conclude_eq_ok hfetched] at h
  obtain ⟨hstatus, hevents, htop, htotal, hwindow, hskipped⟩ := logFindings_spec
    settings request.token window (request.topN.getD settings.topN) (fetchedLogs results)
  set found := logFindings settings request.token window (request.topN.getD settings.topN)
    (fetchedLogs results) with hfound
  have hdiagnostics : snapshot.diagnostics =
      chunkDiagnostics results ++ (skips (fetchedLogs results)).map .logSkipped ++
        unlinked target settings.linkPolicy request.token snapshot.topHolders s := by
    cases h
    show chunkDiagnostics results ++
      (found.diagnostics ++ (linkAll target _ _ found.topHolders s).1) = _
    rw [hskipped, linkAll_fst, List.append_assoc]
    rfl
  obtain ⟨hfailed, hskips, hchunks, haccounts⟩ := count_diagnostics results target
    settings.linkPolicy request.token snapshot.topHolders s (skips (fetchedLogs results))
  rw [← hdiagnostics] at hfailed hskips hchunks haccounts
  -- what is not skipped is applied
  have hlength : (skips (fetchedLogs results)).length + (replay (fetchedLogs results)).applied =
      (fetchedLogs results).length := by
    rw [applied_replay, skips, List.length_map, Nat.add_comm]
    exact length_appliedLogs_add _
  -- the failed chunks are some of all chunks, which come in the order of their blocks
  have hwindows : (results.map ChunkResult.window).Pairwise
      fun earlier later => earlier.last < later.first := by
    rw [hplanned]
    exact Window.pairwise_chunks window settings.chunkSize
  have hfew : (chunkDiagnostics results).length ≤ results.length := List.length_filterMap_le _ _
  cases h
  refine ⟨hwindow, ?_⟩
  exact {
    planned := by
      show _ = found.scanned.chunks settings.chunkSize
      rw [hplanned, hwindow]
    chunksTotal := rfl
    chunksFailed := hfailed.symm
    chunksFailed_lt := fun hsome => by
      have hsome : results.length ≠ 0 := hsome
      show (chunkDiagnostics results).length < results.length
      omega
    transferEvents := by
      show found.transferEvents = _
      rw [hevents, fetchedLogs, List.length_flatMap]
    status := by
      show found.status = .activity ↔ 0 < found.transferEvents
      rw [hevents, hstatus]
    applied := by
      show _ = found.transferEvents
      rw [hskips, hlength, hevents]
    totalHolderCount := htotal
    topHolders := htop
    length_topHolders := by
      show found.topHolders.length = min _ found.totalHolderCount
      rw [htop, htotal, List.length_take]
    diagnostics := hdiagnostics
    failed_ascending := by
      rw [hchunks]
      exact hwindows.sublist (chunks_of_chunkDiagnostics results)
    skipped_in_order := skippedLogs_sublist _
    unlinked_in_order := by
      rw [haccounts]
      exact accounts_of_unlinked .. }

/-- **Why a survey fails**: a bound is missing and the newest block cannot be had, or there are
chunks and none of them could be fetched. -/
theorem survey_eq_error_iff (ledger : Ledger σ) (target : Option (Registry ρ)) (settings : Settings)
    (request : ScanRequest) (w : World σ ρ) :
    (∃ fault, (survey ledger target settings request w).1 = .error fault) ↔
      (request.first = none ∨ request.last = none) ∧ HeadLost ledger settings w.ledger ∨
        chunkResults ledger settings request w.ledger ≠ [] ∧
          ∀ r ∈ chunkResults ledger settings request w.ledger,
            ∃ failure, r.outcome = .error failure := by
  set results := chunkResults ledger settings request w.ledger with hresults
  -- a window that cannot be told is one fault, and chunks that are all lost are the other
  cases hwindow : resolveWindow ledger settings request.first request.last w.ledger with
  | mk answer c =>
    cases answer with
    | error fault =>
      have hlost : (request.first = none ∨ request.last = none) ∧
          HeadLost ledger settings w.ledger :=
        resolveWindow_eq_error_iff.1 ⟨fault, by rw [hwindow]⟩
      refine iff_of_true ⟨fault, ?_⟩ (Or.inl hlost)
      rw [survey_of_lost_window target hwindow]
    | ok window =>
      have hnot : ¬ ((request.first = none ∨ request.last = none) ∧
          HeadLost ledger settings w.ledger) := by
        intro hlost
        obtain ⟨fault, hfault⟩ := resolveWindow_eq_error_iff.2 hlost
        rw [hwindow] at hfault
        cases hfault
      rw [or_iff_right hnot, ← List.length_pos_iff, ← length_chunkDiagnostics_eq_iff,
        survey_eq_conclude target hwindow, ← hresults]
      by_cases hfailed : 0 < results.length ∧ (chunkDiagnostics results).length = results.length
      · rw [conclude_eq_error hfailed]
        exact iff_of_true ⟨_, rfl⟩ hfailed
      · rw [conclude_eq_ok hfailed]
        refine iff_of_false ?_ hfailed
        rintro ⟨fault, hfault⟩
        cases hfault

/-- A survey that does not fail scanned the window that the request comes to, and leads to what the
results of its chunks lead to. -/
theorem window_of_survey {ledger : Ledger σ} {target : Option (Registry ρ)} {settings : Settings}
    {request : ScanRequest} {w : World σ ρ} {snapshot : Snapshot}
    (h : (survey ledger target settings request w).1 = .ok snapshot) :
    (resolveWindow ledger settings request.first request.last w.ledger).1 = .ok snapshot.scanned ∧
      Accounted target settings request w.registry (chunkResults ledger settings request w.ledger)
        snapshot := by
  set results := chunkResults ledger settings request w.ledger with hresults
  cases hwindow : resolveWindow ledger settings request.first request.last w.ledger with
  | mk answer c =>
    cases answer with
    | error fault =>
      rw [survey_of_lost_window target hwindow] at h
      cases h
    | ok window =>
      rw [survey_eq_conclude target hwindow, ← hresults] at h
      by_cases hfailed : 0 < results.length ∧ (chunkDiagnostics results).length = results.length
      · rw [conclude_eq_error hfailed] at h
        cases h
      · obtain ⟨hscanned, haccounted⟩ :=
          accounted_of_conclude (map_window_chunkResults hwindow) hfailed h
        exact ⟨by rw [hscanned], haccounted⟩

/-- **The accounts of every survey**, whatever the ledger answers and whatever the registry makes of
the holders. Each chunk of the window comes to a result. The survey fails just if a bound is missing
and the newest block cannot be had, or if there are chunks and none of them could be fetched. In
every other case the snapshot accounts for all chunks, logs and holders. -/
theorem survey_accounts (ledger : Ledger σ) (target : Option (Registry ρ)) (settings : Settings)
    (request : ScanRequest) (w : World σ ρ) :
    let results := chunkResults ledger settings request w.ledger
    (∀ window c, resolveWindow ledger settings request.first request.last w.ledger =
      (.ok window, c) → results.map ChunkResult.window = window.chunks settings.chunkSize) ∧
    ((∃ fault, (survey ledger target settings request w).1 = .error fault) ↔
      (request.first = none ∨ request.last = none) ∧ HeadLost ledger settings w.ledger ∨
        results ≠ [] ∧ ∀ r ∈ results, ∃ failure, r.outcome = .error failure) ∧
    ∀ snapshot, (survey ledger target settings request w).1 = .ok snapshot →
      Accounted target settings request w.registry results snapshot :=
  ⟨fun _ _ hwindow => map_window_chunkResults hwindow,
    survey_eq_error_iff ledger target settings request w,
    fun _ hsnapshot => (window_of_survey hsnapshot).2⟩

end TokenAudit
