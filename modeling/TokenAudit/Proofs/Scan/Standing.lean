import TokenAudit.Proofs.Ledger.Calm
import TokenAudit.Proofs.Ledger.Failures
import TokenAudit.Proofs.Ledger.Ranges
import TokenAudit.Proofs.Scan.Course
import TokenAudit.Proofs.Scan.Survey

/-! # Fetching against standing failures

A ledger whose failures last for ever answers the same query the same way each time. So what becomes
of a chunk is settled before anything is asked, by the failure that it meets: its logs are fetched
at the first request, or it is given up at the last one that is made for it.

* `verdict` — what is to become of a chunk;
* `Recorded.Bound` — a stage that leads there, and `bound_advance`, one stage of it;
* `fetchChunks_standing` — every chunk comes to its verdict, in whatever order the chunks go on;
* `survey_of_calm` — the survey of a ledger without failures leads to what the logs of its window
  lead to. -/

namespace TokenAudit

variable {ρ : Type}

/-- How many requests are made for a chunk at most, by the failure that it meets. -/
def lastAttempt (settings : Settings) : Option RangeFailure → Nat
  | none => 1
  | some f => if f.code.isRetryable then settings.chunkRetries + 1 else 1

/-- Whatever a chunk meets, one request is made for it. -/
theorem one_le_lastAttempt (settings : Settings) (met : Option RangeFailure) :
    1 ≤ lastAttempt settings met := by
  cases met with
  | none => exact Nat.le_refl 1
  | some f =>
    rw [lastAttempt]
    split <;> omega

/-- The fault that an injected failure is reported by. -/
def RangeFailure.faultAt (f : RangeFailure) (chunk : Window) : Fault :=
  ⟨f.code,
    "injected failure for " ++ Numeral.decimal chunk.first ++ "-" ++ Numeral.decimal chunk.last⟩

/-- What is to become of a chunk of a ledger whose failures last for ever. -/
def verdict (settings : Settings) (r : Recorded) (token : Address) (chunk : Window) :
    Except ChunkFailure (List Log) :=
  match Recorded.met r.failures chunk with
  | none => .ok (Recorded.find r.logs (transferQuery token chunk))
  | some f => .error ⟨lastAttempt settings (some f), f.faultAt chunk⟩

namespace Recorded

/-- The window that a request comes to. -/
def windowOf (r : Recorded) (settings : Settings) (request : ScanRequest) : Window :=
  ⟨request.first.getD (r.head - settings.lookbackBlocks), request.last.getD r.head⟩

/-- A recorded ledger tells its head at once. -/
theorem resolveWindow_eq (settings : Settings) (request : ScanRequest) (c : Clocked Recorded) :
    resolveWindow ledger settings request.first request.last c =
      (.ok (c.state.windowOf settings request), c) := by
  obtain ⟨token, first, last, topN⟩ := request
  cases first <;> cases last <;> rfl

/-! ## One stage -/

/-- A request whose answer is in time is answered, and counted. -/
theorem advance_asking {settings : Settings} {s : Recorded} (query : LogQuery) (now attempt : Nat)
    (hdelay : s.logDelay.getD 0 ≤ settings.callTimeout) :
    (Stage.asking attempt).advance ledger settings query now s =
      ((s.logDelay, .answered attempt (answerLogs query)),
        { s with logQueries := s.logQueries + 1 }) :=
  if_pos hdelay

/-- The answer of a ledger whose failures last for ever. -/
theorem answerLogs_of_standing {r : Recorded} (h : Standing r.failures) (query : LogQuery) :
    answerLogs query r =
      (match met r.failures ⟨query.first, query.last⟩ with
        | none => .ok (find r.logs query)
        | some f => .error (f.faultAt ⟨query.first, query.last⟩), r) := by
  rw [answerLogs, fire_of_standing h]
  cases met r.failures ⟨query.first, query.last⟩ with
  | none => rfl
  | some f => rfl

/-- A stage of a chunk that leads to its verdict. -/
def Bound (settings : Settings) (r : Recorded) (token : Address) (chunk : Window) :
    Stage Recorded → Prop
  | .asking attempt => 0 < attempt ∧ attempt ≤ lastAttempt settings (met r.failures chunk)
  | .answered attempt settle =>
    (0 < attempt ∧ attempt ≤ lastAttempt settings (met r.failures chunk)) ∧
      settle = answerLogs (transferQuery token chunk)
  | .overdue _ => False
  | .paced outcome | .finished outcome => outcome = verdict settings r token chunk

/-- What comes after the answer to a request leads to the verdict. -/
theorem bound_judge {settings : Settings} {r : Recorded} {token : Address} {chunk : Window}
    {attempt : Nat} (hpos : 0 < attempt)
    (hlast : attempt ≤ lastAttempt settings (met r.failures chunk)) :
    Bound settings r token chunk
      (Stage.judge settings attempt
        (match met r.failures chunk with
          | none => .ok (find r.logs (transferQuery token chunk))
          | some f => .error (f.faultAt chunk))).2 := by
  cases hmet : met r.failures chunk with
  | none =>
    show Except.ok _ = verdict settings r token chunk
    rw [verdict, hmet]
  | some f =>
    rw [hmet] at hlast
    show Bound settings r token chunk (Stage.judge settings attempt (.error (f.faultAt chunk))).2
    rw [Stage.judge]
    have hretry : (f.faultAt chunk).isRetryable = f.code.isRetryable := rfl
    rw [hretry]
    by_cases hagain : f.code.isRetryable = true ∧ attempt ≤ settings.chunkRetries
    · rw [if_pos hagain]
      refine ⟨Nat.succ_pos _, ?_⟩
      rw [hmet, lastAttempt, if_pos hagain.1]
      exact Nat.succ_le_succ hagain.2
    · -- the last request was made: no more are worth it, or no more are left
      rw [if_neg hagain]
      show Except.error _ = verdict settings r token chunk
      have hattempt : attempt = lastAttempt settings (some f) := by
        rw [lastAttempt] at hlast ⊢
        by_cases hcode : f.code.isRetryable = true
        · rw [if_pos hcode] at hlast ⊢
          have hspent : ¬ attempt ≤ settings.chunkRetries := fun h => hagain ⟨hcode, h⟩
          omega
        · rw [if_neg hcode] at hlast ⊢
          omega
      rw [verdict, hmet, hattempt]

/-- **One stage of one chunk** leaves the records as they are and leads on to the verdict. -/
theorem bound_advance {settings : Settings} {r s : Recorded} {token : Address} {chunk : Window}
    {stage : Stage Recorded} (now : Nat) (hstanding : Standing r.failures)
    (hdelay : r.logDelay.getD 0 ≤ settings.callTimeout) (hsame : SameRecords r s)
    (hbound : Bound settings r token chunk stage) (hopen : stage.outcome? = none) :
    SameRecords r (stage.advance ledger settings (transferQuery token chunk) now s).2 ∧
      Bound settings r token chunk
        (stage.advance ledger settings (transferQuery token chunk) now s).1.2 := by
  have hfailures : s.failures = r.failures := by rw [hsame]
  have hlogs : s.logs = r.logs := by rw [hsame]
  -- only asking changes the ledger, which counts the question
  cases stage with
  | asking attempt =>
    rw [advance_asking _ _ _ (by rw [hsame]; exact hdelay)]
    refine ⟨?_, hbound, rfl⟩
    rw [SameRecords, hsame]
  | answered attempt settle =>
    obtain ⟨⟨hpos, hlast⟩, rfl⟩ := hbound
    have hanswer := answerLogs_of_standing (r := s) (by rw [hfailures]; exact hstanding)
      (transferQuery token chunk)
    rw [hfailures, hlogs] at hanswer
    rw [Stage.advance, hanswer]
    exact ⟨hsame, bound_judge hpos hlast⟩
  | overdue attempt => exact hbound.elim
  | paced outcome => exact ⟨hsame, hbound⟩
  | finished outcome => cases hopen

end Recorded

/-! ## The whole fetch -/

/-- A fetch leaves the records as they are, and every chunk at a stage that is bound to its
verdict. -/
theorem course_of_standing {settings : Settings} (token : Address) (chunks : List Window)
    {c : Clocked Recorded} (hstanding : Standing c.state.failures)
    (hdelay : c.state.logDelay.getD 0 ≤ settings.callTimeout) :
    let fetched := fetchChunks Recorded.ledger settings token chunks c
    Recorded.SameRecords c.state fetched.2.state ∧
      ∀ p ∈ fetched.1.map ChunkResult.arrived, Recorded.Bound settings c.state token p.1 p.2 := by
  refine fetchChunks_induction
    (I := fun s course => Recorded.SameRecords c.state s ∧
      ∀ p ∈ course, Recorded.Bound settings c.state token p.1 p.2)
    Recorded.ledger settings token chunks c ?_ ?_
  · refine ⟨rfl, fun p hp => ?_⟩
    obtain ⟨chunk, -, rfl⟩ := List.mem_map.1 hp
    exact ⟨Nat.one_pos, one_le_lastAttempt _ _⟩
  · intro s before chunk stage after now hopen hinv
    obtain ⟨hsame, hbound⟩ := hinv
    have hstage := hbound (chunk, stage) (by simp)
    obtain ⟨hsame', hbound'⟩ :=
      Recorded.bound_advance now hstanding hdelay hsame hstage hopen
    -- what is to become of a chunk hangs on the failures alone, so the others keep what is known of
    -- them
    exact ⟨hsame', forall_mem_advanced hbound (fun _ h => h) hbound'⟩

/-- **Every chunk comes to its verdict**, in whatever order the chunks go on. -/
theorem fetchChunks_standing {settings : Settings} {token : Address} {chunks : List Window}
    {c : Clocked Recorded} (hstanding : Standing c.state.failures)
    (hdelay : c.state.logDelay.getD 0 ≤ settings.callTimeout) :
    (fetchChunks Recorded.ledger settings token chunks c).1 =
      chunks.map fun chunk => ⟨chunk, verdict settings c.state token chunk⟩ :=
  results_eq_map (fetchChunks_windows ..) fun _ hresult =>
    (course_of_standing token chunks hstanding hdelay).2 _ (List.mem_map_of_mem hresult)

/-! ## Ledgers without failures -/

/-- When every chunk is fetched, none is noted as failed. -/
theorem chunkDiagnostics_of_ok (chunks : List Window) (logs : Window → List Log) :
    chunkDiagnostics (chunks.map fun chunk => ⟨chunk, .ok (logs chunk)⟩) = [] := by
  rw [chunkDiagnostics, List.filterMap_map, List.filterMap_eq_nil_iff]
  intro chunk _
  rfl

/-- When every chunk is fetched, so are the logs of the window. -/
theorem fetchedLogs_of_find (logs : List (Address × Log)) (token : Address) (window : Window)
    {size : Nat} (hsize : 0 < size) :
    fetchedLogs ((window.chunks size).map fun chunk =>
        ⟨chunk, .ok (Recorded.find logs (transferQuery token chunk))⟩) =
      Recorded.find logs (transferQuery token window) := by
  rw [fetchedLogs, List.flatMap_map]
  exact Recorded.find_flatMap_chunks logs (transferQuery token window) hsize

/-- When every chunk is fetched, a survey leads to what the logs of its window lead to. -/
theorem conclude_of_find (target : Option (Registry ρ)) (settings : Settings) (token : Address)
    (window : Window) (topN : Nat) (logs : List (Address × Log)) (s : ρ) {size : Nat}
    (hsize : 0 < size) :
    conclude target settings token window topN
        ((window.chunks size).map fun chunk =>
          ⟨chunk, .ok (Recorded.find logs (transferQuery token chunk))⟩) s =
      let found := findings target settings token window topN
        (Recorded.find logs (transferQuery token window)) s
      (.ok { found.1 with chunksTotal := (window.chunks size).length, chunksFailed := 0 },
        found.2) := by
  have hdiagnostics := chunkDiagnostics_of_ok (window.chunks size) fun chunk =>
    Recorded.find logs (transferQuery token chunk)
  rw [conclude_eq_ok (by rw [hdiagnostics, List.length_nil]; omega), hdiagnostics,
    fetchedLogs_of_find logs token window hsize, List.length_map]
  rfl

/-- **The survey of a ledger without failures** leads to what the logs of its window lead to, in
however many chunks they are fetched. -/
theorem survey_of_calm (target : Option (Registry ρ)) (settings : Settings) (request : ScanRequest)
    {w : World Recorded ρ} (hcalm : w.ledger.state.failures = []) (hsize : 0 < settings.chunkSize)
    (hdelay : w.ledger.state.logDelay.getD 0 ≤ settings.callTimeout) :
    let r := w.ledger.state
    let window := r.windowOf settings request
    let found := findings target settings request.token window
      (request.topN.getD settings.topN) (Recorded.find r.logs (transferQuery request.token window))
      w.registry
    (survey Recorded.ledger target settings request w).1 =
      .ok { found.1 with
        chunksTotal := (window.chunks settings.chunkSize).length
        chunksFailed := 0 } ∧
    (survey Recorded.ledger target settings request w).2.registry = found.2 := by
  intro r window found
  -- without failures, what is to become of each chunk is that its logs are found
  have hverdict : ∀ chunk, verdict settings r request.token chunk =
      .ok (Recorded.find r.logs (transferQuery request.token chunk)) := by
    intro chunk
    rw [verdict, show r.failures = [] from hcalm]
    rfl
  have hstanding : Standing r.failures := by
    rw [show r.failures = [] from hcalm]
    exact List.forall_mem_nil _
  rw [survey_of_window target (Recorded.resolveWindow_eq settings request w.ledger)]
  simp only [fetchChunks_standing hstanding hdelay]
  simp only [show w.ledger.state = r from rfl, hverdict]
  rw [conclude_of_find _ _ _ _ _ _ _ hsize]
  exact ⟨rfl, rfl⟩

/-- The scan of a ledger without failures finds what the logs of its window amount to. -/
theorem scan_of_calm (settings : Settings) (request : ScanRequest) {c : Clocked Recorded}
    (hcalm : c.state.failures = []) (hsize : 0 < settings.chunkSize)
    (hdelay : c.state.logDelay.getD 0 ≤ settings.callTimeout) :
    let window := c.state.windowOf settings request
    (scan Recorded.ledger settings request c).1 =
      .ok { logFindings settings request.token window (request.topN.getD settings.topN)
          (Recorded.find c.state.logs (transferQuery request.token window)) with
        chunksTotal := (window.chunks settings.chunkSize).length
        chunksFailed := 0 } := by
  intro window
  -- a scan is a survey without a registry
  have hsurvey := (survey_of_calm none settings request (w := ⟨c, ()⟩) hcalm hsize hdelay).1
  rw [findings, linkAll, List.append_nil] at hsurvey
  exact hsurvey

end TokenAudit
