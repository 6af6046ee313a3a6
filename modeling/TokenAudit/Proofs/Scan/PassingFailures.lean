import Mathlib.Tactic.Set
import TokenAudit.Proofs.Scan.Standing
import TokenAudit.Registry.Memory

/-! # Fetching against failures that pass

Failures that pass are shared by all chunks: which chunk meets which of them hangs on the order of
the requests. But each failed request uses up one, so a chunk cannot have been asked for more often
than failures are gone, and when no more failures are injected than requests may be repeated, every
chunk is fetched in the end.

* `Stage.served` — the requests that no failure has used up;
* `Recorded.Recovering` — the records as they are but for the failures and the requests that are
  gone;
* `Recorded.Hopeful` — a stage from which there are still as many requests left as failures;
* `Recorded.recovering_advance` — one stage of one chunk, with the count of requests and failures;
* `fetchChunks_passing` — every chunk is fetched, in whatever order the chunks go on.

Main statement: `survey_with_passing_failures`. -/

namespace TokenAudit

variable {ρ : Type}

/-- How many of the requests for a chunk no failure has used up: the last one, once it is made. -/
def Stage.served {σ : Type} : Stage σ → Nat
  | .asking _ => 0
  | .answered .. | .overdue _ | .paced _ | .finished _ => 1

/-- How many requests no failure has used up, of all chunks together. -/
def totalServed {σ : Type} (course : List (Window × Stage σ)) : Nat :=
  (course.map fun p => p.2.served).sum

/-- Requests are counted part by part. -/
theorem totalServed_append {σ : Type} (before after : List (Window × Stage σ)) :
    totalServed (before ++ after) = totalServed before + totalServed after := by
  rw [totalServed, List.map_append, List.sum_append]
  rfl

/-- Requests are counted chunk by chunk. -/
theorem totalServed_cons {σ : Type} (p : Window × Stage σ) (rest : List (Window × Stage σ)) :
    totalServed (p :: rest) = p.2.served + totalServed rest := by
  rw [totalServed, List.map_cons, List.sum_cons]
  rfl

/-- For chunks that wait no request is made. -/
theorem totalServed_awaiting {σ : Type} (chunks : List Window) :
    totalServed (chunks.map (Window.awaiting (σ := σ))) = 0 := by
  induction chunks with
  | nil => rfl
  | cons chunk rest ih =>
    rw [List.map_cons, totalServed_cons, ih]
    rfl

/-- Of chunks that are done each has one request that no failure has used up. -/
theorem totalServed_arrived {σ : Type} (results : List ChunkResult) :
    totalServed (results.map (ChunkResult.arrived (σ := σ))) = results.length := by
  induction results with
  | nil => rfl
  | cons result rest ih =>
    rw [List.map_cons, totalServed_cons, ih, List.length_cons, Nat.add_comm]
    rfl

namespace Recorded

/-! ## One stage -/

/-- The answer of a ledger whose failures pass: the logs that are found, or a fault that tells to
try again and that uses up one of the failures. -/
theorem answerLogs_of_passing {r : Recorded} (h : Passing r.failures) (query : LogQuery) :
    answerLogs query r = (.ok (find r.logs query), r) ∨
      ∃ fault rest, answerLogs query r = (.error fault, { r with failures := rest }) ∧
        fault.isRetryable = true ∧ Passing rest ∧
        failuresLeft rest + 1 = failuresLeft r.failures := by
  obtain ⟨code, rest, hfire⟩ : ∃ code rest,
      fire ⟨query.first, query.last⟩ r.failures = (code, rest) := ⟨_, _, rfl⟩
  rw [answerLogs, hfire]
  cases code with
  | none => exact Or.inl rfl
  | some code =>
    obtain ⟨hretry, hpassing, hleft⟩ := fire_of_passing h hfire
    exact Or.inr ⟨_, rest, rfl, hretry, hpassing, hleft⟩

/-- The records are the same but for requests made and failures that are gone, and all that are left
pass. -/
structure Recovering (r s : Recorded) : Prop where
  same : s = { r with failures := s.failures, logQueries := s.logQueries }
  passing : Passing s.failures

/-- A stage of a chunk from which there are as many requests left as failures, or which needs no
more. -/
def Hopeful (settings : Settings) (r : Recorded) (token : Address) (chunk : Window) (left : Nat) :
    Stage Recorded → Prop
  | .asking attempt => attempt + left ≤ settings.chunkRetries + 1
  | .answered attempt settle =>
    attempt + left ≤ settings.chunkRetries + 1 ∧ settle = answerLogs (transferQuery token chunk)
  | .overdue _ => False
  | .paced outcome | .finished outcome => outcome = .ok (find r.logs (transferQuery token chunk))

/-- Fewer failures are no worse. -/
theorem Hopeful.mono {settings : Settings} {r : Recorded} {token : Address} {chunk : Window}
    {left less : Nat} {stage : Stage Recorded} (h : Hopeful settings r token chunk left stage)
    (hless : less ≤ left) : Hopeful settings r token chunk less stage := by
  cases stage with
  | asking attempt => exact Nat.le_trans (Nat.add_le_add_left hless attempt) h
  | answered attempt settle =>
    exact ⟨Nat.le_trans (Nat.add_le_add_left hless attempt) h.1, h.2⟩
  | overdue attempt => exact h
  | paced outcome => exact h
  | finished outcome => exact h

/-- **One stage of one chunk** keeps the records and the hope for the chunk. It uses up no failure
without using up a request: requests made and failures left change together by what is served. -/
theorem recovering_advance {settings : Settings} {r s : Recorded} {token : Address} {chunk : Window}
    {stage : Stage Recorded} (now : Nat) (hdelay : r.logDelay.getD 0 ≤ settings.callTimeout)
    (h : Recovering r s) (hhope : Hopeful settings r token chunk (failuresLeft s.failures) stage)
    (hopen : stage.outcome? = none) :
    let next := stage.advance ledger settings (transferQuery token chunk) now s
    Recovering r next.2 ∧ failuresLeft next.2.failures ≤ failuresLeft s.failures ∧
      Hopeful settings r token chunk (failuresLeft next.2.failures) next.1.2 ∧
      next.2.logQueries + failuresLeft next.2.failures + stage.served =
        s.logQueries + failuresLeft s.failures + next.1.2.served := by
  have hlogs : s.logs = r.logs := by rw [h.same]
  cases stage with
  | asking attempt =>
    rw [advance_asking _ _ _ (by rw [h.same]; exact hdelay)]
    refine ⟨⟨?_, h.passing⟩, Nat.le_refl _, ⟨hhope, rfl⟩, ?_⟩
    · rw [h.same]
    · show s.logQueries + 1 + failuresLeft s.failures + 0 =
        s.logQueries + failuresLeft s.failures + 1
      omega
  | answered attempt settle =>
    obtain ⟨hroom, rfl⟩ := hhope
    rcases answerLogs_of_passing h.passing (transferQuery token chunk) with
      hfound | ⟨fault, rest, hfailed, hretry, hpassing, hleft⟩
    · simp only [Stage.advance, hfound]
      refine ⟨h, Nat.le_refl _, ?_, rfl⟩
      show Except.ok _ = Except.ok _
      rw [hlogs]
    · -- a failure is gone, so among the requests left there is one more
      have hagain : fault.isRetryable = true ∧ attempt ≤ settings.chunkRetries :=
        ⟨hretry, by omega⟩
      simp only [Stage.advance, hfailed, Stage.judge, if_pos hagain]
      refine ⟨⟨?_, hpassing⟩, ?_, ?_, ?_⟩
      · rw [h.same]
      · omega
      · show attempt + 1 + failuresLeft rest ≤ settings.chunkRetries + 1
        omega
      · show s.logQueries + failuresLeft rest + 1 = s.logQueries + failuresLeft s.failures + 0
        omega
  | overdue attempt => exact hhope.elim
  | paced outcome => exact ⟨h, Nat.le_refl _, hhope, rfl⟩
  | finished outcome => cases hopen

end Recorded

/-! ## The whole fetch -/

/-- **Every chunk is fetched**, in whatever order the chunks go on, and there are as many requests
as chunks and failures that are gone. -/
theorem fetchChunks_passing {settings : Settings} (token : Address) (chunks : List Window)
    {c : Clocked Recorded} (hpassing : Passing c.state.failures)
    (hleft : failuresLeft c.state.failures ≤ settings.chunkRetries)
    (hdelay : c.state.logDelay.getD 0 ≤ settings.callTimeout) :
    let fetched := fetchChunks Recorded.ledger settings token chunks c
    fetched.1 = chunks.map (fun chunk =>
      ⟨chunk, .ok (Recorded.find c.state.logs (transferQuery token chunk))⟩) ∧
    failuresLeft fetched.2.state.failures ≤ failuresLeft c.state.failures ∧
    fetched.2.state.logQueries + failuresLeft fetched.2.state.failures =
      c.state.logQueries + failuresLeft c.state.failures + chunks.length := by
  intro fetched
  have hcourse := fetchChunks_induction
    (I := fun s course => Recorded.Recovering c.state s ∧
      failuresLeft s.failures ≤ failuresLeft c.state.failures ∧
      (∀ p ∈ course, Recorded.Hopeful settings c.state token p.1 (failuresLeft s.failures) p.2) ∧
      s.logQueries + failuresLeft s.failures =
        c.state.logQueries + failuresLeft c.state.failures + totalServed course)
    Recorded.ledger settings token chunks c ?_ ?_
  · obtain ⟨-, hfewer, hhopeful, hcount⟩ := hcourse
    have hwindows : fetched.1.map ChunkResult.window = chunks := fetchChunks_windows ..
    rw [totalServed_arrived] at hcount
    refine ⟨results_eq_map hwindows fun result hresult => ?_, hfewer, ?_⟩
    · exact hhopeful _ (List.mem_map_of_mem hresult)
    · have hlength : chunks.length = fetched.1.length := by
        rw [← List.length_map ChunkResult.window, hwindows]
      rw [hcount, hlength]
  · refine ⟨⟨rfl, hpassing⟩, Nat.le_refl _, fun p hp => ?_, ?_⟩
    · obtain ⟨chunk, -, rfl⟩ := List.mem_map.1 hp
      show 1 + failuresLeft c.state.failures ≤ settings.chunkRetries + 1
      omega
    · rw [totalServed_awaiting, Nat.add_zero]
  · intro s before chunk stage after now hopen ⟨hsame, hfewer, hhopeful, hcount⟩
    have hstage : Recorded.Hopeful settings c.state token chunk (failuresLeft s.failures) stage :=
      hhopeful (chunk, stage) (by simp)
    obtain ⟨hsame', hfewer', hhopeful', hcount'⟩ :=
      Recorded.recovering_advance now hdelay hsame hstage hopen
    refine ⟨hsame', Nat.le_trans hfewer' hfewer, ?_, ?_⟩
    · -- the others only gain by the failures that this one has used up
      exact forall_mem_advanced hhopeful (fun _ h => h.mono hfewer') hhopeful'
    · rw [totalServed_append, totalServed_cons] at hcount ⊢
      dsimp only at hcount ⊢
      omega

/-! ## Whole surveys -/

/-- **Failures that pass do not show.** When the failures pass, and are together no more than a
request may be repeated, a survey says exactly what it says of the same records without failures,
and leaves the same registry. No chunk failed, and for every chunk there was one request more than
failures it met: there were as many requests as chunks and failures that are gone. -/
theorem survey_with_passing_failures (target : Option (Registry ρ)) (settings : Settings)
    (request : ScanRequest) (w : World Recorded ρ) (hpassing : Passing w.ledger.state.failures)
    (hleft : failuresLeft w.ledger.state.failures ≤ settings.chunkRetries)
    (hsize : 0 < settings.chunkSize)
    (hdelay : w.ledger.state.logDelay.getD 0 ≤ settings.callTimeout) :
    let calm : World Recorded ρ :=
      { w with ledger := { w.ledger with state := { w.ledger.state with failures := [] } } }
    let after := (survey Recorded.ledger target settings request w).2
    ∃ (found : Snapshot) (fired : Nat),
      (survey Recorded.ledger target settings request calm).1 = .ok found ∧
      (survey Recorded.ledger target settings request w).1 = .ok found ∧
      after.registry = (survey Recorded.ledger target settings request calm).2.registry ∧
      found.chunksFailed = 0 ∧ (∀ d ∈ found.diagnostics, ¬ d.IsChunkFailed) ∧
      failuresLeft w.ledger.state.failures =
        failuresLeft after.ledger.state.failures + fired ∧
      after.ledger.state.logQueries = w.ledger.state.logQueries + found.chunksTotal + fired := by
  intro calm after
  set window := w.ledger.state.windowOf settings request with hwindow
  obtain ⟨hcalm, hcalmRegistry⟩ :=
    survey_of_calm target settings request (w := calm) rfl hsize hdelay
  have hsurvey := survey_of_window target (Recorded.resolveWindow_eq settings request w.ledger)
  -- what is fetched is what would be fetched without failures, and only the requests tell of them
  obtain ⟨hresults, hfewer, hcount⟩ := fetchChunks_passing request.token
    (window.chunks settings.chunkSize) hpassing hleft hdelay
  dsimp only at hsurvey
  rw [← hwindow, hresults, conclude_of_find _ _ _ _ _ _ _ hsize] at hsurvey
  obtain ⟨fired, hfired⟩ := Nat.exists_eq_add_of_le hfewer
  refine ⟨_, fired, hcalm, ?_, ?_, rfl, fun d hd => not_isChunkFailed_of_findings hd, ?_, ?_⟩
  · rw [hsurvey]
    rfl
  · rw [hcalmRegistry]
    show (survey Recorded.ledger target settings request w).2.registry = _
    rw [hsurvey]
    rfl
  · show _ = failuresLeft (survey Recorded.ledger target settings request w).2.ledger.state.failures
      + fired
    rw [hsurvey]
    exact hfired
  · show (survey Recorded.ledger target settings request w).2.ledger.state.logQueries =
      w.ledger.state.logQueries + (window.chunks settings.chunkSize).length + fired
    rw [hsurvey]
    dsimp only
    omega

/-- Records with two failures that pass, of which both meet one chunk. -/
def shakyRecords : Recorded where
  head := 14
  logs := [1, 7, 12].map fun block => (default, ⟨[Transfer.topic], "0x", some block⟩)
  failures := [⟨⟨6, 8⟩, .timedOut, some 1⟩, ⟨⟨7, 20⟩, .rateLimited, some 2⟩]
  logDelay := some 5

/-- With as many retries as there are failures left, no chunk is lost. -/
theorem survey_with_as_many_failures_as_retries :
    let settings : Settings := { chunkSize := 5, chunkRetries := 3, maxConcurrentChunks := 2 }
    let request : ScanRequest := { token := default, first := some 0 }
    let w : World Recorded Memory := ⟨.start shakyRecords, {}⟩
    Passing shakyRecords.failures ∧ failuresLeft shakyRecords.failures = settings.chunkRetries ∧
      0 < settings.chunkSize ∧ shakyRecords.logDelay.getD 0 ≤ settings.callTimeout ∧
      ∃ found : Snapshot,
        (survey Recorded.ledger (some Memory.registry) settings request w).1 = .ok found ∧
        found.chunksFailed = 0 := by
  intro settings request w
  have hpassing : Passing shakyRecords.failures := by
    rintro f (_ | ⟨_, _ | ⟨_, hf⟩⟩)
    · exact ⟨by decide, by decide⟩
    · exact ⟨by decide, by decide⟩
    · cases hf
  obtain ⟨found, fired, -, hfound, -, hfailed, -, -, -⟩ :=
    survey_with_passing_failures (some Memory.registry) settings request w hpassing (by decide)
      (by decide) (by decide)
  exact ⟨hpassing, by decide, by decide, by decide, found, hfound, hfailed⟩

end TokenAudit
