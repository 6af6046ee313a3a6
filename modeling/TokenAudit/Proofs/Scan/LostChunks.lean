import Mathlib.Data.List.Forall2
import TokenAudit.Proofs.Scan.Partition
import TokenAudit.Proofs.Scan.Standing
import TokenAudit.Registry.Memory

/-! # Lost chunks

A chunk that meets a failure that lasts for ever is lost. A survey puts up with lost chunks: it
finds what it would find if there were no logs in them, and notes each of them before everything
else.

* `lostChunks` and `IsLossNote` — the chunks that are lost, and how each is noted;
* `Recorded.without` — the records as a survey that lost chunks sees them;
* `fetchedLogs_verdict`, `forall₂_chunkDiagnostics_verdict` — the logs and the notes that chunks
  with their verdicts leave.

Main statement: `survey_with_losses`. -/

namespace TokenAudit

variable {ρ : Type}

/-- The chunks that meet a failure. -/
def lostChunks (failures : List RangeFailure) (chunks : List Window) : List Window :=
  chunks.filter fun chunk => failures.any fun f => f.range.overlaps chunk

/-- Whether a diagnostic notes the loss of a chunk: with the failure that the chunk meets first, and
with one request if that is not worth another, else with all that may be made. -/
def IsLossNote (settings : Settings) (failures : List RangeFailure) (chunk : Window)
    (note : Diagnostic) : Prop :=
  ∃ f, Recorded.met failures chunk = some f ∧
    note = .chunkFailed chunk (if f.code.isRetryable then settings.chunkRetries + 1 else 1)
      f.code.name (f.faultAt chunk).message

/-- A chunk meets a failure exactly when there is one that it meets first. -/
theorem any_overlaps_eq (failures : List RangeFailure) (chunk : Window) :
    (failures.any fun f => f.range.overlaps chunk) = (Recorded.met failures chunk).isSome := by
  rw [Bool.eq_iff_iff, List.any_eq_true, Recorded.met, List.find?_isSome]

/-- The chunks that are lost are those that some failure meets. -/
theorem mem_lostChunks {failures : List RangeFailure} {chunks : List Window} {chunk : Window} :
    chunk ∈ lostChunks failures chunks ↔
      chunk ∈ chunks ∧ (Recorded.met failures chunk).isSome = true := by
  rw [lostChunks, List.mem_filter, any_overlaps_eq]

/-! ## Records without lost chunks -/

namespace Recorded

/-- Whether a record is a log of a token in one of some chunks. -/
def InChunks (token : Address) (chunks : List Window) (entry : Address × Log) : Bool :=
  entry.1 == token &&
    chunks.any fun chunk => entry.2.blockNumber.any fun block => decide (chunk.Holds block)

/-- The records without failures, and without a token's logs in some chunks. -/
def without (r : Recorded) (token : Address) (lost : List Window) : Recorded :=
  { r with failures := [], logs := r.logs.filter fun entry => !InChunks token lost entry }

/-- A record that is asked for is of the token that is asked for, and in a block of the chunk. -/
theorem holds_of_matches {token : Address} {chunk : Window} {entry : Address × Log}
    (h : Matches (transferQuery token chunk) entry = true) :
    entry.1 = token ∧ ∃ block, entry.2.blockNumber = some block ∧ chunk.Holds block := by
  obtain ⟨block, hblock, hholds⟩ := blockNumber_of_matches h
  rw [Matches, Bool.and_eq_true, Bool.and_eq_true, beq_iff_eq] at h
  exact ⟨h.1.1, block, hblock, hholds⟩

/-- No log is left in a chunk that is left out. -/
theorem find_without_of_mem {r : Recorded} {token : Address} {lost : List Window} {chunk : Window}
    (hlost : chunk ∈ lost) :
    find (r.without token lost).logs (transferQuery token chunk) = [] := by
  have hnone : (r.without token lost).logs.filter (Matches (transferQuery token chunk)) = [] := by
    -- whatever is asked for in a lost chunk is a log of the token there, and those are left out
    refine List.filter_eq_nil_iff.2 fun entry hentry hmatches => ?_
    obtain ⟨htoken, block, hblock, hholds⟩ := holds_of_matches hmatches
    have hin : InChunks token lost entry = true := by
      rw [InChunks, htoken, hblock, beq_self_eq_true, Bool.true_and, List.any_eq_true]
      exact ⟨chunk, hlost, by simpa using hholds⟩
    have hkept := (List.mem_filter.1 hentry).2
    rw [hin] at hkept
    cases hkept
  rw [find, hnone, List.map_nil, List.mergeSort_nil]

/-- The logs of a chunk that shares no block with those left out are all left. -/
theorem find_without_of_apart {r : Recorded} {token : Address} {lost : List Window} {chunk : Window}
    (hapart : ∀ other ∈ lost, ∀ block, other.Holds block → ¬ chunk.Holds block) :
    find (r.without token lost).logs (transferQuery token chunk) =
      find r.logs (transferQuery token chunk) := by
  have hsame : (r.without token lost).logs.filter (Matches (transferQuery token chunk)) =
      r.logs.filter (Matches (transferQuery token chunk)) := by
    rw [without, List.filter_filter]
    refine List.filter_congr fun entry _ => ?_
    cases hmatches : Matches (transferQuery token chunk) entry with
    | false => rfl
    | true =>
      obtain ⟨-, block, hblock, hholds⟩ := holds_of_matches hmatches
      have hout : InChunks token lost entry = false := by
        rw [InChunks, hblock, Bool.and_eq_false_iff, List.any_eq_false]
        refine Or.inr fun other hother => ?_
        have hnot := fun hin => hapart other hother block hin hholds
        simpa using hnot
      rw [hout]
      rfl
  rw [find, hsame, find]

end Recorded

/-! ## Chunks with their verdicts -/

/-- What is had of a chunk is what its logs are where lost chunks have none. -/
theorem toOption_verdict {settings : Settings} {r : Recorded} {token : Address}
    {window chunk : Window} {size : Nat} (hchunk : chunk ∈ window.chunks size) :
    (verdict settings r token chunk).toOption.getD [] =
      Recorded.find (r.without token (lostChunks r.failures (window.chunks size))).logs
        (transferQuery token chunk) := by
  cases hmet : Recorded.met r.failures chunk with
  | none =>
    rw [verdict, hmet, Recorded.find_without_of_apart]
    · rfl
    · -- a block of this chunk and of a lost one would make them the same chunk
      intro other hother block hin hholds
      obtain ⟨hmem, hmeets⟩ := mem_lostChunks.1 hother
      rw [Window.eq_of_holds_chunks hmem hchunk hin hholds, hmet] at hmeets
      cases hmeets
  | some f =>
    have hlost : chunk ∈ lostChunks r.failures (window.chunks size) := by
      refine mem_lostChunks.2 ⟨hchunk, ?_⟩
      rw [hmet]
      rfl
    rw [verdict, hmet, Recorded.find_without_of_mem hlost]
    rfl

/-- The logs that are had are those of the window where lost chunks have none. -/
theorem fetchedLogs_verdict (settings : Settings) (r : Recorded) (token : Address) (window : Window)
    {size : Nat} (hsize : 0 < size) :
    fetchedLogs ((window.chunks size).map fun chunk => ⟨chunk, verdict settings r token chunk⟩) =
      Recorded.find (r.without token (lostChunks r.failures (window.chunks size))).logs
        (transferQuery token window) := by
  rw [fetchedLogs, List.flatMap_map, ← Recorded.find_flatMap_chunks _ _ hsize, List.flatMap,
    List.flatMap]
  congr 1
  exact List.map_congr_left fun chunk hchunk => toOption_verdict hchunk

/-- The lost chunks are noted one by one, in the order of the chunks. -/
theorem forall₂_chunkDiagnostics_verdict (settings : Settings) (r : Recorded) (token : Address)
    (chunks : List Window) :
    List.Forall₂ (IsLossNote settings r.failures) (lostChunks r.failures chunks)
      (chunkDiagnostics (chunks.map fun chunk => ⟨chunk, verdict settings r token chunk⟩)) := by
  induction chunks with
  | nil => exact List.Forall₂.nil
  | cons chunk rest ih =>
    rw [lostChunks, List.filter_cons, any_overlaps_eq, List.map_cons, chunkDiagnostics,
      List.filterMap_cons, verdict]
    cases hmet : Recorded.met r.failures chunk with
    | none => exact ih
    | some f => exact List.Forall₂.cons ⟨f, hmet, rfl⟩ ih

/-! ## Whole surveys -/

/-- When some chunk is not lost, or there is none, a survey leads to what the logs lead to where
lost chunks have none, with the notes of the lost chunks before everything else. -/
theorem conclude_of_losses (target : Option (Registry ρ)) (settings : Settings) (r : Recorded)
    (token : Address) (window : Window) (topN : Nat) (s : ρ) {size : Nat} (hsize : 0 < size)
    (hleft : lostChunks r.failures (window.chunks size) ≠ window.chunks size ∨
      lostChunks r.failures (window.chunks size) = []) :
    let results : List ChunkResult :=
      (window.chunks size).map fun chunk => ⟨chunk, verdict settings r token chunk⟩
    let lost := lostChunks r.failures (window.chunks size)
    let found := findings target settings token window topN
      (Recorded.find (r.without token lost).logs (transferQuery token window)) s
    conclude target settings token window topN results s =
      (.ok { found.1 with
        chunksTotal := (window.chunks size).length
        chunksFailed := lost.length
        diagnostics := chunkDiagnostics results ++ found.1.diagnostics }, found.2) := by
  intro results lost found
  have hnotes : (chunkDiagnostics results).length = lost.length :=
    (forall₂_chunkDiagnostics_verdict settings r token _).length_eq.symm
  have htotal : results.length = (window.chunks size).length := List.length_map _
  have hnotAll : ¬ (0 < results.length ∧ (chunkDiagnostics results).length = results.length) := by
    -- as many notes as chunks would mean that every chunk is lost
    rintro ⟨hpos, hall⟩
    rw [hnotes, htotal] at hall
    rcases hleft with hsome | hnone
    · exact hsome (List.filter_sublist.eq_of_length hall)
    · rw [show lost = [] from hnone, List.length_nil] at hall
      omega
  rw [conclude_eq_ok hnotAll, hnotes, htotal, fetchedLogs_verdict settings r token window hsize]

/-- **A lost chunk counts as an empty one.** When failures last for ever, a survey says what a
survey says of the records without those failures and without the token's logs in the chunks that
meet them, but for the number of failed chunks and their notes, one for each in the order of blocks,
before everything else; and it leaves the same registry. When every chunk is lost, and there is one,
it fails and leaves the registry as it was. -/
theorem survey_with_losses (target : Option (Registry ρ)) (settings : Settings)
    (request : ScanRequest) (w : World Recorded ρ) (hstanding : Standing w.ledger.state.failures)
    (hsize : 0 < settings.chunkSize)
    (hdelay : w.ledger.state.logDelay.getD 0 ≤ settings.callTimeout) :
    let r := w.ledger.state
    let chunks := (r.windowOf settings request).chunks settings.chunkSize
    let lost := lostChunks r.failures chunks
    let calm : World Recorded ρ :=
      { w with ledger := { w.ledger with state := r.without request.token lost } }
    (lost ≠ chunks ∨ lost = [] →
      ∃ (found : Snapshot) (notes : List Diagnostic),
        (survey Recorded.ledger target settings request calm).1 = .ok found ∧
        (survey Recorded.ledger target settings request w).1 =
          .ok { found with
            chunksFailed := lost.length
            diagnostics := notes ++ found.diagnostics } ∧
        (survey Recorded.ledger target settings request w).2.registry =
          (survey Recorded.ledger target settings request calm).2.registry ∧
        found.chunksFailed = 0 ∧ (∀ d ∈ found.diagnostics, ¬ d.IsChunkFailed) ∧
        List.Forall₂ (IsLossNote settings r.failures) lost notes) ∧
    (lost ≠ [] → lost = chunks →
      ∃ fault, (survey Recorded.ledger target settings request w).1 = .error fault ∧
        fault.code = .noEndpoints ∧
        (survey Recorded.ledger target settings request w).2.registry = w.registry) ∧
    lost.Pairwise fun earlier later => earlier.last < later.first := by
  intro r chunks lost calm
  have hsurvey := survey_of_window target (Recorded.resolveWindow_eq settings request w.ledger)
  simp only [fetchChunks_standing hstanding hdelay] at hsurvey
  have hnotes := forall₂_chunkDiagnostics_verdict settings r request.token chunks
  refine ⟨fun hleft => ?_, fun hsome hall => ?_, ?_⟩
  · -- some chunks are left, or none is lost
    obtain ⟨hcalm, hcalmRegistry⟩ :=
      survey_of_calm target settings request (w := calm) rfl hsize hdelay
    rw [conclude_of_losses _ _ _ _ _ _ _ hsize hleft] at hsurvey
    rw [hsurvey]
    exact ⟨_, _, hcalm, rfl, hcalmRegistry.symm, rfl, fun d hd => not_isChunkFailed_of_findings hd,
      hnotes⟩
  · -- all chunks are lost, and there are some
    have hpos : 0 < chunks.length := by
      rw [← hall]
      exact List.length_pos_iff.2 hsome
    rw [conclude_eq_error] at hsurvey
    · rw [hsurvey]
      exact ⟨_, rfl, rfl, rfl⟩
    · rw [List.length_map, ← hnotes.length_eq]
      exact ⟨hpos, congrArg List.length hall⟩
  · exact (Window.pairwise_chunks _ _).sublist List.filter_sublist

/-- Records of three transfers of one token, with two failures of which both meet the second of
three chunks. -/
def lossyRecords : Recorded where
  head := 14
  logs := [1, 7, 12].map fun block => (default, ⟨[Transfer.topic], "0x", some block⟩)
  failures := [⟨⟨6, 8⟩, .timedOut, none⟩, ⟨⟨7, 20⟩, .rpcError, none⟩]

/-- The second and the third chunk are lost, and each is noted with the first failure that meets
it. -/
theorem survey_with_losses_in_two_chunks :
    let settings : Settings := { chunkSize := 5 }
    let request : ScanRequest := { token := default, first := some 0 }
    let w : World Recorded Memory := ⟨.start lossyRecords, {}⟩
    Standing lossyRecords.failures ∧ 0 < settings.chunkSize ∧
      lossyRecords.logDelay.getD 0 ≤ settings.callTimeout ∧
      ∃ (found : Snapshot) (notes : List Diagnostic),
        (survey Recorded.ledger (some Memory.registry) settings request w).1 =
          .ok { found with chunksFailed := 2, diagnostics := notes ++ found.diagnostics } ∧
        List.Forall₂ (IsLossNote settings lossyRecords.failures) [⟨5, 9⟩, ⟨10, 14⟩] notes := by
  intro settings request w
  have hstanding : Standing lossyRecords.failures := by
    rintro f (_ | ⟨_, _ | ⟨_, hf⟩⟩)
    · rfl
    · rfl
    · cases hf
  have hchunks : (lossyRecords.windowOf settings request).chunks settings.chunkSize =
      [⟨0, 4⟩, ⟨5, 9⟩, ⟨10, 14⟩] := by
    simp [Window.chunks, Window.chunksFrom, Recorded.windowOf, lossyRecords, settings, request]
  have hlost : lostChunks lossyRecords.failures [⟨0, 4⟩, ⟨5, 9⟩, ⟨10, 14⟩] =
      [⟨5, 9⟩, ⟨10, 14⟩] := by decide
  have hsurvey := survey_with_losses (some Memory.registry) settings request w hstanding
    (by decide) (by decide)
  dsimp only at hsurvey
  rw [show w.ledger.state = lossyRecords from rfl, hchunks, hlost] at hsurvey
  obtain ⟨found, notes, -, hfound, -, -, -, hnotes⟩ := hsurvey.1 (Or.inl (by decide))
  exact ⟨hstanding, by decide, by decide, found, notes, hfound, hnotes⟩

end TokenAudit
