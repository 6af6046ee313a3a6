import TokenAudit.Proofs.Scan.Standing
import TokenAudit.Registry.Memory

/-! # Chunks of other sizes

How a window is cut into chunks, how many of them are on their way at once, and how long the pauses
are is nothing that a survey of a ledger without failures shows, but for the number of chunks.

* `Recorded.mapM_ask_logs` — queries for logs, one after the other.

Main statement: `survey_rechunked`. -/

namespace TokenAudit

variable {ρ : Type}

namespace Recorded

/-- Queries asked one after the other are each answered with the logs that are found. -/
theorem mapM_ask_logs {c : Clocked Recorded} (hcalm : c.state.failures = [])
    (queries : List LogQuery) :
    ((queries.mapM fun query => Ledger.ask (ledger.logs query)) c).1 =
      .ok (queries.map (find c.state.logs)) := by
  induction queries generalizing c with
  | nil => rfl
  | cons query rest ih =>
    -- the first query leaves the records as they are, so the others are asked of the same logs
    obtain ⟨c', hask, hsame⟩ := ask_logs_of_calm hcalm query
    have hlogs : c'.state.logs = c.state.logs := by rw [hsame]
    have hrest := ih (c := c') (by rw [hsame]; exact hcalm)
    rw [hlogs] at hrest
    obtain ⟨parts, c'', hparts⟩ : ∃ parts c'',
        (rest.mapM fun query => Ledger.ask (ledger.logs query)) c' = (parts, c'') := ⟨_, _, rfl⟩
    rw [hparts] at hrest
    dsimp only at hrest
    rw [List.mapM_cons]
    simp only [bind, ExceptT.bind, ExceptT.mk, StateT.bind, hask, ExceptT.bindCont, hparts, hrest]
    rfl

end Recorded

/-- **Surveys do not show how their windows were cut.** Of a ledger without failures, two surveys
with chunks of different sizes, a different number of them on their way at once, and different
pauses, say the same but for the number of chunks, and leave the same registry. Query by query, the
logs of the chunks are the logs of the window. -/
theorem survey_rechunked (target : Option (Registry ρ)) (settings : Settings)
    (request : ScanRequest) (w : World Recorded ρ) {size : Nat} (width pacing : Nat)
    (hcalm : w.ledger.state.failures = [])
    (hdelay : w.ledger.state.logDelay.getD 0 ≤ settings.callTimeout)
    (hchunk : 0 < settings.chunkSize) (hsize : 0 < size) :
    let other : Settings :=
      { settings with chunkSize := size, maxConcurrentChunks := width, chunkPacing := pacing }
    (∃ one two : Snapshot,
      (survey Recorded.ledger target settings request w).1 = .ok one ∧
      (survey Recorded.ledger target other request w).1 = .ok two ∧
      two = { one with chunksTotal := two.chunksTotal }) ∧
    (survey Recorded.ledger target other request w).2.registry =
      (survey Recorded.ledger target settings request w).2.registry ∧
    ∀ query : LogQuery, ∃ parts : List (List Log),
      (((Window.chunks ⟨query.first, query.last⟩ size).mapM fun chunk =>
        Ledger.ask (Recorded.ledger.logs { query with first := chunk.first, last := chunk.last }))
          w.ledger).1 = .ok parts ∧
      (Ledger.ask (Recorded.ledger.logs query) w.ledger).1 = .ok parts.flatten := by
  intro other
  -- both surveys lead to what the logs of the whole window lead to
  obtain ⟨hone, honeRegistry⟩ := survey_of_calm target settings request hcalm hchunk hdelay
  obtain ⟨htwo, htwoRegistry⟩ := survey_of_calm target other request hcalm hsize hdelay
  refine ⟨⟨_, _, hone, htwo, rfl⟩, htwoRegistry.trans honeRegistry.symm, fun query => ?_⟩
  have hparts := Recorded.mapM_ask_logs hcalm
    ((Window.chunks ⟨query.first, query.last⟩ size).map fun chunk =>
      { query with first := chunk.first, last := chunk.last })
  rw [List.mapM_map, List.map_map] at hparts
  obtain ⟨c', hwhole, -⟩ := Recorded.ask_logs_of_calm hcalm query
  refine ⟨_, hparts, ?_⟩
  rw [hwhole, ← Recorded.find_flatMap_chunks w.ledger.state.logs query hsize, List.flatMap]
  rfl

/-- Records of four transfers of one token, two of them in one block at the border of chunks. -/
def borderRecords : Recorded where
  head := 20
  logs := [9, 10, 10, 11].map fun block => (default, ⟨[Transfer.topic], "0x", some block⟩)
  logDelay := some 5

/-- A survey by chunks of five blocks and one block by block, three at once, come to the same
snapshot but for the number of chunks. -/
theorem survey_rechunked_at_border :
    let w : World Recorded Memory := ⟨.start borderRecords, {}⟩
    let request : ScanRequest := { token := default, first := some 0 }
    let usual : Settings := { chunkSize := 5 }
    let other : Settings :=
      { usual with chunkSize := 1, maxConcurrentChunks := 3, chunkPacing := 0 }
    borderRecords.failures = [] ∧ borderRecords.logDelay.getD 0 ≤ usual.callTimeout ∧
      0 < usual.chunkSize ∧ 0 < other.chunkSize ∧
      ∃ one two : Snapshot,
        (survey Recorded.ledger (some Memory.registry) usual request w).1 = .ok one ∧
        (survey Recorded.ledger (some Memory.registry) other request w).1 = .ok two ∧
        two = { one with chunksTotal := two.chunksTotal } :=
  ⟨rfl, by decide, by decide, by decide,
    (survey_rechunked (some Memory.registry) { chunkSize := 5 }
      { token := default, first := some 0 } ⟨.start borderRecords, {}⟩ 3 0 rfl (by decide)
      (by decide) (by decide)).1⟩

end TokenAudit
