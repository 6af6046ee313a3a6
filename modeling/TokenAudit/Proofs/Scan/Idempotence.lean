import TokenAudit.Proofs.Registry.Relinking
import TokenAudit.Proofs.Scan.Accounts
import TokenAudit.Proofs.Scan.Standing

/-! # The same reconstruction again

Holders are reconstructed from a ledger and linked in memory. The listed holders are different
accounts, so each of them ends up with one record and one link, and when the same holders are
reconstructed again, there is nothing left to write, whatever the policy on balances is and whatever
earlier reconstructions left in the registry.

* `nodup_holders` — the holders of a replay are different accounts;
* `reconstruct_of_window` — once its window is known, a reconstruction hangs on the results of its
  chunks;
* `Recorded.chunkResults_again` — a ledger whose failures last for ever answers the second time like
  the first.

Main statement: `reconstruct_idempotent`. -/

namespace TokenAudit

variable {σ ρ : Type}

/-! ## Different accounts -/

/-- Ranked holders are different accounts, if the balances are of different accounts. -/
theorem nodup_rankHolders {balances : List (Address × Int)} (h : (balances.map Prod.fst).Nodup) :
    ((rankHolders balances).map HolderBalance.address).Nodup := by
  rw [rankHolders, ((List.mergeSort_perm _ _).map HolderBalance.address).nodup_iff, List.map_map]
  exact h.sublist (List.filter_sublist.map Prod.fst)

/-- The holders of a replay are different accounts. -/
theorem nodup_holders (r : Replay) : (r.holders.map HolderBalance.address).Nodup :=
  nodup_rankHolders r.balances.nodup_keys

/-! ## From the results of chunks -/

/-- A window whose bounds are given is not asked for. -/
theorem resolveWindow_of_given (ledger : Ledger σ) (settings : Settings) {request : ScanRequest}
    {first last : Nat} (hfirst : request.first = some first) (hlast : request.last = some last)
    (c : Clocked σ) :
    resolveWindow ledger settings request.first request.last c = (.ok ⟨first, last⟩, c) := by
  rw [hfirst, hlast]
  rfl

/-- Once its window is known, a reconstruction hangs on the results of its chunks. -/
theorem reconstruct_of_window {ledger : Ledger σ} (registry : Registry ρ) {settings : Settings}
    {request : ScanRequest} {w : World σ ρ} {c : Clocked σ} {window : Window}
    (h : resolveWindow ledger settings request.first request.last w.ledger = (.ok window, c)) :
    let concluded := conclude (some registry) settings request.token window
      (request.topN.getD settings.topN) (chunkResults ledger settings request w.ledger) w.registry
    (reconstruct ledger registry settings request w).1 = concluded.1 ∧
      (reconstruct ledger registry settings request w).2.registry = concluded.2 := by
  have hsurvey := survey_of_window (some registry) h
  rw [chunkResults, h]
  change reconstruct ledger registry settings request w = _ at hsurvey
  rw [hsurvey]
  exact ⟨rfl, rfl⟩

/-- What the results of chunks lead to in memory: there is a snapshot, which says the same whatever
the registry holds, and its holders are linked; or there is a fault, and nothing changes. -/
theorem conclude_memory (settings : Settings) (token : Address) (window : Window) (topN : Nat)
    (results : List ChunkResult) :
    (∃ fault, ∀ m, conclude (some Memory.registry) settings token window topN results m =
      (.error fault, m)) ∨
    ∃ snapshot : Snapshot, (snapshot.topHolders.map HolderBalance.address).Nodup ∧
      ∀ m, conclude (some Memory.registry) settings token window topN results m =
        (.ok snapshot,
          (linkHolders Memory.registry settings.linkPolicy token snapshot.topHolders m).2) := by
  by_cases hlost : 0 < results.length ∧ (chunkDiagnostics results).length = results.length
  · exact Or.inl ⟨_, fun m => conclude_eq_error hlost⟩
  · obtain ⟨-, -, htop, -⟩ := logFindings_spec settings token window topN (fetchedLogs results)
    refine Or.inr ⟨{ logFindings settings token window topN (fetchedLogs results) with
      chunksTotal := results.length
      chunksFailed := (chunkDiagnostics results).length
      diagnostics := chunkDiagnostics results ++
        (logFindings settings token window topN (fetchedLogs results)).diagnostics },
      ?_, fun m => ?_⟩
    · show ((logFindings settings token window topN (fetchedLogs results)).topHolders.map _).Nodup
      rw [htop]
      exact (nodup_holders _).sublist ((List.take_sublist ..).map _)
    · rw [conclude_eq_ok hlost]
      -- in memory each holder is linked, and nothing is noted about it
      simp only [findings, linkAll, Memory.linkHolders_fst_eq_nil, List.append_nil]

/-- **A ledger whose failures last for ever answers the second time like the first**: a
reconstruction leaves its records as they are, so that every chunk comes to the same verdict
again. -/
theorem Recorded.chunkResults_again {settings : Settings} {request : ScanRequest} {first last : Nat}
    (hfirst : request.first = some first) (hlast : request.last = some last) (registry : Registry ρ)
    {w : World Recorded ρ} (hstanding : Standing w.ledger.state.failures)
    (hdelay : w.ledger.state.logDelay.getD 0 ≤ settings.callTimeout) :
    chunkResults ledger settings request (reconstruct ledger registry settings request w).2.ledger =
      chunkResults ledger settings request w.ledger := by
  have hwindow := resolveWindow_of_given ledger settings hfirst hlast
  have hsurvey := survey_of_window (some registry) (hwindow w.ledger)
  change reconstruct ledger registry settings request w = _ at hsurvey
  obtain ⟨hsame, -⟩ := course_of_standing request.token
    (Window.chunks ⟨first, last⟩ settings.chunkSize) hstanding hdelay
  -- what a chunk comes to is decided by the records, and those are still the same
  rw [hsurvey, chunkResults, chunkResults, hwindow, hwindow]
  dsimp only
  rw [fetchChunks_standing hstanding hdelay, fetchChunks_standing (by rw [hsame]; exact hstanding)
    (by rw [hsame]; exact hdelay), hsame]
  rfl

/-! ## Linking again -/

/-- Linking settled holders finds each of them linked. -/
theorem linkReports_of_settled {policy : LinkPolicy} {token : Address}
    {holders : List HolderBalance} {m : Memory}
    (h : ∀ holder ∈ holders, m.Settled policy token holder) :
    ∀ entry ∈ (linkReports Memory.registry policy token holders m).1,
      ∃ report : LinkReport, entry.2 = .ok report ∧ report.newIdentity = false ∧
        report.link = .unchanged := by
  induction holders with
  | nil => exact fun _ hmem => absurd hmem List.not_mem_nil
  | cons holder rest ih =>
    rw [List.forall_mem_cons] at h
    obtain ⟨report, hnew, hlink, hrun⟩ := Memory.linkHolder_of_settled h.1
    rw [linkReports]
    simp only [bind, StateT.bind]
    rw [show (linkHolder Memory.registry policy token holder.address holder.balance).run m =
      (.ok report, m) from hrun]
    refine List.forall_mem_cons.2 ⟨⟨report, rfl, hnew, hlink⟩, ih h.2⟩

/-- **Reconstructing the same holders again changes nothing.** The window is given, and the registry
is one that requests were served with. If a reconstruction fails, the registry is as before.
Otherwise each listed holder has one record and one link to the token, with the balance that the
policy settles on; other accounts have the records and links that they had, and links to other
tokens are the same.

If the chunks come out the same a second time, then so does the whole reconstruction: it leaves
holders, accounts and links as they are, and finds the link of each listed holder unchanged. -/
theorem reconstruct_idempotent {ledger : Ledger σ} {settings : Settings} {request : ScanRequest}
    {first last : Nat} (hfirst : request.first = some first) (hlast : request.last = some last)
    {events : List (Registry.Request × Registry.Response)} {w : World σ Memory}
    (hran : Memory.Ran {} events w.registry) (hsupply : w.registry.HasSupply) {c : Clocked σ}
    (hsame : chunkResults ledger settings request c = chunkResults ledger settings request w.ledger)
    (issued : Nat) (now : Moment) :
    let once := reconstruct ledger Memory.registry settings request w
    let m := once.2.registry
    let twice := reconstruct ledger Memory.registry settings request ⟨c, m.supplied issued now⟩
    (∀ fault, once.1 = .error fault → m = w.registry) ∧
    (∀ snapshot, once.1 = .ok snapshot →
      (∀ holder ∈ snapshot.topHolders, ∃ record link,
        m.addresses.values.filter (fun other => other.address = holder.address) = [record] ∧
        m.links.values.filter
          (fun other => (other.addressId, other.token) = (record.id, request.token)) = [link] ∧
        link.balance = settings.linkPolicy.settle
          (w.registry.balanceOf? request.token holder.address) holder.balance) ∧
      (∀ address, address ∉ snapshot.topHolders.map HolderBalance.address →
        m.addresses.get? address = w.registry.addresses.get? address ∧
        ∀ record, m.addresses.get? address = some record → ∀ token,
          m.links.get? (record.id, token) = w.registry.links.get? (record.id, token)) ∧
      (∀ id token, token ≠ request.token →
        m.links.get? (id, token) = w.registry.links.get? (id, token)) ∧
      ∀ entry ∈ (linkReports Memory.registry settings.linkPolicy request.token snapshot.topHolders
          (m.supplied issued now)).1,
        ∃ report : LinkReport, entry.2 = .ok report ∧ report.newIdentity = false ∧
          report.link = .unchanged) ∧
    twice.1 = once.1 ∧ twice.2.registry = m.supplied issued now := by
  intro once m twice
  have hwindow := resolveWindow_of_given ledger settings hfirst hlast
  obtain ⟨honce, hm⟩ := reconstruct_of_window Memory.registry (w := w) (hwindow w.ledger)
  obtain ⟨htwice, hm'⟩ := reconstruct_of_window Memory.registry
    (w := ⟨c, m.supplied issued now⟩) (hwindow c)
  dsimp only at htwice hm'
  rw [hsame] at htwice hm'
  -- both times the same results are concluded from, on different registries
  rcases conclude_memory settings request.token ⟨first, last⟩ (request.topN.getD settings.topN)
      (chunkResults ledger settings request w.ledger) with ⟨fault, hlost⟩ | ⟨found, hnodup, hfound⟩
  · rw [hlost] at honce hm htwice hm'
    refine ⟨fun _ _ => hm, fun snapshot hok => ?_, htwice.trans honce.symm, hm'⟩
    rw [show once.1 = _ from honce] at hok
    cases hok
  · rw [hfound] at honce hm htwice hm'
    have hrelinked : Memory.Relinked settings.linkPolicy request.token found.topHolders
        w.registry m := by
      rw [show m = _ from hm]
      exact Memory.relinked_linkHolders settings.linkPolicy request.token hnodup
        (Memory.consistent_empty.of_ran hran) hsupply
    -- the next identifier and the time do not matter to what is noted
    have hsettled : ∀ holder ∈ found.topHolders,
        (m.supplied issued now).Settled settings.linkPolicy request.token holder :=
      fun holder hmem => hrelinked.settled hmem
    refine ⟨fun fault hfault => ?_, fun snapshot hok => ?_, htwice.trans honce.symm,
      hm'.trans (Memory.linkHolders_of_settled hsettled)⟩
    · rw [show once.1 = _ from honce] at hfault
      cases hfault
    · rw [show once.1 = _ from honce] at hok
      cases hok
      exact ⟨fun holder hmem => hrelinked.entries_of_holder hmem,
        fun address haddress => ⟨hrelinked.addresses address haddress,
          fun record hrecord token => hrelinked.links_of_not_mem haddress hrecord token⟩,
        fun id token hne => hrelinked.links id token fun heq => absurd heq hne,
        linkReports_of_settled hsettled⟩

/-- Records of one transfer, of five pieces of a token. -/
def mintRecords : Recorded where
  head := 9
  logs := [(default,
    ⟨[Transfer.topic, "0x0000000000000000000000000000000000000000000000000000000000000000",
      "0x0101010101010101010101010101010101010101010101010101010101010101"], "0x05", some 3⟩)]

/-- After the first scan the one holder has one record and one link, and a second scan changes
nothing. -/
theorem reconstruct_idempotent_of_mintRecords :
    let request : ScanRequest := { token := default, first := some 0, last := some 9 }
    let w : World Recorded Memory := ⟨.start mintRecords, {}⟩
    let once := reconstruct Recorded.ledger Memory.registry {} request w
    let m := once.2.registry
    let twice := reconstruct Recorded.ledger Memory.registry {} request
      ⟨once.2.ledger, m.supplied 7 ⟨60, 0⟩⟩
    ∃ record link,
      m.addresses.values.filter (fun other => other.address = Address.repeating 1) = [record] ∧
      m.links.values.filter (fun other => (other.addressId, other.token) = (record.id, default)) =
        [link] ∧
      link.balance = 5 ∧ twice.1 = once.1 ∧ twice.2.registry = m.supplied 7 ⟨60, 0⟩ := by
  intro request w once m twice
  have hstanding : Standing mintRecords.failures := List.forall_mem_nil _
  have hsame : chunkResults Recorded.ledger {} request once.2.ledger =
      chunkResults Recorded.ledger {} request w.ledger :=
    Recorded.chunkResults_again rfl rfl Memory.registry hstanding (by decide)
  obtain ⟨-, hlinked, hagain, hkept⟩ := reconstruct_idempotent (w := w) rfl rfl .start
    Memory.hasSupply_empty hsame 7 ⟨60, 0⟩
  -- nothing fails, so the holders are those of the recorded logs
  obtain ⟨honce, -⟩ := survey_of_calm (some Memory.registry) {} request (w := w) rfl (by decide)
    (by decide)
  obtain ⟨hholders, -⟩ := hlinked _ honce
  have hmem : ⟨Address.repeating 1, 5⟩ ∈ (logFindings {} default ⟨0, 9⟩ 10
      (Recorded.find mintRecords.logs (transferQuery default ⟨0, 9⟩))).topHolders := by
    rw [(logFindings_spec ..).2.2.1]
    decide +kernel
  obtain ⟨record, link, hrecord, hlink, hbalance⟩ := hholders _ hmem
  exact ⟨record, link, hrecord, hlink, hbalance, hagain, hkept⟩

end TokenAudit
