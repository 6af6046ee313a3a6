import Mathlib.Data.List.Forall2
import TokenAudit.Proofs.Code.Checks
import TokenAudit.Proofs.Json.Members
import TokenAudit.Proofs.Profile.Atomicity
import TokenAudit.Proofs.Profile.Clearance
import TokenAudit.Proofs.Scan.Survey

/-! # Profiles and records

What an assessment finds out is said in several places: in the fields of the profile, in its
modules, and in the analyses that the registry keeps. They all say the same: the profile tells of
the code what the analysis of the code that was added says, and of the holders what the analysis of
the holders that was added says, or nothing if none was added.

* `nodup_flagNames`, `anomalies_of_scan` — nothing is flagged twice;
* `ContractEntry`, `HoldersEntry` — what a profile says about an area is what an analysis says;
* `Agreed` — profile and analyses say the same, and `AgreedOnNothing`, where there is no code.

Main statement: `assess_agrees`. -/

namespace TokenAudit

variable {σ ρ : Type}

/-! ## Nothing is flagged twice -/

/-- Nothing is flagged twice about a code. -/
theorem Code.nodup_flagNames (address : Address) (code : List UInt8) (settings : Settings) :
    (Code.analyze address code settings).flagNames.Nodup :=
  List.Nodup.sublist ((Code.flags_sublist address code settings).map Code.Flag.name) (by decide)

/-- A report that could be had is one on some code. -/
theorem analyzeCode_eq_ok {ledger : Ledger σ} {settings : Settings} {address : Address}
    {c c' : Clocked σ} {report : Code.Report}
    (h : analyzeCode ledger settings address c = (.ok report, c')) :
    ∃ code, report = Code.analyze address code settings := by
  rw [analyzeCode] at h
  rcases hcode : Ledger.askWithin (ledger.deadline settings.callTimeout) (ledger.code address) c
    with ⟨fault | code, c₁⟩
  · rw [Action.bind_of_error hcode] at h
    cases h
  · rw [Action.bind_of_ok hcode] at h
    cases hempty : code.isEmpty with
    | true =>
      rw [hempty] at h
      cases h
    | false =>
      rw [hempty] at h
      cases h
      exact ⟨code, rfl⟩

/-- Anomalies are found in order, each at most once. -/
theorem findAnomalies_sublist (figures : Concentration) (holders : Nat) (settings : Settings) :
    (findAnomalies figures holders settings).Sublist Anomaly.all := by
  have hone : ∀ (c : Prop) [Decidable c] (anomaly : Anomaly),
      (if c then [anomaly] else []).Sublist [anomaly] := by
    intro c _ anomaly
    split
    · exact List.Sublist.refl _
    · exact List.nil_sublist _
  exact ((hone _ _).append (hone _ _)).append (hone _ _)

/-- A snapshot that could be had names every anomaly at most once. -/
theorem anomalies_of_scan {ledger : Ledger σ} {settings : Settings} {request : ScanRequest}
    {c c' : Clocked σ} {snapshot : Snapshot}
    (h : scan ledger settings request c = (.ok snapshot, c')) :
    snapshot.anomalies.Sublist Anomaly.all := by
  have hlogs : ∀ window topN logs,
      (logFindings settings request.token window topN logs).anomalies.Sublist Anomaly.all := by
    intro window topN logs
    cases logs with
    | nil => exact List.nil_sublist _
    | cons log rest => exact findAnomalies_sublist ..
  -- with a snapshot, the scan got past its window and its chunks
  rcases hwindow : resolveWindow ledger settings request.first request.last c
    with ⟨fault | window, c₁⟩
  · rw [scan, Action.bind_of_error hwindow] at h
    cases h
  rw [scan_of_window hwindow] at h
  rcases hfetched : fetchChunks ledger settings request.token (window.chunks settings.chunkSize) c₁
    with ⟨results, c₂⟩
  rw [hfetched] at h
  have hsummary := congrArg Prod.fst h
  dsimp only at hsummary
  by_cases hfailed : 0 < results.length ∧ (chunkDiagnostics results).length = results.length
  · rw [summarize, if_pos hfailed] at hsummary
    cases hsummary
  · rw [summarize_eq_ok hfailed] at hsummary
    cases hsummary
    exact hlogs ..

/-- Nothing is flagged twice about the holders that were found, and in the order of anomalies. -/
theorem anomalies_of_holderFinding {ledger : Ledger σ} {settings : Settings} {token : Address}
    {c c' : Clocked σ} {snapshot : Snapshot}
    (h : holderFinding ledger settings token c = (.ok snapshot, c')) :
    snapshot.anomalies.Sublist Anomaly.all :=
  anomalies_of_scan h

/-- What is flagged about code and holders is flagged once. -/
theorem nodup_flags {report : Code.Report} (hcode : report.flagNames.Nodup)
    {anomalies : List Anomaly} (h : anomalies.Sublist Anomaly.all) :
    (report.flagNames ++ anomalies.map Anomaly.name).Nodup := by
  have hanomalies : (anomalies.map Anomaly.name).Nodup :=
    List.Nodup.sublist (h.map Anomaly.name) (by decide)
  refine List.nodup_append.2 ⟨hcode, hanomalies, ?_⟩
  rintro name hflag _ hanomaly rfl
  obtain ⟨flag, -, rfl⟩ := List.mem_map.1 hflag
  obtain ⟨anomaly, -, heq⟩ := List.mem_map.1 hanomaly
  exact anomaly.name_ne_flag flag heq

/-! ## What a profile says about an area -/

/-- The entry of a profile on the code says what a report says, and nothing else. -/
structure ContractEntry (report : Code.Report) (entry : Json) : Prop where
  riskScore : entry.get? "risk_score" = some (.nat report.riskScore)
  flags : entry.get? "flags" = some (.strs report.flagNames)
  evidence : entry.get? "evidence" = some (.strs report.evidence)
  bytecodeHash : entry.get? "bytecode_hash" = some (.str report.bytecodeHash)
  entropyBits : entry.get? "entropy_bits" = some (.float report.entropyBits)
  signatures : entry.get? "matched_function_signatures" = some (.strs report.signatures)
  bytecodeSize : entry.get? "bytecode_size" = some (.nat report.bytecodeSize)
  only : ∀ key, entry.get? key ≠ none → key ∈ ["risk_score", "flags", "evidence", "bytecode_hash",
    "entropy_bits", "matched_function_signatures", "bytecode_size"]

/-- An entry of a list of holders says which holder it is, and how much it holds. -/
structure HolderEntry (holder : HolderBalance) (entry : Json) : Prop where
  address : entry.get? "address" = some (.str holder.address.toText)
  balance : entry.get? "balance" = some (.str (toString holder.balance))
  only : ∀ key, entry.get? key ≠ none → key ∈ ["address", "balance"]

/-- The entry of a profile on the holders says what a snapshot says, of the same holders in the same
order, and nothing else. -/
structure HoldersEntry (snapshot : Snapshot) (entry : Json) : Prop where
  status : entry.get? "status" = some (.str snapshot.status.name)
  centralizationScore : entry.get? "centralization_score" =
    some (.float snapshot.centralizationScore)
  totalHolderCount : entry.get? "total_holder_count" = some (.nat snapshot.totalHolderCount)
  totalSupply : entry.get? "total_supply_calculated" = some (.str (toString snapshot.totalSupply))
  anomalies : entry.get? "anomalies" = some (.strs snapshot.anomalyNames)
  topHolders : ∃ entries, entry.get? "top_holders" = some (.arr entries) ∧
    List.Forall₂ HolderEntry snapshot.topHolders entries
  scannedFrom : entry.get? "scanned_from" = some (.nat snapshot.scanned.first)
  scannedTo : entry.get? "scanned_to" = some (.nat snapshot.scanned.last)
  chunksFailed : entry.get? "chunks_failed" = some (.nat snapshot.chunksFailed)
  only : ∀ key, entry.get? key ≠ none →
    key ∈ ["status", "centralization_score", "total_holder_count", "total_supply_calculated",
      "anomalies", "top_holders", "scanned_from", "scanned_to", "chunks_failed"]

/-- The summary of a report says what the report says. -/
theorem contractEntry_contractSummary (report : Code.Report) :
    ContractEntry report (contractSummary report) := by
  have hget : ∀ key, (contractSummary report).get? key = _ := Json.get?_sorted (by simp)
  exact
    { riskScore := hget _
      flags := hget _
      evidence := hget _
      bytecodeHash := hget _
      entropyBits := hget _
      signatures := hget _
      bytecodeSize := hget _
      only := fun key hkey => Json.mem_keys_of_lookup (hget key ▸ hkey) }

/-- The summary of a holder says which one it is, and how much it holds. -/
theorem holderEntry_holderSummary (holder : HolderBalance) :
    HolderEntry holder (holderSummary holder) := by
  have hget : ∀ key, (holderSummary holder).get? key = _ := Json.get?_sorted (by simp)
  exact
    { address := hget _
      balance := hget _
      only := fun key hkey => Json.mem_keys_of_lookup (hget key ▸ hkey) }

/-- The summary of a snapshot says what the snapshot says. -/
theorem holdersEntry_holdersSummary (snapshot : Snapshot) :
    HoldersEntry snapshot (holdersSummary snapshot) := by
  have hget : ∀ key, (holdersSummary snapshot).get? key = _ := Json.get?_sorted (by simp)
  have hholders : List.Forall₂ HolderEntry snapshot.topHolders
      (snapshot.topHolders.map holderSummary) := by
    rw [List.forall₂_map_right_iff]
    exact List.forall₂_same.2 fun holder _ => holderEntry_holderSummary holder
  exact
    { status := hget _
      centralizationScore := hget _
      totalHolderCount := hget _
      totalSupply := hget _
      anomalies := hget _
      topHolders := ⟨_, hget _, hholders⟩
      scannedFrom := hget _
      scannedTo := hget _
      chunksFailed := hget _
      only := fun key hkey => Json.mem_keys_of_lookup (hget key ▸ hkey) }

/-! ## Agreement -/

/-- Profile and analyses say the same. From `m` to `m'` one analysis of the code was added, that of
the report, and `added` are the analyses of the holders that were added. -/
structure Agreed (token : Address) (m m' : Memory) (report : Code.Report)
    (added : Option HolderAnalysis) (profile : Profile) : Prop where
  contracts : ∃ analysis, m'.contractAnalyses token = m.contractAnalyses token ++ [analysis] ∧
    analysis.report = report
  snapshots : m'.holderAnalyses token = m.holderAnalyses token ++ added.toList
  /-- No analysis of another token was added. -/
  others : ∀ other, other ≠ token → m'.contractAnalyses other = m.contractAnalyses other ∧
    m'.holderAnalyses other = m.holderAnalyses other
  riskScore : profile.riskScore = report.riskScore
  contract_entry : ∃ entry, profile.modules.lookup "contract" = some entry ∧
    ContractEntry report entry
  /-- The profile covers the holders when one analysis of them was added. -/
  covers_iff : profile.Covers "holders" ↔
    ∃ analysis, m'.holderAnalyses token = m.holderAnalyses token ++ [analysis]
  holders_entry : ∀ analysis ∈ added, ∃ entry, profile.modules.lookup "holders" = some entry ∧
    HoldersEntry analysis.snapshot entry
  /-- There are no other areas. -/
  areas : ∀ area, profile.Covers area → area = "contract" ∨ area = "holders"
  flags : profile.flags =
    report.flagNames ++ (added.map fun analysis => analysis.snapshot.anomalyNames).getD []
  flags_nodup : profile.flags.Nodup

/-- Profile and analyses say the same where there is no code: from `m` to `m'` none was added. -/
structure AgreedOnNothing (m m' : Memory) (profile : Profile) : Prop where
  contracts : m'.contracts = m.contracts
  snapshots : m'.snapshots = m.snapshots
  riskScore : profile.riskScore = 0
  flags : profile.flags = []
  modules : ∃ entry, profile.modules = [("contract", entry)] ∧
    entry.get? "error" = some (.str "CONTRACT_NO_CODE") ∧
      ∀ key, entry.get? key ≠ none → key = "error"

/-- Profile and analyses say the same, whatever became of the code. -/
inductive Agrees (token : Address) (m m' : Memory) (profile : Profile) :
    Except Fault Code.Report → Prop
  | found {report : Code.Report} (added : Option HolderAnalysis)
    (h : Agreed token m m' report added profile) : Agrees token m m' profile (.ok report)
  | codeless {fault : Fault} (hfamily : fault.family = .noCode) (h : AgreedOnNothing m m' profile) :
    Agrees token m m' profile (.error fault)

/-- A profile that says what was found out agrees with the analyses that were added. -/
theorem agreed_withFindings {token : Address} {m m' : Memory} {report : Code.Report}
    {added : Option HolderAnalysis} (settings : Settings) (profile : Profile)
    (hcontracts : ∀ other, m'.contractAnalyses other =
      (m.appendContract token report).2.contractAnalyses other)
    (hsnapshots : ∀ other, m'.holderAnalyses other =
      if other = token then m.holderAnalyses token ++ added.toList else m.holderAnalyses other)
    (hcode : report.flagNames.Nodup)
    (hanomalies : ∀ analysis ∈ added, analysis.snapshot.anomalies.Sublist Anomaly.all) :
    Agreed token m m' report added
      (withFindings settings profile report (added.map HolderAnalysis.snapshot)) where
  contracts := by
    refine ⟨(m.appendContract token report).1, ?_, rfl⟩
    rw [hcontracts, Memory.contractAnalyses_appendContract, if_pos rfl]
  snapshots := by rw [hsnapshots, if_pos rfl]
  others other hne := by
    rw [hcontracts, Memory.contractAnalyses_appendContract, if_neg hne, hsnapshots, if_neg hne]
    exact ⟨rfl, rfl⟩
  riskScore := rfl
  contract_entry := ⟨contractSummary report, rfl, contractEntry_contractSummary report⟩
  covers_iff := by
    rw [covers_withFindings, hsnapshots, if_pos rfl]
    cases added with
    | none => simp
    | some analysis => simp
  holders_entry := by
    rintro analysis rfl
    exact ⟨holdersSummary analysis.snapshot, rfl, holdersEntry_holdersSummary _⟩
  areas := by
    intro area harea
    cases added with
    | none => exact .inl (List.mem_singleton.1 harea)
    | some analysis => simpa [Profile.Covers, withFindings] using harea
  flags := by
    cases added with
    | none => rfl
    | some analysis => rfl
  flags_nodup := by
    -- no name of an anomaly is that of a flag of the code
    cases added with
    | none => simpa [withFindings] using hcode
    | some analysis => exact nodup_flags hcode (hanomalies analysis rfl)

/-- Only the fault that there is no code is of its family. -/
theorem Fault.code_eq_noCode {fault : Fault} (h : fault.family = .noCode) :
    fault.code = .noCode := by
  obtain ⟨code, message⟩ := fault
  cases code with
  | noCode => rfl
  | _ => cases h

/-- A profile that says that there is no contract agrees with analyses that are as they were. -/
theorem agreedOnNothing_withoutCode {m m' : Memory} {fault : Fault} (profile : Profile)
    (hfamily : fault.family = .noCode) (hcontracts : m'.contracts = m.contracts)
    (hsnapshots : m'.snapshots = m.snapshots) :
    AgreedOnNothing m m' (withoutCode profile fault) where
  contracts := hcontracts
  snapshots := hsnapshots
  riskScore := rfl
  flags := rfl
  modules := by
    have hget : ∀ key, (Json.sorted [("error", .str fault.code.name)]).get? key = _ :=
      Json.get?_sorted (by simp)
    refine ⟨_, rfl, ?_, fun key hkey => ?_⟩
    · rw [hget, Fault.code_eq_noCode hfamily]
      rfl
    · exact List.mem_singleton.1 (Json.mem_keys_of_lookup (hget key ▸ hkey))

/-- A profile that is given back was saved. -/
theorem saved_of_ok {registry : Registry ρ} {entries : ρ → Memory}
    (hfalters : registry.Falters entries) {saved : Except Fault Unit} {profile given : Profile}
    {s s' : ρ} (hsave : registry.saveProfile profile s = (saved, s'))
    (hgiven : .ok given = saved.map fun _ => profile) :
    given = profile ∧ entries s' = (entries s).saveProfile profile := by
  cases saved with
  | error fault => cases hgiven
  | ok _ => exact ⟨Except.ok.inj hgiven, hfalters.saveProfile_ok hsave⟩

/-- Once the holders are linked and the snapshot is taken, an analysis of each kind was added. -/
theorem analyses_of_snapshot {registry : Registry ρ} {entries : ρ → Memory}
    (hfalters : registry.Falters entries) {token : Address} {known : Option Profile}
    {s₀ s s₁ s₂ s₃ : ρ} {report : Code.Report} {analysis : ContractAnalysis} {policy : LinkPolicy}
    {holders : List HolderBalance} {unlinked : List Diagnostic} {snapshot : Snapshot}
    {added : HolderAnalysis} (hknown : registry.findProfile token s₀ = (.ok known, s))
    (hreport : registry.appendContract token report s = (.ok analysis, s₁))
    (hlink : linkHolders registry policy token holders s₁ = (unlinked, s₂))
    (hsnapshot : registry.appendHolders token snapshot s₂ = (.ok added, s₃)) :
    (∀ other, (entries s₃).contractAnalyses other =
      ((entries s₀).appendContract token report).2.contractAnalyses other) ∧
      (∀ other, (entries s₃).holderAnalyses other =
        if other = token then (entries s₀).holderAnalyses token ++ [added]
        else (entries s₀).holderAnalyses other) ∧
      added.snapshot = snapshot := by
  have hlinked := onlyLinked_of_report hfalters hknown hreport hlink
  obtain ⟨rfl, hs₃⟩ := Prod.ext_iff.1 (hfalters.appendHolders_ok hsnapshot)
  dsimp only at hs₃
  rw [← hs₃]
  refine ⟨hlinked.contractAnalyses_eq, fun other => ?_, rfl⟩
  rw [Memory.holderAnalyses_appendHolders, hlinked.holderAnalyses_eq, hlinked.holderAnalyses_eq]
  rfl

/-- However an assessment came to a profile, it agrees with the analyses that were added on the
way. -/
theorem Assessed.agrees {ledger : Ledger σ} {registry : Registry ρ} {entries : ρ → Memory}
    {settings : Settings} {now : Moment} {token : Address} {w w' : World σ ρ} {given : Profile}
    (h : Assessed ledger registry settings now token w (.ok given) w')
    (hfalters : registry.Falters entries) :
    Agrees token (entries w.registry) (entries w'.registry) given
      (codeFinding ledger settings token w.ledger).1 := by
  have hflags : ∀ {report c}, codeFinding ledger settings token w.ledger = (.ok report, c) →
      report.flagNames.Nodup := by
    intro report c hcode
    obtain ⟨bytes, rfl⟩ := analyzeCode_eq_ok hcode
    exact Code.nodup_flagNames ..
  generalize hgiven : (Except.ok given : Except Fault Profile) = result at h
  cases h with
  | unknown | codeLost | reportLost | snapshotLost => cases hgiven
  | codeless hknown hcode hfamily hprofile hsave =>
    obtain ⟨rfl, hsaved⟩ := saved_of_ok hfalters hsave hgiven
    rw [(hfalters.findProfile_ok hknown).1] at hsaved
    rw [hcode, hsaved, hprofile]
    exact .codeless hfamily (agreedOnNothing_withoutCode _ hfamily rfl rfl)
  | holdersLost hknown hcode hreport hholders hprofile hsave =>
    obtain ⟨rfl, hsaved⟩ := saved_of_ok hfalters hsave hgiven
    rw [entries_of_report hfalters hknown hreport] at hsaved
    rw [hcode, hsaved, hprofile]
    have hsnapshots : ∀ other, (entries w.registry).holderAnalyses other =
        if other = token then (entries w.registry).holderAnalyses token ++ []
        else (entries w.registry).holderAnalyses other := by
      intro other
      split
      · rename_i heq
        rw [heq, List.append_nil]
      · rfl
    refine .found none (agreed_withFindings settings _ (fun _ => rfl) hsnapshots (hflags hcode) ?_)
    rintro analysis ⟨⟩
  | complete hknown hcode hreport hholders hlink hfound hsnapshot hprofile hsave =>
    obtain ⟨rfl, hsaved⟩ := saved_of_ok hfalters hsave hgiven
    obtain ⟨hcontracts, hsnapshots, hadded⟩ :=
      analyses_of_snapshot hfalters hknown hreport hlink hsnapshot
    have hscanned := anomalies_of_holderFinding hholders
    rw [hcode, hsaved, hprofile, ← hadded]
    refine .found (some _) (agreed_withFindings settings _ hcontracts hsnapshots (hflags hcode) ?_)
    rintro _ ⟨⟩
    -- linking has changed nothing about what stands out
    rw [hadded, hfound]
    exact hscanned

/-- **A profile agrees with the records.** Whatever the ledger does, and whatever a registry in
memory that falters holds: the profile that an assessment comes to agrees with the analyses that
were added to the registry. -/
theorem assess_agrees (ledger : Ledger σ) {registry : Registry ρ} {entries : ρ → Memory}
    (hfalters : registry.Falters entries) (settings : Settings) (now : Moment) (token : Address)
    (w : World σ ρ) {profile : Profile}
    (h : (assess ledger registry settings now token w).1 = .ok profile) :
    Agrees token (entries w.registry)
      (entries (assess ledger registry settings now token w).2.registry) profile
      (codeFinding ledger settings token w.ledger).1 := by
  have hcourse := assessed ledger registry settings now token w
  rw [h] at hcourse
  exact hcourse.agrees hfalters

/-- The profile of a token with code and without any transfers agrees with one analysis of its code
and one of its holders, although no account can be looked up. -/
theorem assess_agrees_unlinked :
    let registry := Memory.registry.guarded { offline := [.findAddress] }
    let w : World Recorded Memory := ⟨.start bareRecords, {}⟩
    let result := assess Recorded.ledger registry {} ⟨1, 0⟩ default w
    registry.Falters id ∧ ∃ profile, result.1 = .ok profile ∧ profile.Covers "holders" ∧
      ∃ added, Agreed default w.registry result.2.registry (Code.analyze default [0x00] {}) added
        profile := by
  intro registry w result
  have hfalters : registry.Falters id := guarded_falters _
  have hcode := codeFinding_bareRecords {}
  obtain ⟨snapshot, hholders, -⟩ := holderFinding_bareRecords {} (by decide)
  have hassess := assess_eq_appraise Recorded.ledger hfalters (guarded_keepsFiles (by decide)) {}
    ⟨1, 0⟩ default w .start
  rw [hcode, hholders] at hassess
  have hagrees := assess_agrees Recorded.ledger hfalters {} ⟨1, 0⟩ default w hassess
  rw [hcode] at hagrees
  cases hagrees with
  | found added h =>
    exact ⟨hfalters, _, hassess, covers_withFindings.2 ⟨snapshot, rfl⟩, added, h⟩

end TokenAudit
