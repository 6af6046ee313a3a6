import TokenAudit.Profile.Metadata
import TokenAudit.Registry.Linking
import TokenAudit.Scan.Holders

/-! # Assessing tokens

A token is assessed by its code and by its holders. Both analyses are kept, the holders are linked,
and what was found is put together in the token's profile with a recommendation. No assessment takes
anything over from an older one.

* `analyzeCode` — the report on the code at an account;
* `reconstruct` — the snapshot of the holders, linked to the registry;
* `assess` — the whole assessment. -/

namespace TokenAudit

variable {σ ρ α : Type}

/-! ## Code -/

/-- The report on the code at an account. -/
def analyzeCode (ledger : Ledger σ) (settings : Settings) (address : Address) :
    Action (Clocked σ) Code.Report := do
  let code ← Ledger.askWithin (ledger.deadline settings.callTimeout) (ledger.code address)
  if code.isEmpty then throw (.noCode address.toChecksum)
  else return Code.analyze address code settings

/-! ## Ledger and registry together -/

/-- The states of a ledger and a registry. -/
structure World (σ ρ : Type) where
  /-- The ledger, and the time. -/
  ledger : Clocked σ
  /-- The registry. -/
  registry : ρ

/-- Something done with the ledger. -/
def onLedger (action : Action (Clocked σ) α) : Action (World σ ρ) α := fun w =>
  let (result, ledger) := action w.ledger
  (result, { w with ledger })

/-- Something done with the registry. -/
def onRegistry (action : Action ρ α) : Action (World σ ρ) α := fun w =>
  let (result, registry) := action w.registry
  (result, { w with registry })

/-! ## Holders -/

/-- The snapshot of a token's holders. Those that are listed are linked; one that cannot be linked
is noted in the snapshot. -/
def reconstruct (ledger : Ledger σ) (registry : Registry ρ) (settings : Settings)
    (request : ScanRequest) : Action (World σ ρ) Snapshot := do
  let snapshot ← onLedger (scan ledger settings request)
  let unlinked ← onRegistry
    (liftM (linkHolders registry settings.linkPolicy request.token snapshot.topHolders))
  return { snapshot with diagnostics := snapshot.diagnostics ++ unlinked }

/-! ## Profiles -/

/-- What a profile says about the code. -/
def contractSummary (report : Code.Report) : Json :=
  .sorted
    [("risk_score", .nat report.riskScore), ("flags", .strs report.flagNames),
     ("evidence", .strs report.evidence), ("bytecode_hash", .str report.bytecodeHash),
     ("entropy_bits", .float report.entropyBits),
     ("matched_function_signatures", .strs report.signatures),
     ("bytecode_size", .nat report.bytecodeSize)]

/-- What a profile says about a holder. -/
def holderSummary (holder : HolderBalance) : Json :=
  .sorted
    [("address", .str holder.address.toText), ("balance", .str (Numeral.decimal holder.balance))]

/-- What a profile says about the holders. -/
def holdersSummary (snapshot : Snapshot) : Json :=
  .sorted
    [("status", .str snapshot.status.name),
     ("centralization_score", .float snapshot.centralizationScore),
     ("total_holder_count", .nat snapshot.totalHolderCount),
     ("total_supply_calculated", .str (Numeral.decimal snapshot.totalSupply)),
     ("anomalies", .strs snapshot.anomalyNames),
     ("top_holders", .arr (snapshot.topHolders.map holderSummary)),
     ("scanned_from", .nat snapshot.scanned.first), ("scanned_to", .nat snapshot.scanned.last),
     ("chunks_failed", .nat snapshot.chunksFailed)]

/-- A profile that says only that there is no contract. -/
def withoutCode (profile : Profile) (fault : Fault) : Profile :=
  { profile with
    riskScore := 0
    recommendation := .noGo
    flags := []
    modules := [("contract", .sorted [("error", .str fault.code.name)])] }

/-- A profile that says what was found out about code and holders. -/
def withFindings (settings : Settings) (profile : Profile) (report : Code.Report)
    (snapshot : Option Snapshot) : Profile :=
  { profile with
    riskScore := report.riskScore
    recommendation := recommend report.riskScore (snapshot.map Snapshot.anomalies) settings
    flags := report.flagNames ++ (snapshot.map Snapshot.anomalyNames).getD []
    modules :=
      ("contract", contractSummary report) ::
        (snapshot.map fun s => ("holders", holdersSummary s)).toList }

/-- Saves a profile. -/
def save (registry : Registry ρ) (profile : Profile) : Action (World σ ρ) Profile := do
  onRegistry (registry.saveProfile profile)
  return profile

/-- Assesses a token at the time `now`. That there is no contract is a finding; any other failure to
get the code ends the assessment. When the holders cannot be had, the profile says nothing about
them. -/
def assess (ledger : Ledger σ) (registry : Registry ρ) (settings : Settings) (now : Moment)
    (token : Address) : Action (World σ ρ) Profile := do
  let known ← onRegistry (registry.findProfile token)
  let metadata ← onLedger (liftM (fetchMetadata ledger token))
  let profile : Profile := { known.getD (.pending token now) with metadata, updatedAt := now }
  match ← attempt (onLedger (analyzeCode ledger settings token)) with
  | .error fault =>
    if fault.family = .noCode then save registry (withoutCode profile fault) else throw fault
  | .ok report =>
    let _ ← onRegistry (registry.appendContract token report)
    match ← attempt (reconstruct ledger registry settings { token }) with
    | .error _ => save registry (withFindings settings profile report none)
    | .ok snapshot =>
      let _ ← onRegistry (registry.appendHolders token snapshot)
      save registry (withFindings settings profile report (some snapshot))

end TokenAudit
