import Mathlib.Tactic.Set
import TokenAudit.Ledger.Recorded
import TokenAudit.Profile.Assess
import TokenAudit.Proofs.Registry.Requests

/-! # How an assessment goes

An assessment asks the ledger and the registry for one thing after the other. It ends with a fault
where the known profile cannot be looked up, where the code cannot be had, or where the registry
does not take an analysis or the profile. That there is no code, and that the holders cannot be had,
are findings of which the profile tells.

What becomes of the code and of the holders hangs on the ledger alone, whatever registry the holders
are linked in.

* `codeFinding`, `holderFinding` — what becomes of the code and of the holders;
* `draft` — the profile before anything is found out;
* `Assessed` — the ways in which an assessment can go, and `assessed`, that every assessment goes
  one of them;
* `appraise` — what the findings lead to, and `Assessed.refuses_or_eq_appraise`. -/

namespace TokenAudit

variable {σ ρ α : Type}

/-! ## Ledger and registry -/

/-- What is asked of the ledger leaves the registry alone. -/
theorem onLedger_of_eq {action : Action (Clocked σ) α} {w : World σ ρ} {result : Except Fault α}
    {c : Clocked σ} (h : action w.ledger = (result, c)) :
    onLedger action w = (result, ⟨c, w.registry⟩) := by
  rw [onLedger, h]

/-- What is asked of the registry leaves the ledger alone. -/
theorem onRegistry_of_eq {action : Action ρ α} {w : World σ ρ} {result : Except Fault α} {s : ρ}
    (h : action w.registry = (result, s)) : onRegistry action w = (result, ⟨w.ledger, s⟩) := by
  rw [onRegistry, h]

/-- Saving a profile gives it back, unless the registry does not take it. -/
theorem save_of_eq {registry : Registry ρ} {profile : Profile} {w : World σ ρ}
    {saved : Except Fault Unit} {s : ρ} (h : registry.saveProfile profile w.registry = (saved, s)) :
    save registry profile w = (saved.map fun _ => profile, ⟨w.ledger, s⟩) := by
  have hsave := onRegistry_of_eq h
  rw [save]
  cases saved with
  | error fault => exact Action.bind_of_error hsave _
  | ok _ => exact Action.bind_of_ok hsave _

/-! ## Findings -/

/-- What becomes of the code of a token, which is asked for after the metadata. -/
def codeFinding (ledger : Ledger σ) (settings : Settings) (token : Address) (c : Clocked σ) :
    Except Fault Code.Report × Clocked σ :=
  analyzeCode ledger settings token (fetchMetadata ledger token c).2

/-- What becomes of the holders of a token, which are asked for after the code. -/
def holderFinding (ledger : Ledger σ) (settings : Settings) (token : Address) (c : Clocked σ) :
    Except Fault Snapshot × Clocked σ :=
  scan ledger settings { token } (codeFinding ledger settings token c).2

/-- The profile of a token before anything but its metadata is found out, made from the known
one. -/
def draft (ledger : Ledger σ) (now : Moment) (token : Address) (c : Clocked σ)
    (known : Option Profile) : Profile :=
  { known.getD (.pending token now) with
    metadata := (fetchMetadata ledger token c).1
    updatedAt := now }

/-- Holders that cannot be had are not linked either. -/
theorem reconstruct_of_lost {ledger : Ledger σ} {registry : Registry ρ} {settings : Settings}
    {request : ScanRequest} {w : World σ ρ} {fault : Fault} {c : Clocked σ}
    (h : scan ledger settings request w.ledger = (.error fault, c)) :
    reconstruct ledger registry settings request w = (.error fault, ⟨c, w.registry⟩) :=
  Action.bind_of_error (onLedger_of_eq h) _

/-- Linking holders adds nothing to what was found out but diagnostics. -/
theorem reconstruct_of_found {ledger : Ledger σ} {registry : Registry ρ} {settings : Settings}
    {request : ScanRequest} {w : World σ ρ} {snapshot : Snapshot} {c : Clocked σ}
    {unlinked : List Diagnostic} {s : ρ}
    (h : scan ledger settings request w.ledger = (.ok snapshot, c))
    (hlink : linkHolders registry settings.linkPolicy request.token snapshot.topHolders w.registry =
      (unlinked, s)) :
    reconstruct ledger registry settings request w =
      (.ok { snapshot with diagnostics := snapshot.diagnostics ++ unlinked }, ⟨c, s⟩) := by
  rw [reconstruct, Action.bind_of_ok (onLedger_of_eq h)]
  have hlifted : (liftM (linkHolders registry settings.linkPolicy request.token
      snapshot.topHolders) : Action ρ (List Diagnostic)) w.registry = (.ok unlinked, s) := by
    show (Except.ok _, _) = _
    rw [hlink]
  rw [Action.bind_of_ok (onRegistry_of_eq (w := ⟨c, w.registry⟩) hlifted)]
  rfl

/-- What an assessment does once it is known what becomes of the code. -/
def assessFrom (ledger : Ledger σ) (registry : Registry ρ) (settings : Settings) (token : Address)
    (profile : Profile) : Except Fault Code.Report → Action (World σ ρ) Profile
  | .error fault =>
    if fault.family = .noCode then save registry (withoutCode profile fault) else throw fault
  | .ok report => do
    let _ ← onRegistry (registry.appendContract token report)
    match ← attempt (reconstruct ledger registry settings { token }) with
    | .error _ => save registry (withFindings settings profile report none)
    | .ok snapshot =>
      let _ ← onRegistry (registry.appendHolders token snapshot)
      save registry (withFindings settings profile report (some snapshot))

/-- Once the known profile is looked up, an assessment goes on with what becomes of the code. -/
theorem assess_of_known {ledger : Ledger σ} {registry : Registry ρ} {settings : Settings}
    (now : Moment) {token : Address} {w : World σ ρ} {known : Option Profile} {s : ρ}
    {code : Except Fault Code.Report} {c : Clocked σ}
    (hknown : registry.findProfile token w.registry = (.ok known, s))
    (hcode : codeFinding ledger settings token w.ledger = (code, c)) :
    assess ledger registry settings now token w =
      assessFrom ledger registry settings token (draft ledger now token w.ledger known)
        code ⟨c, s⟩ := by
  -- asking for the metadata never fails
  have hmetadata : onLedger (liftM (fetchMetadata ledger token)) ⟨w.ledger, s⟩ =
      (.ok (fetchMetadata ledger token w.ledger).1,
        (⟨(fetchMetadata ledger token w.ledger).2, s⟩ : World σ ρ)) := rfl
  have hanalyze := Action.attempt_of_eq (onLedger_of_eq (ρ := ρ)
    (w := ⟨(fetchMetadata ledger token w.ledger).2, s⟩) hcode)
  rw [assess, Action.bind_of_ok (onRegistry_of_eq hknown), Action.bind_of_ok hmetadata,
    Action.bind_of_ok hanalyze]
  cases code with
  | error fault => rfl
  | ok report => rfl

/-! ## The ways in which an assessment can go -/

/-- The ways in which an assessment can go from a world on: its result, and the world afterwards. -/
inductive Assessed (ledger : Ledger σ) (registry : Registry ρ) (settings : Settings) (now : Moment)
    (token : Address) (w : World σ ρ) : Except Fault Profile → World σ ρ → Prop
  /-- The known profile cannot be looked up. -/
  | unknown {fault : Fault} {s : ρ}
    (hknown : registry.findProfile token w.registry = (.error fault, s)) :
    Assessed ledger registry settings now token w (.error fault) ⟨w.ledger, s⟩
  /-- The code cannot be had. -/
  | codeLost {known : Option Profile} {s : ρ} {fault : Fault} {c : Clocked σ}
    (hknown : registry.findProfile token w.registry = (.ok known, s))
    (hcode : codeFinding ledger settings token w.ledger = (.error fault, c))
    (hfamily : fault.family ≠ .noCode) :
    Assessed ledger registry settings now token w (.error fault) ⟨c, s⟩
  /-- There is no code. -/
  | codeless {known : Option Profile} {s s' : ρ} {fault : Fault} {c : Clocked σ}
    {saved : Except Fault Unit} {profile : Profile}
    (hknown : registry.findProfile token w.registry = (.ok known, s))
    (hcode : codeFinding ledger settings token w.ledger = (.error fault, c))
    (hfamily : fault.family = .noCode)
    (hprofile : profile = withoutCode (draft ledger now token w.ledger known) fault)
    (hsave : registry.saveProfile profile s = (saved, s')) :
    Assessed ledger registry settings now token w (saved.map fun _ => profile) ⟨c, s'⟩
  /-- The registry does not take the report. -/
  | reportLost {known : Option Profile} {s s' : ρ} {report : Code.Report} {fault : Fault}
    {c : Clocked σ} (hknown : registry.findProfile token w.registry = (.ok known, s))
    (hcode : codeFinding ledger settings token w.ledger = (.ok report, c))
    (hreport : registry.appendContract token report s = (.error fault, s')) :
    Assessed ledger registry settings now token w (.error fault) ⟨c, s'⟩
  /-- The holders cannot be had. -/
  | holdersLost {known : Option Profile} {s s₁ s' : ρ} {report : Code.Report}
    {analysis : ContractAnalysis} {fault : Fault} {c c' : Clocked σ} {saved : Except Fault Unit}
    {profile : Profile}
    (hknown : registry.findProfile token w.registry = (.ok known, s))
    (hcode : codeFinding ledger settings token w.ledger = (.ok report, c))
    (hreport : registry.appendContract token report s = (.ok analysis, s₁))
    (hholders : holderFinding ledger settings token w.ledger = (.error fault, c'))
    (hprofile : profile =
      withFindings settings (draft ledger now token w.ledger known) report none)
    (hsave : registry.saveProfile profile s₁ = (saved, s')) :
    Assessed ledger registry settings now token w (saved.map fun _ => profile) ⟨c', s'⟩
  /-- The registry does not take the snapshot of the holders, which are linked by then. -/
  | snapshotLost {known : Option Profile} {s s₁ s₂ s' : ρ} {report : Code.Report}
    {analysis : ContractAnalysis} {found snapshot : Snapshot} {unlinked : List Diagnostic}
    {fault : Fault} {c c' : Clocked σ}
    (hknown : registry.findProfile token w.registry = (.ok known, s))
    (hcode : codeFinding ledger settings token w.ledger = (.ok report, c))
    (hreport : registry.appendContract token report s = (.ok analysis, s₁))
    (hholders : holderFinding ledger settings token w.ledger = (.ok found, c'))
    (hlink : linkHolders registry settings.linkPolicy token found.topHolders s₁ = (unlinked, s₂))
    (hfound : snapshot = { found with diagnostics := found.diagnostics ++ unlinked })
    (hsnapshot : registry.appendHolders token snapshot s₂ = (.error fault, s')) :
    Assessed ledger registry settings now token w (.error fault) ⟨c', s'⟩
  /-- Code and holders are found, and both analyses are kept. -/
  | complete {known : Option Profile} {s s₁ s₂ s₃ s' : ρ} {report : Code.Report}
    {analysis : ContractAnalysis} {found snapshot : Snapshot} {unlinked : List Diagnostic}
    {analysis' : HolderAnalysis} {c c' : Clocked σ} {saved : Except Fault Unit} {profile : Profile}
    (hknown : registry.findProfile token w.registry = (.ok known, s))
    (hcode : codeFinding ledger settings token w.ledger = (.ok report, c))
    (hreport : registry.appendContract token report s = (.ok analysis, s₁))
    (hholders : holderFinding ledger settings token w.ledger = (.ok found, c'))
    (hlink : linkHolders registry settings.linkPolicy token found.topHolders s₁ = (unlinked, s₂))
    (hfound : snapshot = { found with diagnostics := found.diagnostics ++ unlinked })
    (hsnapshot : registry.appendHolders token snapshot s₂ = (.ok analysis', s₃))
    (hprofile : profile =
      withFindings settings (draft ledger now token w.ledger known) report (some snapshot))
    (hsave : registry.saveProfile profile s₃ = (saved, s')) :
    Assessed ledger registry settings now token w (saved.map fun _ => profile) ⟨c', s'⟩

/-- **Every assessment goes one of these ways.** -/
theorem assessed (ledger : Ledger σ) (registry : Registry ρ) (settings : Settings) (now : Moment)
    (token : Address) (w : World σ ρ) :
    Assessed ledger registry settings now token w (assess ledger registry settings now token w).1
      (assess ledger registry settings now token w).2 := by
  rcases hknown : registry.findProfile token w.registry with ⟨fault | known, s⟩
  · rw [assess, Action.bind_of_error (onRegistry_of_eq hknown)]
    exact .unknown hknown
  set profile := draft ledger now token w.ledger known with hdraft
  -- there may be no code, or no telling whether there is
  rcases hcode : codeFinding ledger settings token w.ledger with ⟨fault | report, c⟩
  · rw [assess_of_known now hknown hcode, assessFrom, ← hdraft]
    by_cases hfamily : fault.family = .noCode
    · rw [if_pos hfamily]
      rcases hsave : registry.saveProfile (withoutCode profile fault) s with ⟨saved, s'⟩
      rw [save_of_eq hsave]
      exact .codeless hknown hcode hfamily rfl hsave
    · rw [if_neg hfamily]
      exact .codeLost hknown hcode hfamily
  rw [assess_of_known now hknown hcode, assessFrom, ← hdraft]
  -- the report is filed before the holders are looked at
  rcases hreport : registry.appendContract token report s with ⟨fault | analysis, s₁⟩
  · rw [Action.bind_of_error (onRegistry_of_eq hreport)]
    exact .reportLost hknown hcode hreport
  rw [Action.bind_of_ok (onRegistry_of_eq hreport)]
  -- a scan that fails leaves a profile of the code alone
  rcases hholders : holderFinding ledger settings token w.ledger with ⟨fault | found, c'⟩
  · have hscan : scan ledger settings { token } c = (.error fault, c') := by
      rw [← hholders, holderFinding, hcode]
    rw [Action.bind_of_ok (Action.attempt_of_eq (reconstruct_of_lost hscan))]
    rcases hsave : registry.saveProfile (withFindings settings profile report none) s₁
      with ⟨saved, s'⟩
    dsimp only
    rw [save_of_eq hsave]
    exact .holdersLost hknown hcode hreport hholders rfl hsave
  have hscan : scan ledger settings { token } c = (.ok found, c') := by
    rw [← hholders, holderFinding, hcode]
  rcases hlink : linkHolders registry settings.linkPolicy token found.topHolders s₁
    with ⟨unlinked, s₂⟩
  rw [Action.bind_of_ok (Action.attempt_of_eq (reconstruct_of_found hscan hlink))]
  set snapshot : Snapshot := { found with diagnostics := found.diagnostics ++ unlinked } with hfound
  dsimp only
  -- a snapshot that is not filed ends the assessment without a profile
  rcases hsnapshot : registry.appendHolders token snapshot s₂ with ⟨fault | analysis', s₃⟩
  · rw [Action.bind_of_error (onRegistry_of_eq hsnapshot)]
    exact .snapshotLost hknown hcode hreport hholders hlink hfound hsnapshot
  rw [Action.bind_of_ok (onRegistry_of_eq hsnapshot)]
  rcases hsave : registry.saveProfile (withFindings settings profile report (some snapshot)) s₃
    with ⟨saved, s'⟩
  rw [save_of_eq hsave]
  exact .complete hknown hcode hreport hholders hlink hfound hsnapshot rfl hsave

/-! ## What the findings lead to -/

/-- What the findings on code and holders lead to: a fault, or what is said in the place of a
draft. -/
def appraise (settings : Settings) (draft : Profile) (holders : Except Fault Snapshot) :
    Except Fault Code.Report → Except Fault Profile
  | .error fault => if fault.family = .noCode then .ok (withoutCode draft fault) else .error fault
  | .ok report => .ok (withFindings settings draft report holders.toOption)

/-- A profile says nothing of the problems that were put up with. -/
theorem withFindings_diagnostics (settings : Settings) (profile : Profile) (report : Code.Report)
    (snapshot : Snapshot) (diagnostics : List Diagnostic) :
    withFindings settings profile report (some { snapshot with diagnostics }) =
      withFindings settings profile report (some snapshot) := rfl

/-! ## Refusals -/

/-- Whether a request is one for analyses or profiles, of those that an assessment makes. -/
def Registry.Request.IsFiling : Registry.Request → Prop
  | .findProfile _ | .appendContract .. | .appendHolders .. | .saveProfile _ => True
  | _ => False

/-- Whether a result is the fault with which a registry answers a request for analyses or
profiles. -/
def Registry.Refuses (registry : Registry ρ) (result : Except Fault α) : Prop :=
  ∃ (request : Registry.Request) (s s' : ρ) (fault : Fault), request.IsFiling ∧
    request.ask registry s = (.error fault, s') ∧ result = .error fault

/-- A profile is refused, or it is what saving it comes to. -/
theorem refuses_or_of_save {registry : Registry ρ} {profile : Profile} {saved : Except Fault Unit}
    {s s' : ρ} (h : registry.saveProfile profile s = (saved, s')) :
    registry.Refuses (saved.map fun _ => profile) ∨ (saved.map fun _ => profile) = .ok profile := by
  cases saved with
  | error fault =>
    exact .inl ⟨.saveProfile profile, s, s', fault, trivial, Action.map_of_error h _, rfl⟩
  | ok _ => exact .inr rfl

/-- **An assessment comes to what the findings lead to**, unless the registry refuses something. -/
theorem Assessed.refuses_or_eq_appraise {ledger : Ledger σ} {registry : Registry ρ}
    {settings : Settings} {now : Moment} {token : Address} {w w' : World σ ρ}
    {result : Except Fault Profile}
    (h : Assessed ledger registry settings now token w result w') :
    registry.Refuses result ∨
      ∃ known s, registry.findProfile token w.registry = (.ok known, s) ∧
        result = appraise settings (draft ledger now token w.ledger known)
          (holderFinding ledger settings token w.ledger).1
          (codeFinding ledger settings token w.ledger).1 := by
  -- each course ends in a call that the registry refuses, or in the profile of the findings
  cases h with
  | unknown hknown =>
    exact .inl ⟨.findProfile token, _, _, _, trivial, Action.map_of_error hknown _, rfl⟩
  | codeLost hknown hcode hfamily =>
    refine .inr ⟨_, _, hknown, ?_⟩
    rw [hcode, appraise, if_neg hfamily]
  | codeless hknown hcode hfamily hprofile hsave =>
    refine (refuses_or_of_save hsave).imp_right fun hsaved => ⟨_, _, hknown, ?_⟩
    rw [hsaved, hcode, hprofile, appraise, if_pos hfamily]
  | reportLost hknown hcode hreport =>
    exact .inl ⟨.appendContract token _, _, _, _, trivial, Action.map_of_error hreport _, rfl⟩
  | holdersLost hknown hcode hreport hholders hprofile hsave =>
    refine (refuses_or_of_save hsave).imp_right fun hsaved => ⟨_, _, hknown, ?_⟩
    rw [hsaved, hcode, hholders, hprofile, appraise]
    rfl
  | snapshotLost hknown hcode hreport hholders hlink hfound hsnapshot =>
    exact .inl ⟨.appendHolders token _, _, _, _, trivial, Action.map_of_error hsnapshot _, rfl⟩
  | complete hknown hcode hreport hholders hlink hfound hsnapshot hprofile hsave =>
    refine (refuses_or_of_save hsave).imp_right fun hsaved => ⟨_, _, hknown, ?_⟩
    rw [hsaved, hcode, hholders, hprofile, hfound, appraise, withFindings_diagnostics]
    rfl

/-! ## A token with code -/

/-- A token with code, on a chain without anything else. -/
def bareRecords : Recorded where
  code := Table.empty.set default [0x00]

/-- The code of that token can be had, and is analysed. -/
theorem codeFinding_bareRecords (settings : Settings) :
    (codeFinding Recorded.ledger settings default (.start bareRecords)).1 =
      .ok (Code.analyze default [0x00] settings) := rfl

end TokenAudit
