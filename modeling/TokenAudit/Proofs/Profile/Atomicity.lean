import TokenAudit.Ledger.Disturbed
import TokenAudit.Proofs.Profile.Course
import TokenAudit.Proofs.Registry.Faltering

/-! # What an assessment leaves in the registry

An assessment writes several times: it adds an analysis of the code, links holders, adds an analysis
of the holders, and saves the profile last of all. Wherever it fails, what is said about tokens as a
whole is what was said before; what it has written by then are entries of its own token, and holders
with their accounts, and it has changed none that was there.

* `Memory.Framed` — all that an assessment of a token leaves alone;
* `Memory.Noted` — what it can have written before it saves the profile, and `Noted.framed`;
* `Memory.Ended` — how it ends, and `Assessed.ended`, that every assessment ends so;
* `FailsEarly` — failures that come before anything is written, and `Assessed.kept_of_failsEarly`;
* `hasSupply_assess` — new identifiers are never used up.

Main statement: `assess_atomic`. -/

namespace TokenAudit

variable {σ ρ : Type}

namespace Memory

/-! ## Framing -/

/-- What an assessment of a token leaves alone, profiles left aside. -/
structure Framed (token : Address) (m m' : Memory) : Prop where
  contracts_other : ∀ other, other ≠ token → m'.contractAnalyses other = m.contractAnalyses other
  snapshots_other : ∀ other, other ≠ token → m'.holderAnalyses other = m.holderAnalyses other
  links_other : ∀ id other, other ≠ token → m'.links.get? (id, other) = m.links.get? (id, other)
  /-- At most one analysis of the code is added, after the others. -/
  contracts : m'.contractAnalyses token = m.contractAnalyses token ∨
    ∃ analysis, m'.contractAnalyses token = m.contractAnalyses token ++ [analysis]
  /-- At most one analysis of the holders is added, after the others. -/
  snapshots : m'.holderAnalyses token = m.holderAnalyses token ∨
    ∃ analysis, m'.holderAnalyses token = m.holderAnalyses token ++ [analysis]
  holders : ∀ id holder, m.holders.get? id = some holder → m'.holders.get? id = some holder
  addresses : ∀ address record,
    m.addresses.get? address = some record → m'.addresses.get? address = some record

/-- Doing nothing leaves all else alone. -/
theorem Framed.refl (token : Address) (m : Memory) : m.Framed token m where
  contracts_other _ _ := rfl
  snapshots_other _ _ := rfl
  links_other _ _ _ := rfl
  contracts := Or.inl rfl
  snapshots := Or.inl rfl
  holders _ _ := id
  addresses _ _ := id

/-- Saving a profile touches nothing but profiles. -/
theorem Framed.saveProfile {token : Address} {m m' : Memory} (h : m.Framed token m')
    (profile : Profile) : m.Framed token (m'.saveProfile profile) :=
  ⟨h.contracts_other, h.snapshots_other, h.links_other, h.contracts, h.snapshots, h.holders,
    h.addresses⟩

/-- An analysis of a code is added to those of its token, behind them, and to no others. -/
theorem contractAnalyses_appendContract (token other : Address) (report : Code.Report)
    (m : Memory) :
    (m.appendContract token report).2.contractAnalyses other =
      if other = token then m.contractAnalyses token ++ [(m.appendContract token report).1]
      else m.contractAnalyses other :=
  Table.getD_get?_set ..

/-- An analysis of holders is added to those of its token, behind them, and to no others. -/
theorem holderAnalyses_appendHolders (token other : Address) (snapshot : Snapshot) (m : Memory) :
    (m.appendHolders token snapshot).2.holderAnalyses other =
      if other = token then m.holderAnalyses token ++ [(m.appendHolders token snapshot).1]
      else m.holderAnalyses other :=
  Table.getD_get?_set ..

/-- What an assessment of a token can have written before it saves the profile. -/
inductive Noted (token : Address) (m : Memory) : Memory → Prop
  | nothing : Noted token m m
  /-- An analysis of the code, and after it any number of holders. -/
  | links {report : Code.Report} {m' : Memory}
    (hlinked : (m.appendContract token report).2.OnlyLinked token m')
    (hpersists : (m.appendContract token report).2.Persists m') (hsupply : m'.HasSupply) :
    Noted token m m'
  /-- An analysis of the holders besides. -/
  | snapshot {report : Code.Report} {m' : Memory} (snapshot : Snapshot)
    (hlinked : (m.appendContract token report).2.OnlyLinked token m')
    (hpersists : (m.appendContract token report).2.Persists m') (hsupply : m'.HasSupply) :
    Noted token m (m'.appendHolders token snapshot).2

namespace Noted

variable {token : Address} {m m' : Memory}

/-- Before it saves the profile, an assessment leaves all profiles alone. -/
theorem profiles_eq (h : m.Noted token m') : m'.profiles = m.profiles := by
  cases h with
  | nothing => rfl
  | links hlinked => exact hlinked.profiles
  | snapshot snapshot hlinked => exact hlinked.profiles

/-- It goes on giving out new identifiers. -/
theorem hasSupply (h : m.Noted token m') (hm : m.HasSupply) : m'.HasSupply := by
  cases h with
  | nothing => exact hm
  | links _ _ hsupply => exact hsupply
  | snapshot _ _ _ hsupply => exact hsupply.issue

/-- **What an assessment has written is its own.** -/
theorem framed (h : m.Noted token m') : m.Framed token m' := by
  have hlinks : ∀ {report m₁}, (m.appendContract token report).2.OnlyLinked token m₁ →
      (m.appendContract token report).2.Persists m₁ → m.Framed token m₁ := by
    intro report m₁ hlinked hpersists
    refine ⟨fun other hne => ?_, fun other _ => hlinked.holderAnalyses_eq other, hlinked.links,
      Or.inr ⟨(m.appendContract token report).1, ?_⟩, Or.inl (hlinked.holderAnalyses_eq token),
      hpersists.holders, hpersists.addresses⟩
    · rw [hlinked.contractAnalyses_eq, contractAnalyses_appendContract, if_neg hne]
    · rw [hlinked.contractAnalyses_eq, contractAnalyses_appendContract, if_pos rfl]
  cases h with
  | nothing => exact .refl token m
  | links hlinked hpersists => exact hlinks hlinked hpersists
  | @snapshot report m₁ snapshot hlinked hpersists =>
    have hsnapshots : ∀ other, m₁.holderAnalyses other = m.holderAnalyses other :=
      hlinked.holderAnalyses_eq
    refine { hlinks hlinked hpersists with
      snapshots_other := fun other hne => ?_
      snapshots := Or.inr ⟨(m₁.appendHolders token snapshot).1, ?_⟩ }
    · rw [holderAnalyses_appendHolders, if_neg hne, hsnapshots]
    · rw [holderAnalyses_appendHolders, if_pos rfl, hsnapshots]

end Noted

/-- How an assessment of a token ends: with a fault and no profile saved, or with the profile of the
token, which was saved last of all. -/
inductive Ended (token : Address) (m : Memory) : Except Fault Profile → Memory → Prop
  | failed {fault : Fault} {m' : Memory} (hnoted : m.Noted token m') :
    Ended token m (.error fault) m'
  | saved {profile : Profile} {m' : Memory} (hnoted : m.Noted token m')
    (htoken : profile.token = token) : Ended token m (.ok profile) (m'.saveProfile profile)

namespace Ended

variable {token : Address} {m m' : Memory}

/-- However an assessment ends, it leaves all else alone. -/
theorem framed {result : Except Fault Profile} (h : m.Ended token result m') :
    m.Framed token m' := by
  cases h with
  | failed hnoted => exact hnoted.framed
  | saved hnoted => exact hnoted.framed.saveProfile _

/-- However an assessment ends, it goes on giving out new identifiers. -/
theorem hasSupply {result : Except Fault Profile} (h : m.Ended token result m') (hm : m.HasSupply) :
    m'.HasSupply := by
  cases h with
  | failed hnoted => exact hnoted.hasSupply hm
  | saved hnoted => exact hnoted.hasSupply hm

/-- A fault leaves all profiles alone. -/
theorem profiles_of_error {fault : Fault} (h : m.Ended token (.error fault) m') :
    m'.profiles = m.profiles := by
  cases h with
  | failed hnoted => exact hnoted.profiles_eq

/-- The profile is the token's, and all others are left alone. -/
theorem profiles_of_ok {profile : Profile} (h : m.Ended token (.ok profile) m') :
    m'.profiles.get? token = some profile ∧
      ∀ other, other ≠ token → m'.profiles.get? other = m.profiles.get? other := by
  cases h with
  | @saved _ m₁ hnoted htoken =>
    have hsaved : ∀ other, (m₁.saveProfile profile).profiles.get? other =
        if other = token then some profile else m.profiles.get? other := by
      intro other
      rw [← hnoted.profiles_eq, ← htoken]
      exact Table.get?_set ..
    exact ⟨by rw [hsaved, if_pos rfl], fun other hne => by rw [hsaved, if_neg hne]⟩

end Ended

end Memory

/-! ## What is written on each way -/

variable {ledger : Ledger σ} {registry : Registry ρ} {settings : Settings} {now : Moment}
  {token : Address} {w w' : World σ ρ} {result : Except Fault Profile} {entries : ρ → Memory}

/-- The draft of a profile is for the token, if the known profile is. -/
theorem token_draft (ledger : Ledger σ) (now : Moment) (c : Clocked σ) {known : Option Profile}
    (h : ∀ profile ∈ known, profile.token = token) :
    (draft ledger now token c known).token = token := by
  cases known with
  | none => rfl
  | some profile => exact h profile rfl

/-- Failures that come before anything is written: the known profile cannot be looked up, the code
cannot be had, although there may be some, or the analysis of the code is not taken. -/
def FailsEarly (ledger : Ledger σ) (registry : Registry ρ) (settings : Settings) (token : Address)
    (w : World σ ρ) : Prop :=
  let known := registry.findProfile token w.registry
  let code := (codeFinding ledger settings token w.ledger).1
  (∃ fault, known.1 = .error fault) ∨ (∃ fault, code = .error fault ∧ fault.family ≠ .noCode) ∨
    ∃ report fault, code = .ok report ∧
      (registry.appendContract token report known.2).1 = .error fault

/-- Once the known profile is looked up, only the code and its analysis can fail early. -/
theorem failsEarly_iff {known : Option Profile} {s : ρ} {code : Except Fault Code.Report}
    {c : Clocked σ} (hknown : registry.findProfile token w.registry = (.ok known, s))
    (hcode : codeFinding ledger settings token w.ledger = (code, c)) :
    FailsEarly ledger registry settings token w ↔
      (∃ fault, code = .error fault ∧ fault.family ≠ .noCode) ∨
        ∃ report fault, code = .ok report ∧
          (registry.appendContract token report s).1 = .error fault := by
  rw [FailsEarly, hknown, hcode]
  refine or_iff_right ?_
  rintro ⟨fault, heq⟩
  cases heq

/-- A report that is taken comes after the others of the token. -/
theorem entries_of_report (hfalters : registry.Falters entries) {known : Option Profile}
    {s₀ s s₁ : ρ} {report : Code.Report} {analysis : ContractAnalysis}
    (hknown : registry.findProfile token s₀ = (.ok known, s))
    (hreport : registry.appendContract token report s = (.ok analysis, s₁)) :
    entries s₁ = ((entries s₀).appendContract token report).2 := by
  have happend := hfalters.appendContract_ok hreport
  rw [(hfalters.findProfile_ok hknown).1] at happend
  exact (congrArg Prod.snd happend).symm

/-- Linking holders after that does nothing but link. -/
theorem onlyLinked_of_report (hfalters : registry.Falters entries) {known : Option Profile}
    {s₀ s s₁ s₂ : ρ} {report : Code.Report} {analysis : ContractAnalysis} {policy : LinkPolicy}
    {holders : List HolderBalance} {unlinked : List Diagnostic}
    (hknown : registry.findProfile token s₀ = (.ok known, s))
    (hreport : registry.appendContract token report s = (.ok analysis, s₁))
    (hlink : linkHolders registry policy token holders s₁ = (unlinked, s₂)) :
    ((entries s₀).appendContract token report).2.OnlyLinked token (entries s₂) := by
  have hlinked := hfalters.linkHolders_keeps (Memory.OnlyLinked.keptByLinking token (entries s₁))
    policy holders (.refl token (entries s₁))
  rw [hlink, entries_of_report hfalters hknown hreport] at hlinked
  exact hlinked

/-- Nor does it take anything away, if there are new identifiers to give out, and then there still
are. -/
theorem persists_of_report (hfalters : registry.Falters entries) {known : Option Profile}
    {s₀ s s₁ s₂ : ρ} {report : Code.Report} {analysis : ContractAnalysis} {policy : LinkPolicy}
    {holders : List HolderBalance} {unlinked : List Diagnostic} (hsupply : (entries s₀).HasSupply)
    (hknown : registry.findProfile token s₀ = (.ok known, s))
    (hreport : registry.appendContract token report s = (.ok analysis, s₁))
    (hlink : linkHolders registry policy token holders s₁ = (unlinked, s₂)) :
    ((entries s₀).appendContract token report).2.Persists (entries s₂) ∧
      (entries s₂).HasSupply := by
  have hstart := entries_of_report hfalters hknown hreport
  have hsupply₁ : (entries s₁).HasSupply := by
    rw [hstart]
    exact hsupply.issue
  have hpersists := hfalters.linkHolders_keeps (Memory.Persists.keptByLinking token (entries s₁))
    policy holders ⟨.refl _, hsupply₁⟩
  rw [hlink, hstart] at hpersists
  exact hpersists

/-- Saving a profile ends an assessment, whether the registry takes it or not. -/
theorem ended_of_save (hfalters : registry.Falters entries) {m : Memory} {s s' : ρ}
    {profile : Profile} {saved : Except Fault Unit} (hnoted : m.Noted token (entries s))
    (htoken : profile.token = token) (hsave : registry.saveProfile profile s = (saved, s')) :
    m.Ended token (saved.map fun _ => profile) (entries s') := by
  cases saved with
  | error fault =>
    have hkept := hfalters.failed (.saveProfile profile) (Action.map_of_error hsave _)
    exact .failed (hkept ▸ hnoted)
  | ok _ =>
    rw [hfalters.saveProfile_ok hsave]
    exact .saved hnoted htoken

namespace Assessed

/-- **An early failure leaves every entry alone.** -/
theorem kept_of_failsEarly (h : Assessed ledger registry settings now token w result w')
    (hfalters : registry.Falters entries) (hearly : FailsEarly ledger registry settings token w) :
    (∃ fault, result = .error fault) ∧ entries w'.registry = entries w.registry := by
  -- a report that was taken leaves no early failure
  have htaken : ∀ {known s report c analysis s₁},
      registry.findProfile token w.registry = (.ok known, s) →
      codeFinding ledger settings token w.ledger = (.ok report, c) →
      registry.appendContract token report s = (.ok analysis, s₁) → False := by
    intro known s report c analysis s₁ hknown hcode hreport
    rcases (failsEarly_iff hknown hcode).1 hearly with ⟨fault, heq, -⟩ | ⟨_, fault, heq, hfailed⟩
    · cases heq
    · cases heq
      rw [hreport] at hfailed
      cases hfailed
  cases h with
  | unknown hknown =>
    exact ⟨⟨_, rfl⟩, hfalters.failed (.findProfile token) (Action.map_of_error hknown _)⟩
  | codeLost hknown => exact ⟨⟨_, rfl⟩, (hfalters.findProfile_ok hknown).1⟩
  | codeless hknown hcode hfamily =>
    rcases (failsEarly_iff hknown hcode).1 hearly with ⟨_, heq, hne⟩ | ⟨_, _, heq, -⟩
    · cases heq
      exact absurd hfamily hne
    · cases heq
  | reportLost hknown hcode hreport =>
    have hkept := hfalters.failed (.appendContract token _) (Action.map_of_error hreport _)
    exact ⟨⟨_, rfl⟩, hkept.trans (hfalters.findProfile_ok hknown).1⟩
  | holdersLost hknown hcode hreport => exact (htaken hknown hcode hreport).elim
  | snapshotLost hknown hcode hreport => exact (htaken hknown hcode hreport).elim
  | complete hknown hcode hreport => exact (htaken hknown hcode hreport).elim

/-- **Every assessment ends so.** -/
theorem ended (h : Assessed ledger registry settings now token w result w')
    (hfalters : registry.Falters entries) (hsupply : (entries w.registry).HasSupply)
    (hkeyed : (entries w.registry).profiles.KeyedBy Profile.token) :
    (entries w.registry).Ended token result (entries w'.registry) := by
  have hdraft : ∀ {known s}, registry.findProfile token w.registry = (.ok known, s) →
      (draft ledger now token w.ledger known).token = token := by
    intro known s hknown
    rw [(hfalters.findProfile_ok hknown).2]
    exact token_draft ledger now w.ledger fun profile hprofile => hkeyed _ _ hprofile
  cases h with
  | unknown hknown =>
    have hkept := hfalters.failed (.findProfile token) (Action.map_of_error hknown _)
    exact .failed (hkept ▸ .nothing)
  | codeLost hknown => exact .failed ((hfalters.findProfile_ok hknown).1 ▸ .nothing)
  | codeless hknown hcode hfamily hprofile hsave =>
    refine ended_of_save hfalters ((hfalters.findProfile_ok hknown).1 ▸ .nothing) ?_ hsave
    rw [hprofile]
    exact hdraft hknown
  | reportLost hknown hcode hreport =>
    have hkept := hfalters.failed (.appendContract token _) (Action.map_of_error hreport _)
    rw [(hfalters.findProfile_ok hknown).1] at hkept
    exact .failed (hkept ▸ .nothing)
  | holdersLost hknown hcode hreport hholders hprofile hsave =>
    -- holders that cannot be had are as good as none to be linked
    have hlinked := onlyLinked_of_report hfalters hknown hreport
      (linkHolders_nil registry settings.linkPolicy token _)
    obtain ⟨hpersists, hsupply'⟩ := persists_of_report hfalters hsupply hknown hreport
      (linkHolders_nil registry settings.linkPolicy token _)
    refine ended_of_save hfalters (.links hlinked hpersists hsupply') ?_ hsave
    rw [hprofile]
    exact hdraft hknown
  | snapshotLost hknown hcode hreport hholders hlink hfound hsnapshot =>
    have hlinked := onlyLinked_of_report hfalters hknown hreport hlink
    obtain ⟨hpersists, hsupply'⟩ := persists_of_report hfalters hsupply hknown hreport hlink
    have hkept := hfalters.failed (.appendHolders token _) (Action.map_of_error hsnapshot _)
    rw [hkept]
    exact .failed (.links hlinked hpersists hsupply')
  | complete hknown hcode hreport hholders hlink hfound hsnapshot hprofile hsave =>
    have hlinked := onlyLinked_of_report hfalters hknown hreport hlink
    obtain ⟨hpersists, hsupply'⟩ := persists_of_report hfalters hsupply hknown hreport hlink
    have happend := congrArg Prod.snd (hfalters.appendHolders_ok hsnapshot)
    dsimp only at happend
    refine ended_of_save hfalters (happend ▸ .snapshot _ hlinked hpersists hsupply') ?_ hsave
    rw [hprofile]
    exact hdraft hknown

end Assessed

/-! ## All or nothing -/

/-- A registry that has new identifiers to give out still has some after an assessment, however that
ends. -/
theorem hasSupply_assess (ledger : Ledger σ) {registry : Registry ρ} {entries : ρ → Memory}
    (hfalters : registry.Falters entries) (settings : Settings) (now : Moment) (token : Address)
    (w : World σ ρ) (hkeyed : (entries w.registry).profiles.KeyedBy Profile.token)
    (hsupply : (entries w.registry).HasSupply) :
    (entries (assess ledger registry settings now token w).2.registry).HasSupply :=
  ((assessed ledger registry settings now token w).ended hfalters hsupply hkeyed).hasSupply hsupply

/-- **An assessment says all or nothing.** In a registry in memory that falters, that came about
from requests and has new identifiers to give out, an assessment of a token leaves all else alone,
however it ends. With a fault all profiles are as they were; with a profile, that one is the token's
and all others are as they were. An early failure leaves every entry alone. -/
theorem assess_atomic (ledger : Ledger σ) {registry : Registry ρ} {entries : ρ → Memory}
    (hfalters : registry.Falters entries) (settings : Settings) (now : Moment) (token : Address)
    (w : World σ ρ) {events : List (Registry.Request × Registry.Response)}
    (hran : Memory.Ran {} events (entries w.registry)) (hsupply : (entries w.registry).HasSupply) :
    let m := entries w.registry
    let result := (assess ledger registry settings now token w).1
    let m' := entries (assess ledger registry settings now token w).2.registry
    m.Framed token m' ∧
      (∀ fault, result = .error fault → m'.profiles = m.profiles) ∧
      (∀ profile, result = .ok profile → m'.profiles.get? token = some profile ∧
        ∀ other, other ≠ token → m'.profiles.get? other = m.profiles.get? other) ∧
      (FailsEarly ledger registry settings token w →
        (∃ fault, result = .error fault) ∧ m' = m) := by
  intro m result m'
  -- what became of the registry is told by the course of the assessment
  have hcourse := assessed ledger registry settings now token w
  have hkeyed := (Memory.consistent_empty.of_ran hran).profiles_keyed
  have hended : m.Ended token result m' := hcourse.ended hfalters hsupply hkeyed
  refine ⟨hended.framed, fun fault hfault => ?_, fun profile hprofile => ?_,
    hcourse.kept_of_failsEarly hfalters⟩
  · rw [hfault] at hended
    exact hended.profiles_of_error
  · rw [hprofile] at hended
    exact hended.profiles_of_ok

/-- A ledger that knows of no newest block, so that nobody's holders can be had from it. -/
def headlessLedger : Ledger Recorded :=
  Recorded.ledger.disturbed { head := { fault := some ⟨.rpcError, "no newest block"⟩ } }

/-- A registry that knows a profile of one token. -/
def profiledMemory : Memory := Memory.saveProfile (.pending default ⟨0, 0⟩) {}

/-- That registry came about from one request. -/
theorem ran_profiledMemory :
    Memory.Ran {} [(.saveProfile (.pending default ⟨0, 0⟩), .saved)] profiledMemory :=
  .serve .start 0 ⟨0, 0⟩ trivial rfl

/-- An assessment that ends when the new profile is to be saved has added an analysis of the code,
and the token still has its old profile. -/
theorem assess_atomic_unsaved :
    let registry := Memory.registry.guarded { offline := [.saveProfile] }
    let w : World Recorded Memory := ⟨.start bareRecords, profiledMemory⟩
    let result := assess headlessLedger registry {} ⟨1, 0⟩ default w
    registry.Falters id ∧
      Memory.Ran {} [(.saveProfile (.pending default ⟨0, 0⟩), .saved)] w.registry ∧
      w.registry.HasSupply ∧ result.1 = .error ⟨.storeError, "store offline"⟩ ∧
      (result.2.registry.contractAnalyses default).length = 1 ∧
      result.2.registry.profiles = profiledMemory.profiles := by
  intro registry w result
  have hfalters : registry.Falters id := guarded_falters _
  have hsupply : w.registry.HasSupply := fun n hn => Memory.hasSupply_empty n hn
  obtain ⟨-, hlost, -⟩ :=
    assess_atomic headlessLedger hfalters {} ⟨1, 0⟩ default w ran_profiledMemory hsupply
  exact ⟨hfalters, ran_profiledMemory, hsupply, rfl, rfl, hlost _ rfl⟩

end TokenAudit
