import TokenAudit.Proofs.Profile.History
import TokenAudit.Proofs.Scan.Standing

/-! # When a token is cleared

The advice on a token goes by the score of its code and by what is known about its holders. It is
cleared only if both are known, whatever the ledger and the registry do and however the thresholds
are set: nothing that cannot be had, and no fault, ever speaks for a token.

* `recommend_eq_noGo_iff`, `recommend_eq_go_iff` — when the advice is to stay away, and when nothing
  speaks against the token;
* `name_mem_flags_iff` — the flags of a profile tell what stands out among the holders;
* `AdvisedBy` — what the advice of a profile goes by.

Main statement: `assess_advised`. -/

namespace TokenAudit

variable {σ ρ : Type}

/-! ## Advice -/

section Advice

variable {score : Nat} {anomalies : Option (List Anomaly)} {settings : Settings}

/-- Too low a score is advised against, whatever is known of the holders. -/
theorem recommend_of_lt (h : score < settings.noGoBelow) :
    recommend score anomalies settings = .noGo := by
  cases anomalies with
  | none => exact if_pos h
  | some found => exact if_pos h

/-- Without knowledge of the holders, a score that is not too low calls for a closer look. -/
theorem recommend_none_of_le (h : settings.noGoBelow ≤ score) :
    recommend score none settings = .enhancedDueDiligence := by
  simp [recommend, Nat.not_lt.2 h]

/-- With the holders known, a high score is cleared unless one wallet owns the majority. -/
theorem recommend_some_of_le (h : settings.noGoBelow ≤ score) (found : List Anomaly) :
    recommend score (some found) settings =
      if settings.eddBelow ≤ score ∧ .majorityOwnedByOneWallet ∉ found then .go
      else .enhancedDueDiligence := by
  by_cases hgo : settings.eddBelow ≤ score ∧ .majorityOwnedByOneWallet ∉ found
  · simp [recommend, Nat.not_lt.2 h, Nat.not_lt.2 hgo.1, hgo]
  · have hedd : score < settings.eddBelow ∨ .majorityOwnedByOneWallet ∈ found := by
      rwa [not_and_or, Nat.not_le, not_not] at hgo
    simp [recommend, Nat.not_lt.2 h, hedd, hgo]

/-- Unless the score is too low, there is other advice than to stay away. -/
theorem recommend_of_le (h : settings.noGoBelow ≤ score) (anomalies : Option (List Anomaly)) :
    recommend score anomalies settings = .go ∨
      recommend score anomalies settings = .enhancedDueDiligence := by
  cases anomalies with
  | none => exact .inr (recommend_none_of_le h)
  | some found =>
    rw [recommend_some_of_le h]
    exact ite_eq_or_eq ..

/-- Only too low a score is advised against. -/
theorem recommend_eq_noGo_iff :
    recommend score anomalies settings = .noGo ↔ score < settings.noGoBelow := by
  refine ⟨fun hnoGo => Nat.not_le.1 fun hle => ?_, recommend_of_lt⟩
  rcases recommend_of_le hle anomalies with hgo | hedd
  · rw [hgo] at hnoGo
    cases hnoGo
  · rw [hedd] at hnoGo
    cases hnoGo

/-- Nothing speaks against a token only if its holders are known, and none of them owns the
majority. -/
theorem recommend_eq_go_iff :
    recommend score anomalies settings = .go ↔
      settings.noGoBelow ≤ score ∧ settings.eddBelow ≤ score ∧
        ∃ found, anomalies = some found ∧ .majorityOwnedByOneWallet ∉ found := by
  rcases Nat.lt_or_ge score settings.noGoBelow with hlow | hle
  · rw [recommend_of_lt hlow]
    exact iff_of_false Recommendation.noConfusion fun h => absurd hlow (Nat.not_lt.2 h.1)
  · cases anomalies with
    | none =>
      rw [recommend_none_of_le hle]
      refine iff_of_false Recommendation.noConfusion ?_
      rintro ⟨-, -, found, heq, -⟩
      cases heq
    | some found =>
      rw [recommend_some_of_le hle]
      simp [hle]

/-- There is always some advice. -/
theorem recommend_ne_pending : recommend score anomalies settings ≠ .pending := by
  rcases Nat.lt_or_ge score settings.noGoBelow with hlow | hle
  · rw [recommend_of_lt hlow]
    exact Recommendation.noConfusion
  · rcases recommend_of_le hle anomalies with hgo | hedd
    · rw [hgo]
      exact Recommendation.noConfusion
    · rw [hedd]
      exact Recommendation.noConfusion

end Advice

/-! ## Flags -/

/-- Different anomalies have different names. -/
theorem Anomaly.name_injective : Function.Injective Anomaly.name := by
  intro a b h
  cases a <;> cases b <;> first | rfl | exact absurd h (by decide)

/-- What is wrong with a code and what stands out among holders go by different names. -/
theorem Anomaly.name_ne_flag (anomaly : Anomaly) (flag : Code.Flag) : anomaly.name ≠ flag.name := by
  cases anomaly <;> cases flag <;> decide

/-- **The flags tell what stands out among the holders**, and nothing if they are unknown. -/
theorem name_mem_flags_iff {settings : Settings} {profile : Profile} {report : Code.Report}
    {snapshot : Option Snapshot} (anomaly : Anomaly) :
    anomaly.name ∈ (withFindings settings profile report snapshot).flags ↔
      ∃ found ∈ snapshot, anomaly ∈ found.anomalies := by
  have hcode : anomaly.name ∉ report.flagNames := by
    intro hmem
    obtain ⟨flag, -, heq⟩ := List.mem_map.1 hmem
    exact anomaly.name_ne_flag flag heq.symm
  rw [withFindings, List.mem_append, or_iff_right hcode]
  cases snapshot with
  | none => simp
  | some found =>
    have hname : anomaly.name ∈ found.anomalyNames ↔ anomaly ∈ found.anomalies :=
      List.mem_map_of_injective Anomaly.name_injective
    simpa using hname

/-! ## Clearance -/

/-- Whether a profile says anything about an area. -/
def Profile.Covers (profile : Profile) (area : String) : Prop := area ∈ profile.modules.map Prod.fst

instance (profile : Profile) (area : String) : Decidable (profile.Covers area) :=
  inferInstanceAs (Decidable (_ ∈ _))

/-- What the advice of a profile goes by, from what became of code and holders. -/
structure AdvisedBy (settings : Settings) (code : Except Fault Code.Report)
    (holders : Except Fault Snapshot) (profile : Profile) : Prop where
  /-- The advice is to stay away when there is no code, or too low a score. -/
  noGo_iff : profile.recommendation = .noGo ↔
    (∃ fault, code = .error fault ∧ fault.family = .noCode) ∨ profile.riskScore < settings.noGoBelow
  /-- Nothing speaks against the token when the code is there with a score that is high enough, and
  the holders are known, none of whom owns the majority. -/
  go_iff : profile.recommendation = .go ↔
    (∃ report, code = .ok report) ∧ settings.noGoBelow ≤ profile.riskScore ∧
      settings.eddBelow ≤ profile.riskScore ∧ profile.Covers "holders" ∧
      "majority_owned_by_one_wallet" ∉ profile.flags
  /-- In all other cases the advice is to look closer. -/
  otherwise : profile.recommendation ≠ .noGo → profile.recommendation ≠ .go →
    profile.recommendation = .enhancedDueDiligence
  ne_pending : profile.recommendation ≠ .pending
  /-- The profile covers the holders when they could be had. -/
  covers_iff : profile.Covers "holders" ↔
    (∃ report, code = .ok report) ∧ ∃ snapshot, holders = .ok snapshot
  /-- Whatever it is for which the holders cannot be had, the token is not cleared. -/
  of_lost : ∀ fault, holders = .error fault →
    ¬ profile.Covers "holders" ∧ profile.recommendation ≠ .go

/-- A token without code is never cleared. -/
theorem advisedBy_withoutCode (settings : Settings) (profile : Profile) {fault : Fault}
    (hfamily : fault.family = .noCode) (holders : Except Fault Snapshot) :
    AdvisedBy settings (.error fault) holders (withoutCode profile fault) := by
  have hcovers : ¬ (withoutCode profile fault).Covers "holders" := by
    simp [Profile.Covers, withoutCode]
  have hfound : ¬ ∃ report : Code.Report, Except.error fault = .ok report := by
    rintro ⟨report, heq⟩
    cases heq
  have hgo : (withoutCode profile fault).recommendation ≠ .go := Recommendation.noConfusion
  exact
    { noGo_iff := iff_of_true rfl (Or.inl ⟨fault, rfl, hfamily⟩)
      go_iff := iff_of_false hgo fun h => hfound h.1
      otherwise := fun hnoGo _ => absurd rfl hnoGo
      ne_pending := Recommendation.noConfusion
      covers_iff := iff_of_false hcovers fun h => hfound h.1
      of_lost := fun _ _ => ⟨hcovers, hgo⟩ }

/-- The holders are covered exactly if there is a snapshot of them. -/
theorem covers_withFindings {settings : Settings} {profile : Profile} {report : Code.Report}
    {snapshot : Option Snapshot} :
    (withFindings settings profile report snapshot).Covers "holders" ↔
      ∃ found, snapshot = some found := by
  cases snapshot with
  | none => simp [Profile.Covers, withFindings]
  | some found => simp [Profile.Covers, withFindings]

/-- A token with code is cleared only if its holders are known. -/
theorem advisedBy_withFindings (settings : Settings) (profile : Profile) (report : Code.Report)
    (holders : Except Fault Snapshot) :
    AdvisedBy settings (.ok report) holders
      (withFindings settings profile report holders.toOption) := by
  set advised := withFindings settings profile report holders.toOption with hadvised
  have hadvice : advised.recommendation =
      recommend advised.riskScore (holders.toOption.map Snapshot.anomalies) settings := rfl
  have hfound : ∃ found, Except.ok report = (.ok found : Except Fault Code.Report) := ⟨report, rfl⟩
  have hcovers : advised.Covers "holders" ↔ ∃ snapshot, holders = .ok snapshot := by
    rw [hadvised, covers_withFindings]
    cases holders with
    | error fault => simp [Except.toOption]
    | ok snapshot => simp [Except.toOption]
  -- only the advice to go looks at the holders
  have hgo : advised.recommendation = .go ↔
      (∃ report', Except.ok report = (.ok report' : Except Fault Code.Report)) ∧
        settings.noGoBelow ≤ advised.riskScore ∧ settings.eddBelow ≤ advised.riskScore ∧
        advised.Covers "holders" ∧ Anomaly.majorityOwnedByOneWallet.name ∉ advised.flags := by
    rw [hadvice, recommend_eq_go_iff, and_iff_right hfound, hcovers, hadvised, name_mem_flags_iff]
    cases holders with
    | error fault => simp [Except.toOption]
    | ok snapshot => simp [Except.toOption]
  exact
    { noGo_iff := by
        rw [hadvice, recommend_eq_noGo_iff, or_iff_right]
        rintro ⟨fault, heq, -⟩
        cases heq
      go_iff := hgo
      otherwise := fun hnoGo hnotGo => by
        rw [hadvice, ne_eq, recommend_eq_noGo_iff, Nat.not_lt] at hnoGo
        exact (recommend_of_le hnoGo _).resolve_left hnotGo
      ne_pending := recommend_ne_pending
      covers_iff := by rw [hcovers, and_iff_right hfound]
      of_lost := fun fault hlost => by
        have hcovers' : ¬ advised.Covers "holders" := by
          rw [hcovers, hlost]
          rintro ⟨snapshot, heq⟩
          cases heq
        exact ⟨hcovers', fun h => hcovers' (hgo.1 h).2.2.2.1⟩ }

/-- **A token is cleared only if everything is known that speaks for it.** Whatever the ledger and
the registry do, and however the thresholds are set, the advice of an assessment goes by what became
of code and holders. -/
theorem assess_advised (ledger : Ledger σ) (registry : Registry ρ) (settings : Settings)
    (now : Moment) (token : Address) (w : World σ ρ) {profile : Profile}
    (h : (assess ledger registry settings now token w).1 = .ok profile) :
    AdvisedBy settings (codeFinding ledger settings token w.ledger).1
      (holderFinding ledger settings token w.ledger).1 profile := by
  have hcourse := assessed ledger registry settings now token w
  rw [h] at hcourse
  -- unless the registry refuses, the findings alone decide
  rcases hcourse.refuses_or_eq_appraise with ⟨_, _, _, _, -, -, hfault⟩ | ⟨known, s, -, happraise⟩
  · cases hfault
  cases hcode : (codeFinding ledger settings token w.ledger).1 with
  | ok report =>
    rw [hcode, appraise] at happraise
    cases happraise
    exact advisedBy_withFindings ..
  | error fault =>
    rw [hcode, appraise] at happraise
    by_cases hfamily : fault.family = .noCode
    · rw [if_pos hfamily] at happraise
      cases happraise
      exact advisedBy_withoutCode settings _ hfamily _
    · rw [if_neg hfamily] at happraise
      cases happraise

/-- Without any transfers, the holders of the token can be had, and nothing stands out among
them. -/
theorem holderFinding_bareRecords (settings : Settings) (hsize : 0 < settings.chunkSize) :
    ∃ snapshot : Snapshot,
      (holderFinding Recorded.ledger settings default (.start bareRecords)).1 = .ok snapshot ∧
        snapshot.anomalies = [] := by
  have hscan := scan_of_calm settings { token := default }
    (c := (codeFinding Recorded.ledger settings default (.start bareRecords)).2) rfl hsize
    (Nat.zero_le _)
  refine ⟨_, hscan, ?_⟩
  -- there are no logs to be found
  show (logFindings settings default _ _ (Recorded.find [] _)).anomalies = []
  rw [Recorded.find, List.filter_nil, List.map_nil, List.mergeSort_nil]
  rfl

/-- A token with code and without any transfers is cleared where every score is high enough,
although no account can be looked up. -/
theorem assess_advised_to_go :
    let settings : Settings := { noGoBelow := 0, eddBelow := 0 }
    let registry := Memory.registry.guarded { offline := [.findAddress] }
    let w : World Recorded Memory := ⟨.start bareRecords, {}⟩
    ∃ profile, (assess Recorded.ledger registry settings ⟨1, 0⟩ default w).1 = .ok profile ∧
      profile.Covers "holders" ∧ profile.recommendation = .go := by
  intro settings registry w
  have hcode := codeFinding_bareRecords settings
  obtain ⟨snapshot, hholders, hcalm⟩ := holderFinding_bareRecords settings (by decide)
  have hassess := assess_eq_appraise Recorded.ledger (guarded_falters { offline := [.findAddress] })
    (guarded_keepsFiles (by decide)) settings ⟨1, 0⟩ default w .start
  rw [hcode, hholders] at hassess
  refine ⟨_, hassess, ?_⟩
  have hadvised := assess_advised Recorded.ledger registry settings ⟨1, 0⟩ default w hassess
  have hcovers := hadvised.covers_iff.2 ⟨⟨_, hcode⟩, ⟨snapshot, hholders⟩⟩
  refine ⟨hcovers, hadvised.go_iff.2 ⟨⟨_, hcode⟩, Nat.zero_le _, Nat.zero_le _, hcovers, ?_⟩⟩
  intro hmem
  obtain ⟨found, heq, howned⟩ := (name_mem_flags_iff .majorityOwnedByOneWallet).1 hmem
  cases heq
  rw [hcalm] at howned
  cases howned

end TokenAudit
