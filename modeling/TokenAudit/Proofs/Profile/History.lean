import TokenAudit.Proofs.Profile.Course
import TokenAudit.Proofs.Registry.Faltering

/-! # Assessments and older ones

An assessment starts from the profile that is known, and takes nothing over from it but the token.
So what it comes to hangs on the ledger and the settings. It does not matter which registry it is
made in, what that holds, or which holders can be linked there, as long as it takes analyses and
profiles and gives profiles back.

* `Registry.KeepsFiles` — a registry that does so, and `guarded_keepsFiles`;
* `appraise_draft` — what the findings lead to, from whatever profile.

Main statement: `assess_ignores_history`. -/

namespace TokenAudit

open Registry (Request Response)

variable {σ ρ : Type}

/-! ## Registries that keep files -/

/-- Whether a registry always takes analyses and profiles, and always gives profiles back. -/
def Registry.KeepsFiles (registry : Registry ρ) : Prop :=
  ∀ request : Request, request.IsFiling →
    ∀ s, ∃ response s', request.ask registry s = (.ok response, s')

/-- A registry that keeps files refuses none. -/
theorem Registry.KeepsFiles.not_refuses {registry : Registry ρ} (h : registry.KeepsFiles)
    {α : Type} (result : Except Fault α) : ¬ registry.Refuses result := by
  rintro ⟨request, s, s', fault, hfiling, hask, -⟩
  obtain ⟨response, s₁, hanswered⟩ := h request hfiling s
  rw [hask] at hanswered
  cases hanswered

/-- **A guarded registry in memory keeps files**, if nothing that files take is out of order. -/
theorem guarded_keepsFiles {guard : Guard}
    (h : ∀ method ∈ [.findProfile, .appendContract, .appendHolders, .saveProfile],
      guard.offline.contains method = false) :
    (Memory.registry.guarded guard).KeepsFiles := by
  intro request hfiling m
  -- an operation that is in order is what it is without the guard
  have hpass : ∀ {α : Type} (method : Registry.Method) (action : Action Memory α),
      method ∈ [.findProfile, .appendContract, .appendHolders, .saveProfile] →
        guard.pass method action m = action m := by
    intro α method action hmethod
    rw [Guard.pass, h method hmethod, if_neg Bool.false_ne_true]
  have hsame : request.ask (Memory.registry.guarded guard) m = request.ask Memory.registry m := by
    cases request with
    | findProfile => exact Action.map_congr (hpass .findProfile _ (by decide)) _
    | appendContract => exact Action.map_congr (hpass .appendContract _ (by decide)) _
    | appendHolders => exact Action.map_congr (hpass .appendHolders _ (by decide)) _
    | saveProfile => exact Action.map_congr (hpass .saveProfile _ (by decide)) _
    | _ => exact hfiling.elim
  obtain ⟨response, m', hask, -⟩ := Memory.ask_change request m
  exact ⟨response, m', hsame.trans hask⟩

/-! ## Drafts -/

/-- The draft that is made from a known profile differs from the one that is made from none only in
what the findings say anew, if both are for the same token. -/
theorem appraise_draft (ledger : Ledger σ) (settings : Settings) (now : Moment) {token : Address}
    (c : Clocked σ) {known : Option Profile} (hknown : ∀ profile ∈ known, profile.token = token)
    (holders : Except Fault Snapshot) (code : Except Fault Code.Report) :
    appraise settings (draft ledger now token c known) holders code =
      appraise settings (draft ledger now token c none) holders code := by
  cases known with
  | none => rfl
  | some profile =>
    -- of the known profile only the token is left over
    have htoken : profile.token = token := hknown profile rfl
    cases code with
    | error fault =>
      simp only [appraise, withoutCode, draft, Option.getD_some, Option.getD_none, htoken]
      rfl
    | ok report =>
      simp only [appraise, withFindings, draft, Option.getD_some, Option.getD_none, htoken]
      rfl

/-- At another time, the findings lead to the same but for the time. -/
theorem appraise_later (ledger : Ledger σ) (settings : Settings) (now later : Moment)
    (token : Address) (c : Clocked σ) (holders : Except Fault Snapshot)
    (code : Except Fault Code.Report) :
    appraise settings (draft ledger later token c none) holders code =
      (appraise settings (draft ledger now token c none) holders code).map
        fun profile => { profile with updatedAt := later } := by
  cases code with
  | error fault =>
    rw [appraise, appraise]
    split
    · rfl
    · rfl
  | ok report => rfl

/-! ## No history -/

/-- **What an assessment comes to** in a registry that keeps files, whatever that holds and
whichever holders can be linked in it. -/
theorem assess_eq_appraise (ledger : Ledger σ) {registry : Registry ρ} {entries : ρ → Memory}
    (hfalters : registry.Falters entries) (hfiles : registry.KeepsFiles) (settings : Settings)
    (now : Moment) (token : Address) (w : World σ ρ) {events : List (Request × Response)}
    (hran : Memory.Ran {} events (entries w.registry)) :
    (assess ledger registry settings now token w).1 =
      appraise settings (draft ledger now token w.ledger none)
        (holderFinding ledger settings token w.ledger).1
        (codeFinding ledger settings token w.ledger).1 := by
  have hkeyed := (Memory.consistent_empty.of_ran hran).profiles_keyed
  rcases (assessed ledger registry settings now token w).refuses_or_eq_appraise with
    hrefuses | ⟨known, s, hknown, happraise⟩
  · exact absurd hrefuses (hfiles.not_refuses _)
  · have hprofiles := (hfalters.findProfile_ok hknown).2
    rw [happraise, appraise_draft]
    rw [hprofiles]
    exact fun profile hprofile => hkeyed _ _ hprofile

/-- **An assessment does not depend on what was there before.** Two registries in memory that
falter, each of which came about from requests of its own, keep files. Assessments of a token in
both of them, at one state of the ledger, come to the same fault or to profiles that differ only in
the time. -/
theorem assess_ignores_history {ρ' : Type} (ledger : Ledger σ) {registry : Registry ρ}
    {registry' : Registry ρ'} {entries : ρ → Memory} {entries' : ρ' → Memory}
    (hfalters : registry.Falters entries) (hfalters' : registry'.Falters entries')
    (hfiles : registry.KeepsFiles) (hfiles' : registry'.KeepsFiles) (settings : Settings)
    (now now' : Moment) (token : Address) (c : Clocked σ) {s : ρ} {s' : ρ'}
    {events events' : List (Request × Response)} (hran : Memory.Ran {} events (entries s))
    (hran' : Memory.Ran {} events' (entries' s')) :
    (assess ledger registry' settings now' token ⟨c, s'⟩).1 =
      (assess ledger registry settings now token ⟨c, s⟩).1.map
        fun profile => { profile with updatedAt := now' } := by
  rw [assess_eq_appraise ledger hfalters' hfiles' settings now' token ⟨c, s'⟩ hran',
    assess_eq_appraise ledger hfalters hfiles settings now token ⟨c, s⟩ hran, appraise_later]

/-- A profile that has something in every field. -/
def staleProfile : Profile where
  token := default
  metadata := { name := some "Old", symbol := some "OLD", decimals := some 18 }
  riskScore := 85
  recommendation := .go
  flags := ["nonstandard_transfer"]
  modules := [("contract", .obj []), ("holders", .obj [])]
  updatedAt := ⟨5, 0⟩

/-- A token without code comes to the same profile as ever, where no account can be looked up and an
older profile is known. -/
theorem assess_ignores_staleProfile :
    let registry := Memory.registry.guarded {}
    let registry' := Memory.registry.guarded { offline := [.findAddress, .linkToken] }
    let stale : Memory := Memory.saveProfile staleProfile {}
    registry.Falters id ∧ registry'.Falters id ∧ registry.KeepsFiles ∧ registry'.KeepsFiles ∧
      Memory.Ran {} [] {} ∧ Memory.Ran {} [(.saveProfile staleProfile, .saved)] stale ∧
      (assess Recorded.ledger registry' {} ⟨6, 0⟩ default ⟨.start {}, stale⟩).1 =
        (assess Recorded.ledger registry {} ⟨1, 0⟩ default ⟨.start {}, {}⟩).1.map
          fun profile => { profile with updatedAt := ⟨6, 0⟩ } := by
  intro registry registry' stale
  have hfiles : registry.KeepsFiles := guarded_keepsFiles (by decide)
  have hfiles' : registry'.KeepsFiles := guarded_keepsFiles (by decide)
  have hran : Memory.Ran {} [] {} := .start
  have hran' : Memory.Ran {} [(.saveProfile staleProfile, .saved)] stale :=
    .serve .start 0 ⟨0, 0⟩ trivial rfl
  have hsame := assess_ignores_history Recorded.ledger (guarded_falters _)
    (guarded_falters _) hfiles hfiles' {} ⟨1, 0⟩ ⟨6, 0⟩ default (.start {}) hran hran'
  exact ⟨guarded_falters _, guarded_falters _, hfiles, hfiles', hran, hran', hsame⟩

end TokenAudit
