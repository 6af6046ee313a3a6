import Mathlib.Tactic.Set
import TokenAudit.Scan.Fetch

/-! # The course of a fetch

While the chunks of a window are fetched, several are on their way at once, and which of them goes
on next hangs on what they wait for and on rounds. To the ledger all of this comes down to one
thing: time and again some chunk that is not finished goes on by one stage. What every chunk keeps
to, whichever of them goes on, holds of what comes out.

* `Flight.course` — every chunk with its stage, in the order of chunks, whether it has landed, is on
  its way or still waits;
* `Flight.course_step` — a step leaves the course alone or lets one chunk of it go on;
* `Flight.Steady` — nothing that could go on is forgotten.

Main statements: `fetchChunks_induction` (what every single stage keeps, a whole fetch keeps) and
`fetchChunks_windows` (each chunk comes out once, in its place). -/

namespace TokenAudit

variable {σ : Type}

/-- A chunk that is done, with its last stage. -/
def ChunkResult.arrived (r : ChunkResult) : Window × Stage σ := (r.window, .finished r.outcome)

/-- A chunk on its way, with its stage. -/
def Errand.underway (t : Errand σ) : Window × Stage σ := (t.window, t.stage)

/-- A chunk that waits: its first request is still to be made. -/
def Window.awaiting (w : Window) : Window × Stage σ := (w, .asking 1)

/-- What holds of all chunks of a course still holds when one of them has gone on, if it holds of
that one and the others do not lose it. -/
theorem forall_mem_advanced {P Q : Window × Stage σ → Prop} {before after : List (Window × Stage σ)}
    {p q : Window × Stage σ} (h : ∀ t ∈ before ++ p :: after, P t) (hothers : ∀ t, P t → Q t)
    (hq : Q q) : ∀ t ∈ before ++ q :: after, Q t := by
  rw [List.forall_mem_append, List.forall_mem_cons] at h ⊢
  obtain ⟨hbefore, -, hafter⟩ := h
  exact ⟨fun t ht => hothers t (hbefore t ht), hq, fun t ht => hothers t (hafter t ht)⟩

/-! ## Chunks that land and set out -/

namespace Errand

/-- Landing takes finished errands off the front and keeps all that is told of them by their
outcomes. -/
theorem map_land {β : Type} {ofResult : ChunkResult → β} {ofErrand : Errand σ → β}
    (h : ∀ t outcome, t.stage = .finished outcome → ofErrand t = ofResult ⟨t.window, outcome⟩)
    (errands : List (Errand σ)) :
    (land errands).1.map ofResult ++ (land errands).2.map ofErrand = errands.map ofErrand := by
  induction errands with
  | nil => rfl
  | cons t rest ih =>
    rw [land]
    cases houtcome : t.stage.outcome? with
    | none => rfl
    | some outcome =>
      have hstage : t.stage = .finished outcome := by
        cases hs : t.stage <;> rw [hs] at houtcome <;> cases houtcome
        rfl
      show ofResult ⟨t.window, outcome⟩ :: _ = ofErrand t :: rest.map ofErrand
      rw [h t outcome hstage, ← ih]
      rfl

/-- What is told of errands that set out alike is told of their chunks. -/
theorem map_setOut {β : Type} {ofErrand : Errand σ → β} {ofWindow : Window → β} {time round : Nat}
    (h : ∀ w rank, ofErrand ⟨w, .asking 1, none, ⟨time, round, rank⟩⟩ = ofWindow w) (rank : Nat)
    (windows : List Window) :
    (setOut time round rank windows).map ofErrand = windows.map ofWindow := by
  induction windows generalizing rank with
  | nil => rfl
  | cons w rest ih => rw [setOut, List.map_cons, List.map_cons, h, ih]

/-- Landing keeps every chunk with its stage, in the same order. -/
theorem arrived_land (errands : List (Errand σ)) :
    (land errands).1.map ChunkResult.arrived ++ (land errands).2.map underway =
      errands.map underway := by
  refine map_land (fun t outcome hstage => ?_) errands
  rw [underway, hstage]
  rfl

/-- What is left after landing does not begin with a finished errand. -/
theorem outcome?_of_land {errands rest : List (Errand σ)} {t : Errand σ}
    (h : (land errands).2 = t :: rest) : t.stage.outcome? = none := by
  induction errands with
  | nil => cases h
  | cons u more ih =>
    rw [land] at h
    cases houtcome : u.stage.outcome? with
    | none =>
      rw [houtcome] at h
      cases h
      exact houtcome
    | some outcome =>
      rw [houtcome] at h
      exact ih h

/-- Chunks that set out are about to be asked for, as those that wait. -/
theorem underway_setOut (time round rank : Nat) (windows : List Window) :
    (setOut (σ := σ) time round rank windows).map underway = windows.map Window.awaiting :=
  map_setOut (fun _ _ => rfl) rank windows

/-- Each chunk sets out with an errand of its own. -/
theorem length_setOut (time round rank : Nat) (windows : List Window) :
    (setOut (σ := σ) time round rank windows).length = windows.length := by
  simpa using congrArg List.length (underway_setOut (σ := σ) time round rank windows)

/-- Where no errand sets out, there was no chunk. -/
theorem eq_nil_of_setOut {time round rank : Nat} {windows : List Window}
    (h : setOut (σ := σ) time round rank windows = []) : windows = [] := by
  rw [← List.length_eq_zero_iff, ← length_setOut (σ := σ) time round rank, h, List.length_nil]

/-- An errand that sets out is not finished. -/
theorem outcome?_of_setOut {time round rank : Nat} {windows : List Window} {t : Errand σ}
    (h : t ∈ setOut (σ := σ) time round rank windows) : t.stage.outcome? = none := by
  induction windows generalizing rank with
  | nil => cases h
  | cons w rest ih =>
    rw [setOut, List.mem_cons] at h
    rcases h with rfl | h
    · rfl
    · exact ih h

/-- When no errand goes on, all are finished. -/
theorem finished_of_next? {errands : List (Errand σ)} (h : next? errands = none) :
    ∀ t ∈ errands, t.stage.outcome? ≠ none := by
  induction errands with
  | nil => exact List.forall_mem_nil _
  | cons t rest ih =>
    rw [List.forall_mem_cons]
    rw [next?] at h
    cases hrest : next? rest with
    | none =>
      rw [hrest] at h
      refine ⟨fun hstage => ?_, ih hrest⟩
      rw [hstage] at h
      cases h
    | some found =>
      rw [hrest] at h
      dsimp only at h
      split at h <;> cases h

end Errand

namespace Flight

/-! ## The course -/

/-- Every chunk with its stage, in the order of chunks. -/
def course (f : Flight σ) : List (Window × Stage σ) :=
  f.landed.map ChunkResult.arrived ++ f.active.map Errand.underway ++ f.waiting.map Window.awaiting

/-- Landing and setting out move chunks between the parts of a course, not within it. -/
theorem course_refill (width : Nat) (f : Flight σ) : (refill width f).course = f.course := by
  have hland := Errand.arrived_land f.active
  simp only [course, refill, List.map_append, Errand.underway_setOut]
  generalize width - (Errand.land f.active).2.length = room
  rw [← hland]
  simp only [List.append_assoc]
  rw [← List.map_append, List.take_append_drop]

/-- Coming to a round leaves the course alone. -/
@[simp] theorem course_enter (place : Place) (f : Flight σ) :
    (f.enter place).course = f.course := by
  unfold enter
  split <;> rfl

/-- Coming to a round leaves the state of the ledger alone. -/
@[simp] theorem state_enter (place : Place) (f : Flight σ) : (f.enter place).state = f.state := by
  unfold enter
  split <;> rfl

/-- Waiting leaves the course alone. -/
theorem course_delay {f : Flight σ} {before after : List (Errand σ)} {errand : Errand σ}
    (place : Nat → Place) (hactive : f.active = before ++ errand :: after) :
    (f.delay before errand after place).course = f.course := by
  simp only [course, delay, hactive, List.map_append, List.map_cons]
  rfl

/-- The course around an errand on its way. -/
theorem course_of_active {f : Flight σ} {before after : List (Errand σ)} {errand : Errand σ}
    (hactive : f.active = before ++ errand :: after) :
    f.course =
      (f.landed.map ChunkResult.arrived ++ before.map Errand.underway) ++
        (errand.window, errand.stage) ::
          (after.map Errand.underway ++ f.waiting.map Window.awaiting) := by
  simp only [course, hactive, List.map_append, List.map_cons, List.append_assoc, List.cons_append]
  rfl

/-! ## One step -/

/-- One chunk of a course that is not finished goes on by one stage. -/
def Advances (ledger : Ledger σ) (settings : Settings) (query : Window → LogQuery)
    (f next : Flight σ) : Prop :=
  ∃ before window stage after now, stage.outcome? = none ∧
    f.course = before ++ (window, stage) :: after ∧
    next.state = (stage.advance ledger settings (query window) now f.state).2 ∧
    next.course =
      before ++ (window, (stage.advance ledger settings (query window) now f.state).1.2) :: after

/-- When an errand goes on, its chunk of the course goes on by one stage. -/
theorem advances_goOn (ledger : Ledger σ) (settings : Settings) (query : Window → LogQuery)
    {f : Flight σ} {before after : List (Errand σ)} {errand : Errand σ}
    (hactive : f.active = before ++ errand :: after) (hstage : errand.stage.outcome? = none) :
    Advances ledger settings query f (f.goOn ledger settings query before errand after) := by
  refine ⟨_, errand.window, errand.stage, _, errand.place.time, hstage, course_of_active hactive,
    rfl, ?_⟩
  rw [goOn, course_refill]
  simp only [course, List.map_append, List.map_cons, List.append_assoc, List.cons_append]
  rfl

/-- **All that a step can do**: the errand whose turn it is only waits, and the course stays as it
is, or it goes on by one stage. -/
theorem course_step (ledger : Ledger σ) (settings : Settings) (query : Window → LogQuery)
    {f : Flight σ} {before after : List (Errand σ)} {errand : Errand σ}
    (h : Errand.next? f.active = some (before, errand, after)) :
    ((f.step ledger settings query before errand after).state = f.state ∧
      (f.step ledger settings query before errand after).course = f.course) ∨
    Advances ledger settings query f (f.step ledger settings query before errand after) := by
  obtain ⟨hactive, hstage⟩ := Errand.eq_of_next? h
  have hentered : (f.enter errand.place).active = before ++ errand :: after := by
    rw [active_enter, hactive]
  -- what the entered flight does, the flight itself does: entering keeps state and course
  have hsame : ∀ g : Flight σ, Advances ledger settings query (f.enter errand.place) g →
      Advances ledger settings query f g := by
    intro g hg
    unfold Advances at hg ⊢
    rwa [course_enter, state_enter] at hg
  unfold step
  dsimp only
  split
  · exact Or.inr (hsame _ (advances_goOn ledger settings query hentered hstage))
  · split
    · exact Or.inl ⟨state_enter _ _, (course_delay _ hentered).trans (course_enter _ _)⟩
    · split
      · exact Or.inl ⟨state_enter _ _, (course_delay _ hentered).trans (course_enter _ _)⟩
      · exact Or.inr (hsame _ (advances_goOn ledger settings query
          (f := { f.enter errand.place with allowance := (f.enter errand.place).allowance - 1 })
          hentered hstage))

/-! ## The whole run -/

/-- What a stage of any chunk keeps, whatever the others do, a run keeps. -/
theorem run_induction {I : σ → List (Window × Stage σ) → Prop} (ledger : Ledger σ)
    (settings : Settings) (query : Window → LogQuery)
    (hadvance : ∀ s before window stage after now, stage.outcome? = none →
      I s (before ++ (window, stage) :: after) →
      I (stage.advance ledger settings (query window) now s).2
        (before ++ (window, (stage.advance ledger settings (query window) now s).1.2) :: after))
    (f : Flight σ) (h : I f.state f.course) :
    I (f.run ledger settings query).state (f.run ledger settings query).course := by
  -- on the steps, some of which put a chunk off and leave ledger and course alone
  induction f using run.induct ledger settings query with
  | case1 f hnext =>
    rw [run, hnext]
    exact h
  | case2 f before errand after hnext ih =>
    rw [run, hnext]
    apply ih
    rcases course_step ledger settings query hnext with ⟨hstate, hcourse⟩ |
      ⟨left, window, stage, right, now, hstage, hcourse, hstate', hcourse'⟩
    · rw [hstate, hcourse]
      exact h
    · rw [hstate', hcourse']
      rw [hcourse] at h
      exact hadvance _ _ _ _ _ now hstage h

/-- Nothing is forgotten: no chunk waits while none is on its way, and the first on its way is not
finished. -/
def Steady (f : Flight σ) : Prop :=
  (f.active = [] → f.waiting = []) ∧ ∀ t rest, f.active = t :: rest → t.stage.outcome? = none

/-- Once chunks have set out, nothing is forgotten. -/
theorem steady_refill {width : Nat} (hwidth : 0 < width) (f : Flight σ) :
    (refill width f).Steady := by
  have hactive : (refill width f).active = (Errand.land f.active).2 ++
      Errand.setOut f.now f.round f.ranks
        (f.waiting.take (width - (Errand.land f.active).2.length)) := rfl
  constructor
  · intro hnil
    rw [hactive, List.append_eq_nil_iff] at hnil
    have htake := Errand.eq_nil_of_setOut hnil.2
    rw [hnil.1, List.length_nil, Nat.sub_zero, List.take_eq_nil_iff] at htake
    show f.waiting.drop _ = []
    rw [htake.resolve_left (Nat.ne_of_gt hwidth), List.drop_nil]
  · intro t rest hcons
    rw [hactive] at hcons
    cases hleft : (Errand.land f.active).2 with
    | nil =>
      rw [hleft, List.nil_append] at hcons
      exact Errand.outcome?_of_setOut (hcons ▸ List.mem_cons_self ..)
    | cons u more =>
      rw [hleft, List.cons_append, List.cons.injEq] at hcons
      exact hcons.1 ▸ Errand.outcome?_of_land hleft

/-- Coming to a round forgets nothing. -/
theorem steady_enter {f : Flight σ} (h : f.Steady) (place : Place) : (f.enter place).Steady := by
  unfold enter
  split
  · exact h
  · exact h

/-- Nothing is forgotten when an errand changes and is not finished. -/
theorem steady_changed {f g : Flight σ} {before after : List (Errand σ)} {errand changed : Errand σ}
    (hactive : f.active = before ++ errand :: after)
    (hchanged : g.active = before ++ changed :: after) (hstage : changed.stage.outcome? = none)
    (h : f.Steady) : g.Steady := by
  constructor
  · intro hnil
    rw [hchanged] at hnil
    exact absurd hnil (List.append_ne_nil_of_right_ne_nil _ (List.cons_ne_nil _ _))
  · intro t rest hcons
    rw [hchanged] at hcons
    cases before with
    | nil =>
      rw [List.nil_append, List.cons.injEq] at hcons
      rw [← hcons.1]
      exact hstage
    | cons u more =>
      rw [List.cons_append, List.cons.injEq] at hcons
      rw [← hcons.1]
      exact h.2 u _ hactive

/-- An errand that waits stays where it is in line, at the stage that it is in. -/
theorem steady_delay {f : Flight σ} {before after : List (Errand σ)} {errand : Errand σ}
    (place : Nat → Place) (hactive : f.active = before ++ errand :: after)
    (hstage : errand.stage.outcome? = none) (h : f.Steady) :
    (f.delay before errand after place).Steady :=
  steady_changed hactive rfl hstage h

/-- **A step forgets nothing**, whatever it does. -/
theorem steady_step (ledger : Ledger σ) (settings : Settings) (query : Window → LogQuery)
    {f : Flight σ} {before after : List (Errand σ)} {errand : Errand σ}
    (hnext : Errand.next? f.active = some (before, errand, after)) (h : f.Steady) :
    (f.step ledger settings query before errand after).Steady := by
  obtain ⟨hactive, hstage⟩ := Errand.eq_of_next? hnext
  have hentered : (f.enter errand.place).active = before ++ errand :: after := by
    rw [active_enter, hactive]
  have hwidth : 0 < max 1 settings.maxConcurrentChunks := by omega
  unfold step
  dsimp only
  split
  · exact steady_refill hwidth _
  · split
    · exact steady_delay _ hentered hstage (steady_enter h _)
    · split
      · exact steady_delay _ hentered hstage (steady_enter h _)
      · exact steady_refill hwidth _

/-- When a run from a steady flight is over, every chunk has landed. -/
theorem course_run (ledger : Ledger σ) (settings : Settings) (query : Window → LogQuery)
    (f : Flight σ) (h : f.Steady) :
    (f.run ledger settings query).course =
      (f.run ledger settings query).landed.map ChunkResult.arrived := by
  induction f using run.induct ledger settings query with
  | case1 f hnext =>
    rw [run, hnext]
    have hactive : f.active = [] := by
      cases hcons : f.active with
      | nil => rfl
      | cons t rest =>
        rw [hcons] at hnext
        exact absurd (h.2 t rest hcons) (Errand.finished_of_next? hnext t (List.mem_cons_self ..))
    simp [course, hactive, h.1 hactive]
  | case2 f before errand after hnext ih =>
    rw [run, hnext]
    exact ih (steady_step ledger settings query hnext h)

end Flight

/-! ## The whole fetch -/

/-- **What every single stage keeps, a whole fetch keeps.** An invariant of the ledger and of the
chunks with their stages holds of what comes out, if it holds when every chunk is still to be asked
for and is kept when any chunk that is not finished goes on by one stage, at any time. -/
theorem fetchChunks_induction {I : σ → List (Window × Stage σ) → Prop} (ledger : Ledger σ)
    (settings : Settings) (token : Address) (chunks : List Window) (c : Clocked σ)
    (hstart : I c.state (chunks.map Window.awaiting))
    (hadvance : ∀ s before window stage after now, stage.outcome? = none →
      I s (before ++ (window, stage) :: after) →
      I (stage.advance ledger settings (transferQuery token window) now s).2
        (before ++
          (window, (stage.advance ledger settings (transferQuery token window) now s).1.2) ::
            after)) :
    I (fetchChunks ledger settings token chunks c).2.state
      ((fetchChunks ledger settings token chunks c).1.map ChunkResult.arrived) := by
  set start : Flight σ :=
    { c with round := 0, ranks := 0, landed := [], active := [], waiting := chunks } with hdef
  set full := start.refill (max 1 settings.maxConcurrentChunks) with hfull
  have hsteady : full.Steady := Flight.steady_refill (by omega) start
  have hcourse : full.course = chunks.map Window.awaiting := by
    rw [hfull, Flight.course_refill]
    rfl
  -- at the start all chunks wait, and what holds of the course at the end holds of what has landed
  have hrun := Flight.run_induction ledger settings (transferQuery token) hadvance full
    (by rw [hcourse]; exact hstart)
  rw [Flight.course_run _ _ _ _ hsteady] at hrun
  exact hrun

/-- Each chunk comes out once, in its place. -/
theorem fetchChunks_windows (ledger : Ledger σ) (settings : Settings) (token : Address)
    (chunks : List Window) (c : Clocked σ) :
    (fetchChunks ledger settings token chunks c).1.map ChunkResult.window = chunks := by
  have h := fetchChunks_induction (I := fun _ course => course.map Prod.fst = chunks) ledger
    settings token chunks c (by simp [Window.awaiting, Function.comp_def])
    (fun _ _ _ _ _ _ _ h => by simpa using h)
  simpa [ChunkResult.arrived, Function.comp_def] using h

/-- A list of results is known by its chunks and by what became of each. -/
theorem results_eq_map {results : List ChunkResult} {chunks : List Window}
    {outcome : Window → Except ChunkFailure (List Log)}
    (hwindows : results.map ChunkResult.window = chunks)
    (houtcome : ∀ result ∈ results, result.outcome = outcome result.window) :
    results = chunks.map fun chunk => ⟨chunk, outcome chunk⟩ := by
  have hsame : results.map ((fun chunk => ⟨chunk, outcome chunk⟩) ∘ ChunkResult.window) =
      results.map id := by
    refine List.map_congr_left fun result hresult => ?_
    rw [Function.comp_apply, ← houtcome result hresult]
    rfl
  rw [← hwindows, List.map_map, hsame, List.map_id]

end TokenAudit
