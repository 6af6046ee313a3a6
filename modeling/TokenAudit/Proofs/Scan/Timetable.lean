import TokenAudit.Proofs.Scan.Course

/-! # The timetable of a fetch

While the chunks of a window are fetched, each of them goes on exactly when the wait before its next
stage is over, whatever else is on its way: what was due first goes on first, and no time passes in
between. So besides its stage each chunk has a time at which it goes on, and what all chunks keep to
with their times holds of what comes out.

* `Flight.timetable` — every chunk with its stage and its time, in the order of chunks;
* `Flight.Orderly` — no chunk is late, and none waits that can set out;
* `Flight.timetable_step` — all that a step does to the timetable, and `Flight.orderly_step`, no
  chunk gets late.

Main statement: `fetchChunks_timed` (what every single stage keeps at its time, a whole fetch
keeps). -/

namespace TokenAudit

variable {σ : Type}

/-! ## When chunks go on -/

/-- A place that comes before another one is no later. -/
theorem Place.time_le_of_precedes {a b : Place} (h : a.precedes b = true) : a.time ≤ b.time := by
  simp only [precedes, Bool.or_eq_true, Bool.and_eq_true, decide_eq_true_eq, beq_iff_eq] at h
  omega

/-- A place that does not come before another one is no earlier. -/
theorem Place.time_le_of_not_precedes {a b : Place} (h : a.precedes b = false) :
    b.time ≤ a.time := by
  simp only [precedes, Bool.or_eq_false_iff, decide_eq_false_iff_not] at h
  omega

/-- The time at which a chunk goes on from a stage. From the last one it does not. -/
def Stage.turn? (stage : Stage σ) (time : Nat) : Option Nat :=
  if stage.outcome?.isSome then none else some time

/-- From a stage that is not the last one, a chunk goes on at its time. -/
theorem Stage.turn?_of_open {stage : Stage σ} (h : stage.outcome? = none) (time : Nat) :
    stage.turn? time = some time := by
  rw [turn?, h]
  rfl

/-- A chunk that is done: it does not go on. -/
def ChunkResult.over (r : ChunkResult) : Window × Stage σ × Option Nat :=
  (r.window, .finished r.outcome, none)

/-- A chunk that waits: when it goes on is still open. -/
def Window.unscheduled (w : Window) : Window × Stage σ × Option Nat := (w, .asking 1, none)

/-- A chunk that sets out at a time. -/
def Window.leaving (time : Nat) (w : Window) : Window × Stage σ × Option Nat :=
  (w, .asking 1, some time)

namespace Errand

/-- When an errand goes on: when its wait is over, and if there is no wait, in its place. -/
def turn (t : Errand σ) : Nat := t.due.getD t.place.time

/-- A chunk on its way, with its stage and its time. -/
def scheduled (t : Errand σ) : Window × Stage σ × Option Nat :=
  (t.window, t.stage, t.stage.turn? t.turn)

/-- Landing leaves the chunks as they are scheduled. -/
theorem scheduled_land (errands : List (Errand σ)) :
    (land errands).1.map ChunkResult.over ++ (land errands).2.map scheduled =
      errands.map scheduled := by
  refine map_land (fun t outcome hstage => ?_) errands
  rw [scheduled, hstage]
  rfl

/-- Errands that set out go on at once. -/
theorem scheduled_setOut (time round rank : Nat) (windows : List Window) :
    (setOut (σ := σ) time round rank windows).map scheduled = windows.map (Window.leaving time) :=
  map_setOut (fun _ _ => rfl) rank windows

/-- Before the first errand is finished nothing lands. -/
theorem land_of_open {t : Errand σ} (h : t.stage.outcome? = none) (rest : List (Errand σ)) :
    land (t :: rest) = ([], t :: rest) := by
  rw [land, h]

/-- What is left after landing was there before. -/
theorem mem_of_mem_land {errands : List (Errand σ)} {t : Errand σ} (h : t ∈ (land errands).2) :
    t ∈ errands := by
  induction errands with
  | nil => exact h
  | cons u rest ih =>
    rw [land] at h
    cases houtcome : u.stage.outcome? with
    | none =>
      rw [houtcome] at h
      exact h
    | some outcome =>
      rw [houtcome] at h
      exact List.mem_cons_of_mem u (ih h)

/-- An errand that sets out has its place at the time, and no wait before it. -/
theorem place_of_setOut {time round rank : Nat} {windows : List Window} {t : Errand σ}
    (h : t ∈ setOut (σ := σ) time round rank windows) : t.place.time = time ∧ t.due = none := by
  induction windows generalizing rank with
  | nil => cases h
  | cons w rest ih =>
    rw [setOut, List.mem_cons] at h
    rcases h with rfl | h
    · exact ⟨rfl, rfl⟩
    · exact ih h

/-- An errand that has gone on: its next stage, and the wait before that, from its place on. -/
def moved (errand : Errand σ) (ahead : Option Nat × Stage σ) : Errand σ :=
  { errand with stage := ahead.2, due := ahead.1.map (errand.place.time + ·) }

/-- An errand that has gone on goes on again after the wait for its next stage. -/
theorem turn_moved (errand : Errand σ) (ahead : Option Nat × Stage σ) :
    (errand.moved ahead).turn = errand.place.time + ahead.1.getD 0 := by
  rw [turn, moved]
  cases ahead.1 <;> rfl

/-- An errand that lies down for its wait stays in its place of the timetable. -/
theorem scheduled_of_due {t : Errand σ} {due : Nat} (h : t.due = some due) (place : Place) :
    scheduled { t with place } = t.scheduled := by
  rw [scheduled, scheduled, turn, turn, h]
  rfl

/-- Whether an errand is on time: it has a place no later than its wait is over, and if it is to go
on, no earlier than it is now. -/
structure OnTime (now : Nat) (t : Errand σ) : Prop where
  place_le : t.place.time ≤ t.turn
  now_le : t.stage.outcome? = none → now ≤ t.place.time

/-- The errand that goes on next has the earliest place. -/
theorem earliest_of_next? {errands before after : List (Errand σ)} {t : Errand σ}
    (h : next? errands = some (before, t, after)) :
    ∀ u ∈ errands, u.stage.outcome? = none → t.place.time ≤ u.place.time := by
  induction errands generalizing before after t with
  | nil => cases h
  | cons u rest ih =>
    rw [next?] at h
    rw [List.forall_mem_cons]
    cases hrest : next? rest with
    | none =>
      -- all others are finished
      rw [hrest] at h
      dsimp only at h
      split at h
      · cases h
      · cases h
        exact ⟨fun _ => Nat.le_refl _,
          fun v hv hopen => absurd hopen (finished_of_next? hrest v hv)⟩
    | some found =>
      obtain ⟨left, v, right⟩ := found
      have hearliest := ih hrest
      rw [hrest] at h
      dsimp only at h
      split at h
      · rename_i hlater
        cases h
        refine ⟨fun hopen => ?_, hearliest⟩
        rw [hopen] at hlater
        exact Place.time_le_of_precedes (by simpa using hlater)
      · rename_i hfirst
        cases h
        rw [Bool.not_eq_true, Bool.or_eq_false_iff] at hfirst
        exact ⟨fun _ => Nat.le_refl _, fun w hw hopen =>
          Nat.le_trans (Place.time_le_of_not_precedes hfirst.2) (hearliest w hw hopen)⟩

end Errand

namespace Flight

/-! ## The timetable -/

/-- Every chunk with its stage and its time, in the order of chunks. -/
def timetable (f : Flight σ) : List (Window × Stage σ × Option Nat) :=
  f.landed.map ChunkResult.over ++ f.active.map Errand.scheduled ++ f.waiting.map Window.unscheduled

/-- The chunks that set out when so many can be on their way. -/
def departing (width : Nat) (f : Flight σ) : List Window :=
  f.waiting.take (width - (Errand.land f.active).2.length)

/-- Those chunks set out now, and nothing else changes. -/
theorem timetable_refill (width : Nat) (f : Flight σ) :
    ∃ before after,
      f.timetable = before ++ (f.departing width).map Window.unscheduled ++ after ∧
      (refill width f).timetable =
        before ++ (f.departing width).map (Window.leaving f.now) ++ after := by
  let room := width - (Errand.land f.active).2.length
  refine ⟨f.landed.map ChunkResult.over ++ f.active.map Errand.scheduled,
    (f.waiting.drop room).map Window.unscheduled, ?_, ?_⟩
  · rw [departing, List.append_assoc, ← List.map_append, List.take_append_drop]
    rfl
  · have hland := Errand.scheduled_land f.active
    simp only [timetable, refill, List.map_append, Errand.scheduled_setOut]
    rw [← hland]
    simp only [List.append_assoc]
    rfl

/-- The timetable around an errand on its way. -/
theorem timetable_of_active {f : Flight σ} {before after : List (Errand σ)} {errand : Errand σ}
    (hactive : f.active = before ++ errand :: after) :
    f.timetable =
      (f.landed.map ChunkResult.over ++ before.map Errand.scheduled) ++
        errand.scheduled ::
          (after.map Errand.scheduled ++ f.waiting.map Window.unscheduled) := by
  simp only [timetable, hactive, List.map_append, List.map_cons, List.append_assoc,
    List.cons_append]

/-- As many chunks are on their way as can be, if one waits. -/
def Full (width : Nat) (f : Flight σ) : Prop := f.waiting ≠ [] → width ≤ f.active.length

/-- Once chunks have set out, as many are on their way as can be. -/
theorem full_refill (width : Nat) (f : Flight σ) : (refill width f).Full width := by
  intro hwaiting
  have hactive : (refill width f).active.length =
      (Errand.land f.active).2.length + (f.departing width).length := by
    show ((Errand.land f.active).2 ++
      Errand.setOut f.now f.round f.ranks (f.departing width)).length = _
    rw [List.length_append, Errand.length_setOut]
  have hleft : ¬ f.waiting.length ≤ width - (Errand.land f.active).2.length := fun hall =>
    hwaiting (List.drop_eq_nil_iff.2 hall)
  rw [departing, List.length_take] at hactive
  omega

/-- If nothing is forgotten and no more chunks can be on their way, none sets out. -/
theorem departing_of_full {width : Nat} {f : Flight σ} (hsteady : f.Steady) (hfull : f.Full width) :
    f.departing width = [] := by
  by_cases hwaiting : f.waiting = []
  · rw [departing, hwaiting, List.take_nil]
  · have hwidth := hfull hwaiting
    have hland : (Errand.land f.active).2 = f.active := by
      cases hactive : f.active with
      | nil => rfl
      | cons t rest => rw [Errand.land_of_open (hsteady.2 t rest hactive)]
    rw [departing, hland, Nat.sub_eq_zero_of_le hwidth, List.take_zero]

/-- A flight that goes its way: all errands are on time, nothing is forgotten, and no chunk waits
that can set out. -/
structure Orderly (settings : Settings) (f : Flight σ) : Prop where
  onTime : ∀ t ∈ f.active, t.OnTime f.now
  steady : f.Steady
  full : f.Full (max 1 settings.maxConcurrentChunks)

/-- If all errands are on time when chunks set out, the flight goes its way. -/
theorem orderly_refill {settings : Settings} {f : Flight σ} (h : ∀ t ∈ f.active, t.OnTime f.now) :
    (refill (max 1 settings.maxConcurrentChunks) f).Orderly settings where
  onTime := by
    intro t ht
    rcases List.mem_append.1 ht with ht | ht
    · exact h t (Errand.mem_of_mem_land ht)
    · obtain ⟨hplace, hdue⟩ := Errand.place_of_setOut ht
      refine ⟨?_, fun _ => Nat.le_of_eq hplace.symm⟩
      rw [Errand.turn, hdue]
      exact Nat.le_refl _
  steady := steady_refill (by omega) f
  full := full_refill _ f

/-- Coming to a place makes its time the present. -/
theorem now_enter (place : Place) (f : Flight σ) : (f.enter place).now = place.time := by
  unfold enter
  split
  · rename_i hsame
    exact hsame.1.symm
  · rfl

/-- Coming to a place leaves the timetable alone. -/
theorem timetable_enter (place : Place) (f : Flight σ) :
    (f.enter place).timetable = f.timetable := by
  unfold enter
  split <;> rfl

/-! ## One step -/

/-- One chunk of a timetable goes on by one stage, at its time. Only if it is done then, some of the
chunks that wait set out. -/
def Proceeds (ledger : Ledger σ) (settings : Settings) (query : Window → LogQuery)
    (f next : Flight σ) : Prop :=
  ∃ before window stage time after, stage.outcome? = none ∧ f.now ≤ time ∧
    f.timetable = before ++ (window, stage, some time) :: after ∧
    let ahead := stage.advance ledger settings (query window) time f.state
    next.now = time ∧ next.state = ahead.2 ∧
    ∃ left right, ∃ windows : List Window,
      before ++ (window, ahead.1.2, ahead.1.2.turn? (time + ahead.1.1.getD 0)) :: after =
        left ++ windows.map Window.unscheduled ++ right ∧
      next.timetable = left ++ windows.map (Window.leaving time) ++ right ∧
      (ahead.1.2.outcome? = none → windows = [])

/-- When an errand goes on in its place, its chunk of the timetable goes on by one stage at its
time. -/
theorem proceeds_goOn (ledger : Ledger σ) (settings : Settings) (query : Window → LogQuery)
    {f g : Flight σ} {before after : List (Errand σ)} {errand : Errand σ}
    (hactive : g.active = before ++ errand :: after) (hstage : errand.stage.outcome? = none)
    (hturn : errand.turn = errand.place.time) (hnow : g.now = errand.place.time)
    (hlater : f.now ≤ g.now) (hstate : g.state = f.state) (htimetable : g.timetable = f.timetable)
    (hsteady : g.Steady) (hfull : g.Full (max 1 settings.maxConcurrentChunks)) :
    Proceeds ledger settings query f (g.goOn ledger settings query before errand after) := by
  have hscheduled : errand.scheduled = (errand.window, errand.stage, some errand.place.time) := by
    rw [Errand.scheduled, Stage.turn?_of_open hstage, hturn]
  have hbefore := timetable_of_active hactive
  rw [htimetable, hscheduled] at hbefore
  refine ⟨_, errand.window, errand.stage, errand.place.time, _, hstage, hnow ▸ hlater,
    hbefore, hnow, ?_, ?_⟩
  · rw [← hstate]
    rfl
  · set ahead := errand.stage.advance ledger settings (query errand.window)
      errand.place.time f.state with hahead
    set moved : Flight σ :=
      { g with state := ahead.2, active := before ++ errand.moved ahead.1 :: after } with hmoved
    obtain ⟨left, right, hbefore, hafter⟩ :=
      timetable_refill (max 1 settings.maxConcurrentChunks) moved
    refine ⟨left, right, moved.departing (max 1 settings.maxConcurrentChunks), ?_, ?_,
      fun hopen => ?_⟩
    · rw [← hbefore, timetable_of_active rfl, Errand.scheduled, Errand.turn_moved]
      rfl
    · rw [← hnow, ← hafter, goOn, hstate]
      rfl
    · -- nothing has landed, so there is no room for others
      refine departing_of_full (steady_changed hactive rfl hopen hsteady) fun hwaiting => ?_
      have hwidth := hfull hwaiting
      rw [hactive, List.length_append, List.length_cons] at hwidth
      rw [hmoved, List.length_append, List.length_cons]
      exact hwidth

/-- What waits goes on waiting: the step changes nothing but a place. -/
theorem timetable_delay {f : Flight σ} {before after : List (Errand σ)} {errand : Errand σ}
    {due : Nat} (place : Nat → Place) (hactive : f.active = before ++ errand :: after)
    (hdue : errand.due = some due) :
    (f.delay before errand after place).timetable = f.timetable := by
  rw [timetable_of_active hactive, timetable_of_active (f := f.delay before errand after place) rfl,
    Errand.scheduled_of_due hdue]
  rfl

/-- Coming to a place leaves as many chunks on their way. -/
theorem full_enter {width : Nat} {f : Flight σ} (h : f.Full width) (place : Place) :
    (f.enter place).Full width := by
  unfold enter
  split
  · exact h
  · exact h

/-- Waiting leaves as many chunks on their way. -/
theorem full_delay {width : Nat} {f : Flight σ} {before after : List (Errand σ)} {errand : Errand σ}
    (place : Nat → Place) (hactive : f.active = before ++ errand :: after) (h : f.Full width) :
    (f.delay before errand after place).Full width := by
  intro hwaiting
  have hwidth := h hwaiting
  rw [hactive, List.length_append, List.length_cons] at hwidth
  rw [delay, List.length_append, List.length_cons]
  exact hwidth

/-- **All that a step does to a timetable**: nothing, while a chunk waits for its time, or one chunk
goes on by one stage, at its time, and if it is done some of those that wait set out. -/
theorem timetable_step (ledger : Ledger σ) (settings : Settings) (query : Window → LogQuery)
    {f : Flight σ} {before after : List (Errand σ)} {errand : Errand σ}
    (horderly : f.Orderly settings) (h : Errand.next? f.active = some (before, errand, after)) :
    let next := f.step ledger settings query before errand after
    (next.state = f.state ∧ next.timetable = f.timetable ∧ f.now ≤ next.now ∧
        ∃ p ∈ f.timetable, p.2.1.outcome? = none) ∨
      Proceeds ledger settings query f next := by
  obtain ⟨hactive, hstage⟩ := Errand.eq_of_next? h
  have hentered : (f.enter errand.place).active = before ++ errand :: after := by
    rw [active_enter, hactive]
  have hontime := horderly.onTime errand (by rw [hactive]; simp)
  have hsteady := steady_enter horderly.steady errand.place
  have hfull := full_enter horderly.full errand.place
  have hlater : f.now ≤ (f.enter errand.place).now := by
    rw [now_enter]
    exact hontime.now_le hstage
  have hopen : ∃ p ∈ f.timetable, p.2.1.outcome? = none := by
    refine ⟨errand.scheduled, ?_, hstage⟩
    rw [timetable_of_active hactive]
    simp
  unfold step
  dsimp only
  split
  · rename_i hdue
    refine Or.inr (proceeds_goOn ledger settings query hentered hstage ?_ (now_enter _ _) hlater
      (state_enter _ _) (timetable_enter _ _) hsteady hfull)
    rw [Errand.turn, hdue]
    rfl
  · rename_i due hdue
    split
    · exact Or.inl ⟨state_enter _ _, (timetable_delay _ hentered hdue).trans (timetable_enter _ _),
        hlater, hopen⟩
    · split
      · exact Or.inl ⟨state_enter _ _,
          (timetable_delay _ hentered hdue).trans (timetable_enter _ _), hlater, hopen⟩
      · rename_i hover
        refine Or.inr (proceeds_goOn ledger settings query
          (g := { f.enter errand.place with allowance := (f.enter errand.place).allowance - 1 })
          hentered hstage ?_ (now_enter _ _) hlater (state_enter _ _)
          (timetable_enter _ _) hsteady hfull)
        -- the wait is over, and the errand is not late
        have hplace := hontime.place_le
        rw [Errand.turn, hdue] at hplace ⊢
        exact Nat.le_antisymm (Nat.not_lt.1 hover) hplace

/-- A flight that goes its way goes on so. -/
theorem orderly_step (ledger : Ledger σ) (settings : Settings) (query : Window → LogQuery)
    {f : Flight σ} {before after : List (Errand σ)} {errand : Errand σ}
    (horderly : f.Orderly settings) (h : Errand.next? f.active = some (before, errand, after)) :
    (f.step ledger settings query before errand after).Orderly settings := by
  obtain ⟨hactive, hstage⟩ := Errand.eq_of_next? h
  have hearliest := Errand.earliest_of_next? h
  have hontime := horderly.onTime
  rw [hactive, List.forall_mem_append, List.forall_mem_cons] at hontime
  rw [hactive, List.forall_mem_append, List.forall_mem_cons] at hearliest
  -- the other errands are still on time when the flight has come to the place of this one
  have hbefore : ∀ t ∈ before, t.OnTime errand.place.time := fun t ht =>
    ⟨(hontime.1 t ht).place_le, hearliest.1 t ht⟩
  have hafter : ∀ t ∈ after, t.OnTime errand.place.time := fun t ht =>
    ⟨(hontime.2.2 t ht).place_le, hearliest.2.2 t ht⟩
  have hothers : ∀ t : Errand σ, t.OnTime errand.place.time →
      ∀ u ∈ before ++ t :: after, u.OnTime errand.place.time := fun t ht => by
    rw [List.forall_mem_append, List.forall_mem_cons]
    exact ⟨hbefore, ht, hafter⟩
  have hgoOn : ∀ g : Flight σ, g.now = errand.place.time →
      (g.goOn ledger settings query before errand after).Orderly settings := by
    intro g hnow
    refine orderly_refill ?_
    rw [hnow]
    refine hothers _ ⟨?_, fun _ => Nat.le_refl _⟩
    exact Nat.le_trans (Nat.le_add_right _ _) (Nat.le_of_eq (Errand.turn_moved errand _).symm)
  have hdelay : ∀ (place : Nat → Place) (due : Nat), errand.due = some due →
      (∀ rank, errand.place.time ≤ (place rank).time) → (∀ rank, (place rank).time ≤ due) →
      ((f.enter errand.place).delay before errand after place).Orderly settings := by
    intro place due hdue hlow hhigh
    have hentered : (f.enter errand.place).active = before ++ errand :: after := by
      rw [active_enter, hactive]
    refine ⟨?_, steady_delay _ hentered hstage (steady_enter horderly.steady _),
      full_delay _ hentered (full_enter horderly.full _)⟩
    show ∀ t ∈ before ++ _ :: after, t.OnTime (f.enter errand.place).now
    rw [now_enter]
    refine hothers _ ⟨?_, fun _ => hlow _⟩
    rw [Errand.turn, hdue]
    exact hhigh _
  have hdue : ∀ due, errand.due = some due → errand.place.time ≤ due := by
    intro due hdue
    have hplace := hontime.2.1.place_le
    rwa [Errand.turn, hdue] at hplace
  unfold step
  dsimp only
  split
  · exact hgoOn _ (now_enter _ _)
  · rename_i due heq
    split
    · refine hdelay _ due heq (fun _ => Nat.le_of_eq (now_enter _ _).symm) fun _ => ?_
      show (f.enter errand.place).now ≤ due
      rw [now_enter]
      exact hdue due heq
    · split
      · exact hdelay _ due heq (fun _ => hdue due heq) fun _ => Nat.le_refl _
      · exact hgoOn _ (now_enter _ _)

/-! ## The whole run -/

/-- What a single stage keeps at its time, and setting out and the passing of time do too, a run
keeps. -/
theorem run_timed {I : Option Window → Nat → σ → List (Window × Stage σ × Option Nat) → Prop}
    (ledger : Ledger σ) (settings : Settings) (query : Window → LogQuery)
    (hadvance : ∀ done now s before window stage time after, stage.outcome? = none → now ≤ time →
      I done now s (before ++ (window, stage, some time) :: after) →
      let ahead := stage.advance ledger settings (query window) time s
      I (ahead.1.2.outcome?.map fun _ => window) time ahead.2
        (before ++ (window, ahead.1.2, ahead.1.2.turn? (time + ahead.1.1.getD 0)) :: after))
    (hleave : ∀ done now s before window after,
      I (some done) now s (before ++ Window.unscheduled window :: after) →
      I (some done) now s (before ++ Window.leaving now window :: after))
    (hpass : ∀ done now later s timetable, now ≤ later → (∃ p ∈ timetable, p.2.1.outcome? = none) →
      I done now s timetable → I none later s timetable)
    (f : Flight σ) (horderly : f.Orderly settings) (h : ∃ done, I done f.now f.state f.timetable) :
    ∃ done, I done (f.run ledger settings query).now (f.run ledger settings query).state
      (f.run ledger settings query).timetable := by
  have hleaveAll : ∀ done now s after (windows : List Window) before,
      I (some done) now s (before ++ windows.map Window.unscheduled ++ after) →
      I (some done) now s (before ++ windows.map (Window.leaving now) ++ after) := by
    intro done now s after windows
    induction windows with
    | nil => exact fun _ h => h
    | cons window rest ih =>
      intro before h
      rw [List.map_cons, List.append_assoc, List.cons_append] at h
      have hrest := ih (before ++ [Window.leaving now window])
      simp only [List.append_assoc, List.map_cons, List.cons_append] at hrest h ⊢
      exact hrest (hleave _ _ _ _ _ _ h)
  -- by induction on the run: each step is one of those that the invariant is kept by
  induction f using run.induct ledger settings query with
  | case1 f hnext =>
    rw [run, hnext]
    exact h
  | case2 f before errand after hnext ih =>
    rw [run, hnext]
    refine ih (orderly_step ledger settings query horderly hnext) ?_
    obtain ⟨done, h⟩ := h
    rcases timetable_step ledger settings query horderly hnext with
      ⟨hstate, htimetable, hlater, hopen⟩ |
      ⟨left, window, stage, time, right, hstage, hlater, htimetable, hnow, hstate, left',
        right', windows, hmoved, hnext', hnone⟩
    · rw [hstate, htimetable]
      exact ⟨none, hpass _ _ _ _ _ hlater hopen h⟩
    · rw [htimetable] at h
      have hahead := hadvance _ _ _ _ _ _ _ _ hstage hlater h
      dsimp only at hahead hnone
      rw [hmoved] at hahead
      rw [hnow, hstate, hnext']
      cases houtcome : (stage.advance ledger settings (query window) time f.state).1.2.outcome? with
      | none =>
        rw [houtcome, hnone houtcome] at hahead
        rw [hnone houtcome]
        exact ⟨none, hahead⟩
      | some outcome =>
        rw [houtcome] at hahead
        exact ⟨some window, hleaveAll _ _ _ _ _ _ hahead⟩

/-- When a run from a steady flight is over, every chunk of the timetable is done. -/
theorem timetable_run (ledger : Ledger σ) (settings : Settings) (query : Window → LogQuery)
    {f : Flight σ} (h : f.Steady) :
    (f.run ledger settings query).timetable =
      (f.run ledger settings query).landed.map ChunkResult.over := by
  have hcourse := course_run ledger settings query f h
  rw [course, List.append_assoc, List.append_right_eq_self, List.append_eq_nil_iff,
    List.map_eq_nil_iff, List.map_eq_nil_iff] at hcourse
  rw [timetable, hcourse.1, hcourse.2]
  simp

end Flight

/-! ## The whole fetch -/

/-- **What every single stage keeps at its time, a whole fetch keeps.** An invariant of the chunk
that has got done just now, of the time, of the ledger and of the chunks with their stages and their
times holds of what comes out, if it holds when as many chunks as can be on their way at once have
set out, and is kept when any chunk goes on by one stage at its time, when one that waits sets out
because another one is done, and when time passes while some chunk is not done. -/
theorem fetchChunks_timed
    {I : Option Window → Nat → σ → List (Window × Stage σ × Option Nat) → Prop} (ledger : Ledger σ)
    (settings : Settings) (token : Address) (chunks : List Window) (c : Clocked σ)
    (hstart : I none c.now c.state
      ((chunks.take (max 1 settings.maxConcurrentChunks)).map (Window.leaving c.now) ++
        (chunks.drop (max 1 settings.maxConcurrentChunks)).map Window.unscheduled))
    (hadvance : ∀ done now s before window stage time after, stage.outcome? = none → now ≤ time →
      I done now s (before ++ (window, stage, some time) :: after) →
      let ahead := stage.advance ledger settings (transferQuery token window) time s
      I (ahead.1.2.outcome?.map fun _ => window) time ahead.2
        (before ++ (window, ahead.1.2, ahead.1.2.turn? (time + ahead.1.1.getD 0)) :: after))
    (hleave : ∀ done now s before window after,
      I (some done) now s (before ++ Window.unscheduled window :: after) →
      I (some done) now s (before ++ Window.leaving now window :: after))
    (hpass : ∀ done now later s timetable, now ≤ later → (∃ p ∈ timetable, p.2.1.outcome? = none) →
      I done now s timetable → I none later s timetable) :
    let fetched := fetchChunks ledger settings token chunks c
    ∃ done, I done fetched.2.now fetched.2.state (fetched.1.map ChunkResult.over) := by
  -- before the first step as many chunks set out as may be on their way at once
  set start : Flight σ :=
    { c with round := 0, ranks := 0, landed := [], active := [], waiting := chunks } with hdef
  set full := start.refill (max 1 settings.maxConcurrentChunks) with hfull
  have horderly : full.Orderly settings := Flight.orderly_refill (List.forall_mem_nil _)
  have htimetable : full.timetable =
      (chunks.take (max 1 settings.maxConcurrentChunks)).map (Window.leaving c.now) ++
        (chunks.drop (max 1 settings.maxConcurrentChunks)).map Window.unscheduled := by
    show [].map ChunkResult.over ++ (Errand.setOut c.now 0 0 _).map Errand.scheduled ++ _ = _
    rw [Errand.scheduled_setOut]
    rfl
  have hrun := Flight.run_timed ledger settings (transferQuery token) hadvance hleave
    hpass full horderly ⟨none, by rw [htimetable]; exact hstart⟩
  rw [Flight.timetable_run _ _ _ horderly.steady] at hrun
  exact hrun

end TokenAudit
