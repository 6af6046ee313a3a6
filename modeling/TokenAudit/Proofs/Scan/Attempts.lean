import Mathlib.Data.List.Nodup
import TokenAudit.Proofs.Scan.Pursuit

/-! # Asking for every chunk

All chunks of a window are asked for as their scripts say, whichever of them are on their way at
once. As many as can be set out when the fetch begins, each of the others sets out when another one
is done, and the fetch is over as soon as all are done.

* `Stands` — where a chunk stands;
* `Departures` — when the chunks set out;
* `Chronicle` — what is known of a fetch at any time, with `Chronicle.advance`, `Chronicle.leave`
  and `Chronicle.pass`, all that can happen to it.

Main statement: `fetchChunks_attempts`. -/

namespace TokenAudit

/-! ## Chunks among others -/

/-- Different chunks are asked for differently. -/
theorem transferQuery_inj {token : Address} {a b : Window}
    (h : transferQuery token a = transferQuery token b) : a = b := by
  cases a
  cases b
  rw [transferQuery, transferQuery, LogQuery.mk.injEq] at h
  rw [Window.mk.injEq]
  exact h.2.2

/-- What is not the entry that has changed is still there. -/
theorem mem_changed {β : Type} {before after : List β} {b b' t : β} (h : t ∈ before ++ b :: after)
    (hne : t ≠ b) : t ∈ before ++ b' :: after := by
  rw [List.mem_append, List.mem_cons] at h ⊢
  exact h.imp_right fun hrest => Or.inr (hrest.resolve_left hne)

/-- What holds of all chunks still holds when one of them has changed, if it holds of that one and
those that are not the same chunk do not lose it. -/
theorem forall_mem_changed {β : Type} {P Q : Window × β → Prop} {before after : List (Window × β)}
    {window : Window} {b b' : β} (hnodup : ((before ++ (window, b) :: after).map Prod.fst).Nodup)
    (h : ∀ t ∈ before ++ (window, b) :: after, P t) (hothers : ∀ t, t.1 ≠ window → P t → Q t)
    (hchanged : Q (window, b')) : ∀ t ∈ before ++ (window, b') :: after, Q t := by
  rw [List.map_append, List.map_cons, List.nodup_middle, List.nodup_cons, ← List.map_append]
    at hnodup
  have hother : ∀ t ∈ before ++ after, t.1 ≠ window := by
    rintro t ht rfl
    exact hnodup.1 (List.mem_map.2 ⟨t, ht, rfl⟩)
  rw [List.forall_mem_append, List.forall_mem_cons] at h ⊢
  exact ⟨fun t ht => hothers t (hother t (List.mem_append_left after ht)) (h.1 t ht), hchanged,
    fun t ht => hothers t (hother t (List.mem_append_right before ht)) (h.2.2 t ht)⟩

section

variable (others : Ledger LogBook) (script : LogQuery → Nat → LogReply) (settings : Settings)
  (token : Address) (chunks : List Window)

/-- The requests for a chunk to a ledger with a script. -/
def pursuit (chunk : Window) : Pursuit where
  settings
  limit := others.deadline settings.callTimeout
  replies := script (transferQuery token chunk)

/-- The chunks that set out at once. -/
def leading : List Window := chunks.take (max 1 settings.maxConcurrentChunks)

/-- Where a chunk stands that sets out when `start` says: it waits and was never asked for, or it
has set out and is asked for as its script says. -/
def Stands (start : Window → Nat) (now : Nat) (book : LogBook)
    (t : Window × Stage LogBook × Option Nat) : Prop :=
  (t.2 = (.asking 1, none) ∧ t.1 ∉ leading settings chunks ∧
    book.times (transferQuery token t.1) = []) ∨
    (pursuit others script settings token t.1).Underway (start t.1) now
      (book.times (transferQuery token t.1)) t.2.1 t.2.2

/-- Whether a chunk that was asked for is done at a time. -/
def EndsAt (start : Window → Nat) (book : LogBook) (chunk : Window) (time : Nat) : Prop :=
  chunk ∈ chunks ∧ book.times (transferQuery token chunk) ≠ [] ∧
    (pursuit others script settings token chunk).endedAt (start chunk) = time

/-- When the chunks of a fetch that began at `begun` set out. -/
structure Departures (begun : Nat) (start : Window → Nat) (book : LogBook)
    (timetable : List (Window × Stage LogBook × Option Nat)) : Prop where
  begun_le : ∀ chunk, begun ≤ start chunk
  of_leading : ∀ chunk ∈ leading settings chunks, start chunk = begun
  /-- A chunk that does not set out at first sets out when another one is done. -/
  cases : ∀ chunk ∈ chunks, chunk ∈ leading settings chunks ∨ chunk.unscheduled ∈ timetable ∨
    ∃ other ≠ chunk, EndsAt others script settings token chunks start book other (start chunk)

/-- What is known of a fetch that began at `begun` when it is `now` and the chunk `done`, if there
is one, has got done just now. -/
structure Chronicle (begun : Nat) (start : Window → Nat) (done : Option Window) (now : Nat)
    (book : LogBook) (timetable : List (Window × Stage LogBook × Option Nat)) : Prop where
  windows : timetable.map Prod.fst = chunks
  stands : ∀ t ∈ timetable, Stands others script settings token chunks start now book t
  departures : Departures others script settings token chunks begun start book timetable
  begun_le : begun ≤ now
  /-- Nothing but the chunks is asked for. -/
  nothing_else : ∀ query, (∀ chunk ∈ chunks, transferQuery token chunk ≠ query) →
    book.times query = []
  ended : ∀ chunk, done = some chunk →
    EndsAt others script settings token chunks start book chunk now
  /-- No time passes when all chunks are done. -/
  going : timetable ≠ [] → done = none → ∃ t ∈ timetable, t.2.1.outcome? = none

variable {others script settings token chunks} {begun now : Nat} {start : Window → Nat}
  {done : Option Window} {book : LogBook}
  {timetable before after : List (Window × Stage LogBook × Option Nat)} {window : Window}

/-- A chunk that is done stays so when a request is made for some chunk. -/
theorem EndsAt.asked {more : LogBook} {chunk : Window} {time : Nat}
    (h : EndsAt others script settings token chunks start book chunk time)
    (hasked : more.times (transferQuery token window) ≠ [])
    (hsame : ∀ other, other ≠ window →
      more.times (transferQuery token other) = book.times (transferQuery token other)) :
    EndsAt others script settings token chunks start more chunk time := by
  refine ⟨h.1, ?_, h.2.2⟩
  by_cases hown : chunk = window
  · rw [hown]
    exact hasked
  · rw [hsame chunk hown]
    exact h.2.1

/-- That a chunk sets out later that was never asked for changes nothing for those that are done. -/
theorem EndsAt.updated {chunk : Window} {time : Nat}
    (h : EndsAt others script settings token chunks start book chunk time)
    (hnever : book.times (transferQuery token window) = []) (now : Nat) :
    chunk ≠ window ∧
      EndsAt others script settings token chunks (Function.update start window now) book
        chunk time := by
  have hother : chunk ≠ window := by
    rintro rfl
    exact h.2.1 hnever
  refine ⟨hother, h.1, h.2.1, ?_⟩
  rw [Function.update_of_ne hother]
  exact h.2.2

/-! ## When chunks set out -/

namespace Departures

/-- A further request changes nothing for the chunks that have set out. -/
theorem advance {b b' : Stage LogBook × Option Nat} {more : LogBook}
    (h : Departures others script settings token chunks begun start book
      (before ++ (window, b) :: after))
    (hscheduled : b.2 ≠ none) (hasked : more.times (transferQuery token window) ≠ [])
    (hsame : ∀ other, other ≠ window →
      more.times (transferQuery token other) = book.times (transferQuery token other)) :
    Departures others script settings token chunks begun start more
      (before ++ (window, b') :: after) where
  begun_le := h.begun_le
  of_leading := h.of_leading
  cases := by
    intro chunk hchunk
    refine (h.cases chunk hchunk).imp_right ?_
    rintro (hwaits | ⟨other, hne, hended⟩)
    · exact Or.inl (mem_changed hwaits fun heq => hscheduled (congrArg (fun t => t.2.2) heq).symm)
    · exact Or.inr ⟨other, hne, hended.asked hasked hsame⟩

/-- A chunk that waits sets out when another one is done. -/
theorem leave {other : Window}
    (h : Departures others script settings token chunks begun start book
      (before ++ Window.unscheduled window :: after))
    (hlate : window ∉ leading settings chunks)
    (hnever : book.times (transferQuery token window) = []) (hnow : begun ≤ now)
    (hended : EndsAt others script settings token chunks start book other now) :
    Departures others script settings token chunks begun (Function.update start window now) book
      (before ++ Window.leaving now window :: after) where
  begun_le := by
    intro chunk
    by_cases hown : chunk = window
    · rw [hown, Function.update_self]
      exact hnow
    · rw [Function.update_of_ne hown]
      exact h.begun_le chunk
  of_leading := by
    intro chunk hchunk
    have hother : chunk ≠ window := by
      rintro rfl
      exact hlate hchunk
    rw [Function.update_of_ne hother]
    exact h.of_leading chunk hchunk
  cases := by
    intro chunk hchunk
    by_cases hown : chunk = window
    · -- it sets out now, because the other one is done now
      rw [hown, Function.update_self]
      exact Or.inr (Or.inr ⟨other, hended.updated hnever now⟩)
    · rw [Function.update_of_ne hown]
      refine (h.cases chunk hchunk).imp_right ?_
      rintro (hwaits | ⟨earlier, hne, hearlier⟩)
      · exact Or.inl (mem_changed hwaits fun heq => hown (congrArg Prod.fst heq))
      · exact Or.inr ⟨earlier, hne, (hearlier.updated hnever now).2⟩

end Departures

/-! ## All that can happen -/

/-- At first the leading chunks set out, and nothing was asked for. -/
theorem chronicle_begun (hnodup : chunks.Nodup) (begun : Nat) :
    Chronicle others script settings token chunks begun (fun _ => begun) none begun {}
      ((leading settings chunks).map (Window.leaving begun) ++
        (chunks.drop (max 1 settings.maxConcurrentChunks)).map Window.unscheduled) where
  windows := by
    rw [List.map_append, List.map_map, List.map_map]
    show (leading settings chunks).map id ++ (chunks.drop _).map id = chunks
    rw [List.map_id, List.map_id]
    exact List.take_append_drop _ chunks
  stands := by
    rw [List.forall_mem_append, List.forall_mem_map, List.forall_mem_map]
    have hlate := List.disjoint_take_drop hnodup (Nat.le_refl (max 1 settings.maxConcurrentChunks))
    -- those in front have set out just now, and the others were not asked for
    exact ⟨fun chunk _ => Or.inr (.asking (Pursuit.requests_pos _)),
      fun chunk hchunk => Or.inl ⟨rfl, fun hleading => hlate hleading hchunk, rfl⟩⟩
  departures :=
    { begun_le := fun _ => Nat.le_refl begun
      of_leading := fun _ _ => rfl
      cases := by
        intro chunk hchunk
        rw [← List.take_append_drop (max 1 settings.maxConcurrentChunks) chunks, List.mem_append]
          at hchunk
        exact hchunk.imp id fun hlate =>
          Or.inl (List.mem_append_right _ (List.mem_map_of_mem hlate)) }
  begun_le := Nat.le_refl begun
  nothing_else := fun _ _ => rfl
  ended := by
    rintro chunk ⟨⟩
  going := by
    intro hsome _
    obtain ⟨t, ht⟩ := List.exists_mem_of_ne_nil _ hsome
    refine ⟨t, ht, ?_⟩
    rcases List.mem_append.1 ht with ht | ht
    · obtain ⟨chunk, -, rfl⟩ := List.mem_map.1 ht
      rfl
    · obtain ⟨chunk, -, rfl⟩ := List.mem_map.1 ht
      rfl

namespace Chronicle

/-- A chunk goes on by one stage, at its time. -/
theorem advance (hnodup : chunks.Nodup) {stage : Stage LogBook} {time : Nat} (hlater : now ≤ time)
    (h : Chronicle others script settings token chunks begun start done now book
      (before ++ (window, stage, some time) :: after)) :
    let ahead :=
      stage.advance (others.scripted script) settings (transferQuery token window) time book
    Chronicle others script settings token chunks begun start
      (ahead.1.2.outcome?.map fun _ => window) time ahead.2
      (before ++ (window, ahead.1.2, ahead.1.2.turn? (time + ahead.1.1.getD 0)) :: after) := by
  intro ahead
  have hwindow : (window, stage, some time) ∈ before ++ (window, stage, some time) :: after :=
    List.mem_append_right before (List.mem_cons_self ..)
  have hmem : window ∈ chunks := by
    rw [← h.windows]
    exact List.mem_map_of_mem hwindow
  have hunderway : (pursuit others script settings token window).Underway (start window) now
      (book.times (transferQuery token window)) stage (some time) := by
    rcases h.stands _ hwindow with ⟨hwaits, -⟩ | hunderway
    · cases hwaits
    · exact hunderway
  obtain ⟨hnext, hothers, hasked, hended⟩ := Pursuit.underway_advance rfl rfl hunderway
  -- another chunk is asked for by other queries
  have hsame : ∀ other, other ≠ window →
      ahead.2.times (transferQuery token other) = book.times (transferQuery token other) :=
    fun other hother => hothers _ fun heq => hother (transferQuery_inj heq).symm
  refine
    { windows := ?_
      stands :=
        forall_mem_changed (h.windows ▸ hnodup) h.stands (fun t ht hstands => ?_) (Or.inr hnext)
      departures := h.departures.advance (Option.some_ne_none time) hasked hsame
      begun_le := Nat.le_trans h.begun_le hlater
      nothing_else := fun query hquery =>
        (hothers query (hquery window hmem)).trans (h.nothing_else query hquery)
      ended := fun chunk hchunk => ?_
      going := fun _ hnone =>
        ⟨_, List.mem_append_right before (List.mem_cons_self ..), Option.map_eq_none_iff.1 hnone⟩ }
  · rw [← h.windows, List.map_append, List.map_append]
    rfl
  · rw [Stands, hsame t.1 ht]
    exact hstands.imp id fun hunderway => hunderway.later hlater
  · obtain ⟨outcome, houtcome, rfl⟩ := Option.map_eq_some_iff.1 hchunk
    exact ⟨hmem, hasked, hended.resolve_left
      fun hopen => Option.some_ne_none outcome (houtcome.symm.trans hopen)⟩

/-- A chunk that waits sets out when another one is done. -/
theorem leave (hnodup : chunks.Nodup) {other : Window}
    (h : Chronicle others script settings token chunks begun start (some other) now book
      (before ++ Window.unscheduled window :: after)) :
    Chronicle others script settings token chunks begun (Function.update start window now)
      (some other) now book (before ++ Window.leaving now window :: after) := by
  -- without a time of its own a chunk waits, and was not asked for
  obtain ⟨hlate, hnever⟩ : window ∉ leading settings chunks ∧
      book.times (transferQuery token window) = [] := by
    rcases h.stands _ (List.mem_append_right before (List.mem_cons_self ..)) with hwaits | hunderway
    · exact hwaits.2
    · exact absurd rfl hunderway.turn_ne_none
  have hended := h.ended other rfl
  refine
    { windows := ?_
      stands :=
        forall_mem_changed (h.windows ▸ hnodup) h.stands (fun t ht hstands => ?_) (Or.inr ?_)
      departures := h.departures.leave hlate hnever h.begun_le hended
      begun_le := h.begun_le
      nothing_else := h.nothing_else
      ended := ?_
      going := fun _ hnone => absurd hnone (Option.some_ne_none other) }
  · rw [← h.windows, List.map_append, List.map_append]
    rfl
  · rw [Stands, Function.update_of_ne ht]
    exact hstands
  · dsimp only
    rw [Function.update_self, hnever]
    exact .asking (Pursuit.requests_pos _)
  · rintro chunk ⟨⟩
    exact (hended.updated hnever now).2

/-- Time passes while some chunk is not done. -/
theorem pass {later : Nat} (hlater : now ≤ later) (hopen : ∃ t ∈ timetable, t.2.1.outcome? = none)
    (h : Chronicle others script settings token chunks begun start done now book timetable) :
    Chronicle others script settings token chunks begun start none later book timetable where
  windows := h.windows
  stands := fun t ht => (h.stands t ht).imp id fun hunderway => hunderway.later hlater
  departures := h.departures
  begun_le := Nat.le_trans h.begun_le hlater
  nothing_else := h.nothing_else
  ended := by
    rintro chunk ⟨⟩
  going := fun _ _ => hopen

end Chronicle

end

/-! ## The whole fetch -/

/-- The chunks that could not be fetched, by what comes of the requests for each. -/
theorem chunkDiagnostics_verdict (pursuits : Window → Pursuit) (chunks : List Window) :
    chunkDiagnostics (chunks.map fun chunk => ⟨chunk, (pursuits chunk).verdict⟩) =
      chunks.filterMap fun chunk => (pursuits chunk).note? chunk := by
  rw [chunkDiagnostics, List.filterMap_map]
  refine List.filterMap_congr fun chunk _ => ?_
  rw [Function.comp_apply, Pursuit.verdict, Pursuit.note?]
  cases (pursuits chunk).outcome ((pursuits chunk).requests - 1) with
  | ok logs => rfl
  | error fault => rfl

/-- **The requests for a chunk.** Whatever the replies are, and however many chunks are on their way
at once, a chunk is asked for, always in the same way, up to the first request that succeeds or
fails in a way that will not pass, or once and as many more times as requests may be repeated; one
whose reply does not come in time counts as one that failed but may pass. What comes of the chunk is
how the last request ended. Each further request is made when the one before it has ended and the
pause after that is over, and the chunk is done when one more pause after the last request is over.
As many chunks as can be set out at once, each of the others sets out when another one is done, and
the fetch is over as soon as all are done. -/
theorem fetchChunks_attempts (others : Ledger LogBook) (script : LogQuery → Nat → LogReply)
    (settings : Settings) (token : Address) {chunks : List Window} (hnodup : chunks.Nodup)
    (now allowance : Nat) :
    let pursuits := pursuit others script settings token
    let fetched := fetchChunks (others.scripted script) settings token chunks ⟨{}, now, allowance⟩
    fetched.1 = chunks.map (fun chunk => ⟨chunk, (pursuits chunk).verdict⟩) ∧
      chunkDiagnostics fetched.1 = chunks.filterMap (fun chunk => (pursuits chunk).note? chunk) ∧
      (∀ query, (∀ chunk ∈ chunks, transferQuery token chunk ≠ query) →
        fetched.2.state.times query = []) ∧
      ∃ start : Window → Nat,
        (∀ chunk ∈ chunks, now ≤ start chunk ∧
          fetched.2.state.times (transferQuery token chunk) =
            (pursuits chunk).times (start chunk) (pursuits chunk).requests ∧
          (pursuits chunk).endedAt (start chunk) ≤ fetched.2.now) ∧
        (∀ chunk ∈ chunks.take (max 1 settings.maxConcurrentChunks), start chunk = now) ∧
        (∀ chunk ∈ chunks.drop (max 1 settings.maxConcurrentChunks),
          ∃ other ∈ chunks, other ≠ chunk ∧ (pursuits other).endedAt (start other) = start chunk) ∧
        (chunks ≠ [] →
          ∃ chunk ∈ chunks, (pursuits chunk).endedAt (start chunk) = fetched.2.now) := by
  intro pursuits fetched
  -- the times at which chunks set out are chosen as they do
  obtain ⟨done, start, h⟩ := fetchChunks_timed
    (I := fun done later book timetable => ∃ start,
      Chronicle others script settings token chunks now start done later book timetable)
    (others.scripted script) settings token chunks ⟨{}, now, allowance⟩
    ⟨_, chronicle_begun hnodup now⟩
    (fun _ _ _ _ _ _ _ _ _ hlater ⟨start, h⟩ => ⟨start, h.advance hnodup hlater⟩)
    (fun _ _ _ _ _ _ ⟨_, h⟩ => ⟨_, h.leave hnodup⟩)
    (fun _ _ _ _ _ hlater hopen ⟨start, h⟩ => ⟨start, h.pass hlater hopen⟩)
  have hwindows : fetched.1.map ChunkResult.window = chunks := fetchChunks_windows ..
  -- at the end every chunk stands at its last stage
  have hdone : ∀ result ∈ fetched.1, result.outcome = (pursuits result.window).verdict ∧
      fetched.2.state.times (transferQuery token result.window) =
        (pursuits result.window).times (start result.window) (pursuits result.window).requests ∧
      (pursuits result.window).endedAt (start result.window) ≤ fetched.2.now := by
    intro result hresult
    rcases h.stands _ (List.mem_map_of_mem hresult) with ⟨hwaits, -⟩ | hunderway
    · cases hwaits
    · exact hunderway.of_finished
  have hresults : fetched.1 = chunks.map fun chunk => ⟨chunk, (pursuits chunk).verdict⟩ :=
    results_eq_map hwindows fun result hresult => (hdone result hresult).1
  refine ⟨hresults, ?_, h.nothing_else, start, ?_, h.departures.of_leading, ?_, ?_⟩
  · rw [hresults, chunkDiagnostics_verdict]
  · intro chunk hchunk
    rw [← hwindows] at hchunk
    obtain ⟨result, hresult, rfl⟩ := List.mem_map.1 hchunk
    exact ⟨h.departures.begun_le _, (hdone result hresult).2⟩
  · intro chunk hlate
    rcases h.departures.cases chunk (List.mem_of_mem_drop hlate)
      with hleading | hwaits | ⟨other, hne, hended⟩
    · exact absurd hlate (List.disjoint_take_drop hnodup (Nat.le_refl _) hleading)
    · obtain ⟨result, -, hover⟩ := List.mem_map.1 hwaits
      cases hover
    · exact ⟨other, hended.1, hne, hended.2.2⟩
  · intro hsome
    cases hlast : done with
    | some chunk =>
      have hended := h.ended chunk hlast
      exact ⟨chunk, hended.1, hended.2.2⟩
    | none =>
      -- there would be a chunk that is not done
      have htimetable : fetched.1.map (ChunkResult.over (σ := LogBook)) ≠ [] := by
        intro hnil
        rw [← hwindows, List.map_eq_nil_iff.1 hnil] at hsome
        exact hsome rfl
      obtain ⟨t, ht, hopen⟩ := h.going htimetable hlast
      obtain ⟨result, -, rfl⟩ := List.mem_map.1 ht
      cases hopen

/-- A ledger that answers nothing, and whose caller waits as long as it would. -/
def Ledger.deaf : Ledger LogBook where
  head := fun _ book => (.ready fun later => (.error .rateLimited, later), book)
  code := fun _ _ book => (.ready fun later => (.error .rateLimited, later), book)
  logs := fun _ _ book => (.ready fun later => (.error .rateLimited, later), book)
  call := fun _ _ _ book => (.ready fun later => (.error .rateLimited, later), book)
  deadline := id

/-- For the chunk from block 0 on nothing comes at first, then a refusal that may pass, and then its
logs, of which there are none; for any other chunk there is an error. -/
def busyScript (query : LogQuery) (i : Nat) : LogReply :=
  if query.first = 0 then
    if i = 0 then ⟨some 20000, .ok []⟩
    else if i = 1 then ⟨none, .error .rateLimited⟩
    else ⟨some 5, .ok []⟩
  else ⟨none, .error ⟨.rpcError, "out of gas"⟩⟩

/-- With the usual settings, one chunk at a time: the first one takes three requests, and the second
one is given up after a single request. -/
theorem fetchChunks_attempts_of_busyScript :
    let fetched :=
      fetchChunks (Ledger.deaf.scripted busyScript) {} default [⟨0, 9⟩, ⟨10, 19⟩] ⟨{}, 0, 128⟩
    [(⟨0, 9⟩ : Window), ⟨10, 19⟩].Nodup ∧
      fetched.1 = [⟨⟨0, 9⟩, .ok []⟩, ⟨⟨10, 19⟩, .error ⟨1, ⟨.rpcError, "out of gas"⟩⟩⟩] ∧
      fetched.2.state.times (transferQuery default ⟨0, 9⟩) = [0, 10200, 10600] ∧
      fetched.2.state.times (transferQuery default ⟨10, 19⟩) = [10705] ∧ fetched.2.now = 10805 := by
  have hnodup : [(⟨0, 9⟩ : Window), ⟨10, 19⟩].Nodup := by decide
  obtain ⟨hresults, -, -, start, htimes, hleading, hlate, hlast⟩ :=
    fetchChunks_attempts Ledger.deaf busyScript {} default hnodup 0 128
  rw [List.forall_mem_cons, List.forall_mem_singleton] at htimes
  obtain ⟨⟨-, hfirst, -⟩, -, hsecond, hended⟩ := htimes
  have hstart : start ⟨0, 9⟩ = 0 := hleading ⟨0, 9⟩ (by decide)
  have hstart' : start ⟨10, 19⟩ = 10705 := by
    obtain ⟨other, hother, hne, hturn⟩ := hlate ⟨10, 19⟩ (by decide)
    have hother' : other = ⟨0, 9⟩ := by simpa [hne] using hother
    rw [← hturn, hother', hstart]
    decide
  rw [hstart] at hfirst
  rw [hstart'] at hsecond hended
  refine ⟨hnodup, hresults, hfirst, hsecond, ?_⟩
  obtain ⟨chunk, hchunk, hnow⟩ := hlast (List.cons_ne_nil _ _)
  rw [List.mem_cons, List.mem_singleton] at hchunk
  rcases hchunk with rfl | rfl
  · -- the fetch is not over before the second chunk is done
    rw [hstart] at hnow
    rw [← hnow] at hended
    exact absurd hended (by decide)
  · rw [hstart'] at hnow
    exact hnow.symm

end TokenAudit
