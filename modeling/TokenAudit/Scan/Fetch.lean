import TokenAudit.Ledger.Basic
import TokenAudit.Scan.Window
import TokenAudit.Settings
import TokenAudit.Time.Span
import TokenAudit.Transfer.Event

/-! # Fetching chunks

The logs of a window are asked for chunk by chunk. A request that fails in a way that may pass is
made again after a pause, which doubles from attempt to attempt; after the last request for a chunk
comes one more pause. Several chunks can be on their way at once: those next in line, counted from
the first one that is not done.

Of all that can go on, what was due first goes on first. In one round only so many waits may end;
what finds none left is put off to a further round at the same time, in which those put off last go
first.

* `Stage` and `Stage.advance` — how the fetching of one chunk proceeds;
* `Place` and `Errand.next?` — the order in which chunks go on;
* `Flight` and `Flight.step` — the chunks on their way;
* `fetchChunks` — what became of each chunk, in the order of the chunks. -/

namespace TokenAudit

/-- Why the logs of a chunk could not be had. -/
structure ChunkFailure where
  /-- How many requests were made. A counter of 32 bits says the same for fewer than `2 ^ 32 - 1`
  retries; see `Stage.judge`. -/
  attempts : Nat
  /-- The fault of the last one. -/
  fault : Fault
  deriving DecidableEq, Repr

/-- What became of a chunk. -/
structure ChunkResult where
  /-- The chunk. -/
  window : Window
  /-- Its logs. -/
  outcome : Except ChunkFailure (List Log)

/-- The pause after a number of failed attempts: doubled for each, but for no more than sixteen. -/
def retryPause (pacing attempts : Nat) : Nat := Span.scaleUpTo pacing (1 <<< min attempts 16)

/-! ## One chunk -/

/-- How far the fetching of a chunk has come. -/
inductive Stage (σ : Type)
  /-- A request is to be made, the given one in number. -/
  | asking (attempt : Nat)
  /-- The answer to a request is there. -/
  | answered (attempt : Nat) (settle : Action σ (List Log))
  /-- The answer to a request did not come in time. -/
  | overdue (attempt : Nat)
  /-- The last pause is over. -/
  | paced (outcome : Except ChunkFailure (List Log))
  /-- Nothing is left to do. -/
  | finished (outcome : Except ChunkFailure (List Log))

namespace Stage

variable {σ : Type}

/-- The pause after the last request for a chunk; without any length there is none. -/
def lastPause (settings : Settings) : Option Nat :=
  if settings.chunkPacing = 0 then none else some settings.chunkPacing

/-- What comes after a request: the next stage, and how long to wait until then if there is a wait.

The number of the attempt does not overflow here. A counter of 32 bits counts alike as long as fewer
than `2 ^ 32 - 1` retries are allowed: then no attempt has a number beyond `2 ^ 32 - 1`. With more
of them the counter runs over after `2 ^ 32 - 1` failures of one chunk, a case that is left out
here. -/
def judge (settings : Settings) (attempt : Nat) : Except Fault (List Log) → Option Nat × Stage σ
  | .ok logs => (lastPause settings, .paced (.ok logs))
  | .error fault =>
    if fault.isRetryable ∧ attempt ≤ settings.chunkRetries then
      (some (retryPause settings.chunkPacing attempt), .asking (attempt + 1))
    else (lastPause settings, .paced (.error ⟨attempt, fault⟩))

/-- Goes on by one stage: the next stage, how long to wait until then if there is a wait, and the
state of the ledger. -/
def advance (ledger : Ledger σ) (settings : Settings) (query : LogQuery) (now : Nat) :
    Stage σ → σ → (Option Nat × Stage σ) × σ
  | .asking attempt, s =>
    let (answer, s) := ledger.logs query now s
    let limit := ledger.deadline settings.callTimeout
    if answer.delay.getD 0 ≤ limit then ((answer.delay, .answered attempt answer.settle), s)
    else ((some limit, .overdue attempt), s)
  | .answered attempt settle, s =>
    let (result, s) := settle s
    (judge settings attempt result, s)
  | .overdue attempt, s => (judge settings attempt (.error Fault.Origin.deadline.fault), s)
  | .paced outcome, s => ((none, .finished outcome), s)
  | .finished outcome, s => ((none, .finished outcome), s)

/-- What became of the chunk, if nothing is left to do. -/
def outcome? : Stage σ → Option (Except ChunkFailure (List Log))
  | .finished outcome => some outcome
  | _ => none

/-- A bound on how often the fetching can still go on. -/
def work (retries : Nat) : Stage σ → Nat
  | .asking attempt => 3 * (retries + 1 - attempt) + 3
  | .answered attempt _ | .overdue attempt => 3 * (retries + 1 - attempt) + 2
  | .paced _ => 1
  | .finished _ => 0

/-- A request that has ended leaves less to do. -/
theorem work_judge_lt (settings : Settings) (attempt : Nat) (result : Except Fault (List Log)) :
    (judge (σ := σ) settings attempt result).2.work settings.chunkRetries <
      3 * (settings.chunkRetries + 1 - attempt) + 2 := by
  cases result with
  | ok logs => simp only [judge, work]; omega
  | error fault =>
    simp only [judge]
    split <;> simp only [work] <;> omega

/-- Going on by one stage leaves less to do. -/
theorem work_advance_lt (ledger : Ledger σ) (settings : Settings) (query : LogQuery) (now : Nat)
    (stage : Stage σ) (s : σ) (h : stage.outcome? = none) :
    (advance ledger settings query now stage s).1.2.work settings.chunkRetries <
      stage.work settings.chunkRetries := by
  cases stage with
  | asking attempt =>
    simp only [advance]
    split <;> simp [work]
  | answered attempt settle =>
    simp only [advance]
    exact work_judge_lt settings attempt _
  | overdue attempt => exact work_judge_lt settings attempt _
  | paced outcome => simp [advance, work]
  | finished outcome => simp [outcome?] at h

end Stage

/-! ## The order of going on -/

/-- When something goes on. -/
structure Place where
  /-- The time. -/
  time : Nat
  /-- The round at that time. -/
  round : Nat
  /-- The rank in that round. -/
  rank : Int
  deriving DecidableEq, Repr

/-- Whether one place comes before another. -/
def Place.precedes (a b : Place) : Bool :=
  a.time < b.time ||
    (a.time == b.time && (a.round < b.round || (a.round == b.round && a.rank < b.rank)))

/-- The fetching of one chunk among others. -/
structure Errand (σ : Type) where
  /-- The chunk. -/
  window : Window
  /-- How far it has come. -/
  stage : Stage σ
  /-- When the wait before that stage ends, if there is one. -/
  due : Option Nat
  /-- When it goes on. -/
  place : Place

namespace Errand

variable {σ : Type}

/-- Takes the errand that goes on next out of a list: the errands before it, itself, and those after
it. -/
def next? : List (Errand σ) → Option (List (Errand σ) × Errand σ × List (Errand σ))
  | [] => none
  | t :: rest =>
    match next? rest with
    | none => if t.stage.outcome?.isSome then none else some ([], t, rest)
    | some (before, u, after) =>
      if t.stage.outcome?.isSome || u.place.precedes t.place then some (t :: before, u, after)
      else some ([], t, rest)

/-- The errand that goes on next stands between those before it and those after it, and is not
finished. -/
theorem eq_of_next? {errands before after : List (Errand σ)} {t : Errand σ}
    (h : next? errands = some (before, t, after)) :
    errands = before ++ t :: after ∧ t.stage.outcome? = none := by
  induction errands generalizing before after t with
  | nil => simp [next?] at h
  | cons u rest ih =>
    simp only [next?] at h
    split at h
    · split at h
      · simp at h
      · rename_i hu
        simp only [Option.some.injEq, Prod.mk.injEq] at h
        obtain ⟨rfl, rfl, rfl⟩ := h
        exact ⟨rfl, by simpa using hu⟩
    · rename_i found
      split at h
      · simp only [Option.some.injEq, Prod.mk.injEq] at h
        obtain ⟨rfl, rfl, rfl⟩ := h
        obtain ⟨rfl, hu⟩ := ih found
        exact ⟨rfl, hu⟩
      · rename_i hfirst
        simp only [Option.some.injEq, Prod.mk.injEq] at h
        obtain ⟨rfl, rfl, rfl⟩ := h
        simp only [Bool.or_eq_true, not_or] at hfirst
        exact ⟨rfl, by simpa using hfirst.1⟩

/-- Takes the finished errands at the start off a list: what became of their chunks, and the
rest. -/
def land : List (Errand σ) → List ChunkResult × List (Errand σ)
  | [] => ([], [])
  | t :: rest =>
    match t.stage.outcome? with
    | some outcome =>
      let (results, left) := land rest
      (⟨t.window, outcome⟩ :: results, left)
    | none => ([], t :: rest)

/-- A bound on how often an errand can still go on or lie down to wait. -/
def work (retries : Nat) (t : Errand σ) : Nat :=
  2 * t.stage.work retries + if t.place.time < t.due.getD 0 then 1 else 0

/-- A bound on how often errands can still go on or lie down to wait. -/
def totalWork (retries : Nat) : List (Errand σ) → Nat
  | [] => 0
  | t :: rest => t.work retries + totalWork retries rest

/-- What is left to do adds up. -/
theorem totalWork_append (retries : Nat) (errands more : List (Errand σ)) :
    totalWork retries (errands ++ more) = totalWork retries errands + totalWork retries more := by
  induction errands with
  | nil => simp [totalWork]
  | cons t rest ih => rw [List.cons_append, totalWork, totalWork, ih, Nat.add_assoc]

/-- Landing leaves no more to do. -/
theorem totalWork_land_le (retries : Nat) (errands : List (Errand σ)) :
    totalWork retries (land errands).2 ≤ totalWork retries errands := by
  induction errands with
  | nil => exact Nat.le_refl _
  | cons t rest ih =>
    rw [land]
    split
    · exact Nat.le_trans ih (Nat.le_add_left _ _)
    · exact Nat.le_refl _

/-- The errands for chunks that set out in a round, with ranks from the given one on. -/
def setOut (time round rank : Nat) : List Window → List (Errand σ)
  | [] => []
  | w :: rest => ⟨w, .asking 1, none, ⟨time, round, rank⟩⟩ :: setOut time round (rank + 1) rest

/-- A chunk that sets out has as much to do as one that waits. -/
theorem totalWork_setOut (retries time round rank : Nat) (windows : List Window) :
    totalWork retries (setOut (σ := σ) time round rank windows) =
      windows.length * (6 * retries + 6) := by
  induction windows generalizing rank with
  | nil => simp [setOut, totalWork]
  | cons w rest ih =>
    rw [setOut, totalWork, ih, List.length_cons, Nat.add_mul]
    simp only [work, Stage.work, Option.getD_none, Nat.not_lt_zero, if_false]
    omega

end Errand

/-! ## Chunks on their way -/

/-- The chunks of a window being fetched. -/
structure Flight (σ : Type) extends Clocked σ where
  /-- The current round. -/
  round : Nat
  /-- How many ranks were given. -/
  ranks : Nat
  /-- What became of the chunks that are done. -/
  landed : List ChunkResult
  /-- The chunks on their way, in the order of chunks. -/
  active : List (Errand σ)
  /-- The chunks that wait. -/
  waiting : List Window

namespace Flight

variable {σ : Type}

/-- Lands the finished chunks at the front and lets chunks set out until `width` are on their
way. -/
def refill (width : Nat) (f : Flight σ) : Flight σ :=
  let (results, left) := Errand.land f.active
  let room := width - left.length
  let leaving := f.waiting.take room
  { f with
    ranks := f.ranks + leaving.length
    landed := f.landed ++ results
    active := left ++ Errand.setOut f.now f.round f.ranks leaving
    waiting := f.waiting.drop room }

/-- Comes to the round of a place. If it is a new one, all its waits may still end. -/
def enter (place : Place) (f : Flight σ) : Flight σ :=
  if place.time = f.now ∧ place.round = f.round then f
  else
    { f with now := place.time, round := place.round, allowance := Clocked.roundAllowance }

/-- Lets an errand go on, out of those before and after it. -/
def goOn (ledger : Ledger σ) (settings : Settings) (query : Window → LogQuery)
    (before : List (Errand σ)) (errand : Errand σ) (after : List (Errand σ)) (f : Flight σ) :
    Flight σ :=
  let next := errand.stage.advance ledger settings (query errand.window) errand.place.time f.state
  refill (max 1 settings.maxConcurrentChunks)
    { f with
      state := next.2
      active :=
        before ++
          { errand with stage := next.1.2, due := next.1.1.map (errand.place.time + ·) } :: after }

/-- Lets an errand wait, in the place that it gets next. -/
def delay (before : List (Errand σ)) (errand : Errand σ) (after : List (Errand σ))
    (place : Nat → Place) (f : Flight σ) : Flight σ :=
  { f with
    ranks := f.ranks + 1
    active := before ++ { errand with place := place f.ranks } :: after }

/-- What happens when it is an errand's turn, out of those before and after it. If it comes from a
wait that is over, it goes on; if that is still to begin, it lies down; but if no further wait may
end in the round, whichever it is has to be put off. -/
def step (ledger : Ledger σ) (settings : Settings) (query : Window → LogQuery) (f : Flight σ)
    (before : List (Errand σ)) (errand : Errand σ) (after : List (Errand σ)) : Flight σ :=
  let f := f.enter errand.place
  match errand.due with
  | none => f.goOn ledger settings query before errand after
  | some due =>
    if f.allowance = 0 then f.delay before errand after fun rank => ⟨f.now, f.round + 1, -rank⟩
    else if errand.place.time < due then f.delay before errand after fun rank => ⟨due, 0, rank⟩
    else { f with allowance := f.allowance - 1 }.goOn ledger settings query before errand after

/-! ### Progress -/

/-- A bound on how often chunks can still go on or lie down to wait. -/
def work (retries : Nat) (f : Flight σ) : Nat :=
  Errand.totalWork retries f.active + f.waiting.length * (6 * retries + 6)

/-- How many errands are to go on in the current round. -/
def atHand (f : Flight σ) : Nat :=
  f.active.countP fun t => t.place.time == f.now && t.place.round == f.round

/-- Landing and setting out leave no more to do. -/
theorem work_refill_le (retries width : Nat) (f : Flight σ) :
    (refill width f).work retries ≤ f.work retries := by
  have hland := Errand.totalWork_land_le retries f.active
  simp only [refill, work, Errand.totalWork_append, Errand.totalWork_setOut, List.length_take,
    List.length_drop]
  generalize width - (Errand.land f.active).2.length = room
  have hroom : min room f.waiting.length * (6 * retries + 6) +
      (f.waiting.length - room) * (6 * retries + 6) = f.waiting.length * (6 * retries + 6) := by
    rw [← Nat.add_mul]; congr 1; omega
  omega

/-- Coming to a round leaves the errands alone. -/
@[simp] theorem active_enter (place : Place) (f : Flight σ) :
    (f.enter place).active = f.active := by
  unfold enter; split <;> rfl

/-- Coming to a round leaves as much to do. -/
@[simp] theorem work_enter (retries : Nat) (place : Place) (f : Flight σ) :
    (f.enter place).work retries = f.work retries := by
  unfold enter; split <;> rfl

/-- A round in which no wait may end any more is no new one. -/
theorem enter_of_allowance {place : Place} {f : Flight σ} (h : (f.enter place).allowance = 0) :
    f.enter place = f ∧ place.time = f.now ∧ place.round = f.round := by
  unfold enter at h ⊢
  split
  · exact ⟨rfl, ‹_›⟩
  · rename_i hnew
    simp [hnew, Clocked.roundAllowance] at h

/-- When an errand goes on, less is left to do. -/
theorem work_goOn_lt (ledger : Ledger σ) (settings : Settings) (query : Window → LogQuery)
    (f : Flight σ) {before after : List (Errand σ)} {errand : Errand σ}
    (hactive : f.active = before ++ errand :: after) (hstage : errand.stage.outcome? = none) :
    (f.goOn ledger settings query before errand after).work settings.chunkRetries <
      f.work settings.chunkRetries := by
  have hlt := Stage.work_advance_lt ledger settings (query errand.window) errand.place.time
    errand.stage f.state hstage
  refine Nat.lt_of_le_of_lt (work_refill_le _ _ _) ?_
  simp only [work, hactive, Errand.totalWork_append, Errand.totalWork, Errand.work]
  split <;> split <;> omega

/-- When an errand lies down to wait for its time, less is left to do. -/
theorem work_delay_lt (retries : Nat) {f : Flight σ} {before after : List (Errand σ)}
    {errand : Errand σ} (place : Nat → Place) (hactive : f.active = before ++ errand :: after)
    (hbegun : errand.place.time < errand.due.getD 0)
    (hplace : errand.due.getD 0 ≤ (place f.ranks).time) :
    (f.delay before errand after place).work retries < f.work retries := by
  simp only [delay, work, hactive, Errand.totalWork_append, Errand.totalWork, Errand.work,
    if_pos hbegun, if_neg (Nat.not_lt.mpr hplace)]
  omega

/-- When an errand is put off at its time, as much is left to do. -/
theorem work_delay_eq (retries : Nat) {f : Flight σ} {before after : List (Errand σ)}
    {errand : Errand σ} {place : Nat → Place} (hactive : f.active = before ++ errand :: after)
    (hplace : (place f.ranks).time = errand.place.time) :
    (f.delay before errand after place).work retries = f.work retries := by
  simp only [delay, work, hactive, Errand.totalWork_append, Errand.totalWork, Errand.work, hplace]

/-- When an errand is put off to a further round, fewer are left in the current one. -/
theorem atHand_delay_lt {f : Flight σ} {before after : List (Errand σ)} {errand : Errand σ}
    {place : Nat → Place} (hactive : f.active = before ++ errand :: after)
    (hhere : errand.place.time = f.now ∧ errand.place.round = f.round)
    (hplace : (place f.ranks).round ≠ f.round) :
    (f.delay before errand after place).atHand < f.atHand := by
  simp only [delay, atHand, hactive, List.countP_append, List.countP_cons, hhere, beq_self_eq_true,
    beq_eq_false_iff_ne.mpr hplace, Bool.and_self, Bool.and_false, if_true, Bool.false_eq_true,
    if_false]
  omega

/-- Each step does some of the work, or leaves fewer errands in the current round. -/
theorem step_lt (ledger : Ledger σ) (settings : Settings) (query : Window → LogQuery)
    (f : Flight σ) {before after : List (Errand σ)} {errand : Errand σ}
    (h : Errand.next? f.active = some (before, errand, after)) :
    Prod.Lex (· < ·) (· < ·)
      ((step ledger settings query f before errand after).work settings.chunkRetries,
        (step ledger settings query f before errand after).atHand)
      (f.work settings.chunkRetries, f.atHand) := by
  obtain ⟨hactive, hstage⟩ := Errand.eq_of_next? h
  have hentered : (f.enter errand.place).active = before ++ errand :: after := by
    simpa using hactive
  unfold step
  dsimp only
  split
  · apply Prod.Lex.left
    simpa using work_goOn_lt ledger settings query (f.enter errand.place) hentered hstage
  · rename_i due hdue
    split
    · rename_i hspent
      obtain ⟨hsame, hhere⟩ := enter_of_allowance hspent
      rw [hsame]
      rw [work_delay_eq settings.chunkRetries hactive hhere.1.symm]
      exact Prod.Lex.right _ (atHand_delay_lt hactive hhere (Nat.succ_ne_self _))
    · apply Prod.Lex.left
      split
      · rename_i hbegun
        simpa using work_delay_lt settings.chunkRetries (fun rank => ⟨due, 0, rank⟩) hentered
          (by simpa [hdue] using hbegun) (by simp [hdue])
      · rw [← work_enter settings.chunkRetries errand.place f]
        exact work_goOn_lt ledger settings query
          { f.enter errand.place with allowance := (f.enter errand.place).allowance - 1 }
          hentered hstage

/-- Lets errands go on until nothing is left to do. -/
def run (ledger : Ledger σ) (settings : Settings) (query : Window → LogQuery) (f : Flight σ) :
    Flight σ :=
  match _h : Errand.next? f.active with
  | none => f
  | some (before, errand, after) =>
    run ledger settings query (step ledger settings query f before errand after)
termination_by (f.work settings.chunkRetries, f.atHand)
decreasing_by exact step_lt ledger settings query f (by assumption)

end Flight

/-- The query for the transfers of a token in a chunk. -/
def transferQuery (token : Address) (chunk : Window) : LogQuery :=
  ⟨token, Transfer.topic, chunk.first, chunk.last⟩

/-- Fetches the transfers of a token in chunks: what became of each chunk, in the order of the
chunks. -/
def fetchChunks {σ : Type} (ledger : Ledger σ) (settings : Settings) (token : Address)
    (chunks : List Window) (c : Clocked σ) : List ChunkResult × Clocked σ :=
  let start : Flight σ :=
    { c with round := 0, ranks := 0, landed := [], active := [], waiting := chunks }
  let final :=
    (start.refill (max 1 settings.maxConcurrentChunks)).run ledger settings (transferQuery token)
  (final.landed, final.toClocked)

end TokenAudit
