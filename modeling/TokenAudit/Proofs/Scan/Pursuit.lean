import Mathlib.Algebra.Ring.Nat
import TokenAudit.Proofs.Rpc.Failover
import TokenAudit.Proofs.Scan.Timetable
import TokenAudit.Scan.Holders

/-! # The requests for a chunk

A chunk is asked for until a request settles it, or until there were as many as are allowed. When
each request is made hangs on nothing but how long the ones before it took and on the pauses after
them, and so does the time at which the chunk is done.

* `LogBook` and `Ledger.scripted` — a ledger that replies to requests for logs from scripts, and a
  record of all that it was asked for;
* `Pursuit` — the requests for one chunk by its script: how they end, how many there are, and when
  they are made;
* `Pursuit.Underway` — how far they have come.

Main statement: `Pursuit.underway_advance` (one stage of a chunk, at its time). -/

namespace TokenAudit

/-! ## Scripts -/

/-- A reply to a request for logs. -/
structure LogReply where
  /-- How long there is to wait for it, if there is anything to wait for. -/
  delay : Option Nat
  /-- What it says. -/
  result : Except Fault (List Log)

namespace LogReply

/-- How a request ends whose reply is waited for only so long. -/
def outcome (limit : Nat) (reply : LogReply) : Except Fault (List Log) :=
  if reply.delay.getD 0 ≤ limit then reply.result else .error Fault.Origin.deadline.fault

/-- How long the request takes. -/
def wait (limit : Nat) (reply : LogReply) : Nat := min (reply.delay.getD 0) limit

end LogReply

/-- A record of requests for logs. -/
structure LogBook where
  /-- What was asked for, and when, the oldest first. -/
  entries : List (LogQuery × Nat) := []

namespace LogBook

/-- When something was asked for. -/
def times (book : LogBook) (query : LogQuery) : List Nat :=
  (book.entries.filter fun entry => entry.1 == query).map Prod.snd

/-- The record with one more request. -/
def entered (book : LogBook) (query : LogQuery) (time : Nat) : LogBook :=
  { book with entries := book.entries ++ [(query, time)] }

/-- A request is entered behind the others for the same. -/
@[simp] theorem times_entered_self (book : LogBook) (query : LogQuery) (time : Nat) :
    (book.entered query time).times query = book.times query ++ [time] := by
  simp [times, entered]

/-- It is not entered among those for anything else. -/
theorem times_entered_of_ne (book : LogBook) {query other : LogQuery} (h : query ≠ other)
    (time : Nat) : (book.entered query time).times other = book.times other := by
  simp [times, entered, h]

end LogBook

/-- A ledger that replies to the first, the second, … request for the same logs as a script says,
and is like another one for everything else. -/
def Ledger.scripted (others : Ledger LogBook) (script : LogQuery → Nat → LogReply) :
    Ledger LogBook :=
  { others with
    logs := fun query now book =>
      let reply := script query (book.times query).length
      (⟨reply.delay, fun later => (reply.result, later)⟩, book.entered query now) }

/-! ## One chunk -/

/-- The requests for one chunk. -/
structure Pursuit where
  /-- What is set for them. -/
  settings : Settings
  /-- How long a reply is waited for. -/
  limit : Nat
  /-- The replies, if so many requests are made. -/
  replies : Nat → LogReply

namespace Pursuit

/-- How the request after `i` others ends. -/
def outcome (p : Pursuit) (i : Nat) : Except Fault (List Log) := (p.replies i).outcome p.limit

/-- How many requests are made: up to the first one that succeeds or fails in a way that will not
pass, or one and as many more as it may be repeated. -/
def requests (p : Pursuit) : Nat := requestCount (p.settings.chunkRetries + 1) p.outcome

/-- When the request after `i` others is made if the first one is made at a given time: as long
after the one before it as that one takes, and a pause that has doubled with each. -/
def askedAt (p : Pursuit) (start : Nat) : Nat → Nat
  | 0 => start
  | i + 1 =>
    p.askedAt start i + (p.replies i).wait p.limit +
      min (Span.bound - 1) (p.settings.chunkPacing * 2 ^ min (i + 1) 16)

/-- When the first `n` requests are made. -/
def times (p : Pursuit) (start n : Nat) : List Nat := (List.range n).map (p.askedAt start)

/-- When the chunk is done: after the last request and one more pause. -/
def endedAt (p : Pursuit) (start : Nat) : Nat :=
  p.askedAt start (p.requests - 1) + (p.replies (p.requests - 1)).wait p.limit +
    p.settings.chunkPacing

/-- What comes of the chunk: how the last request ended. -/
def verdict (p : Pursuit) : Except ChunkFailure (List Log) :=
  (p.outcome (p.requests - 1)).mapError fun fault => ⟨p.requests, fault⟩

/-- What is noted of the chunk if it could not be fetched. -/
def note? (p : Pursuit) (chunk : Window) : Option Diagnostic :=
  match p.outcome (p.requests - 1) with
  | .ok _ => none
  | .error fault => some (.chunkFailed chunk p.requests fault.code.name fault.message)

variable {p : Pursuit} {start now : Nat}

/-- At least one request is made. -/
theorem requests_pos (p : Pursuit) : 0 < p.requests :=
  requestCount_pos (Nat.succ_pos _) _

/-- So many requests are made at so many times. -/
@[simp] theorem length_times (p : Pursuit) (start n : Nat) : (p.times start n).length = n := by
  rw [times, List.length_map, List.length_range]

/-- Where there is a request, there is a time. -/
theorem times_ne_nil (p : Pursuit) (start : Nat) {n : Nat} (h : 0 < n) : p.times start n ≠ [] :=
  List.ne_nil_of_length_pos (by rwa [length_times])

/-- The time of one more request comes behind the others. -/
theorem times_succ (p : Pursuit) (start n : Nat) :
    p.times start (n + 1) = p.times start n ++ [p.askedAt start n] := by
  rw [times, List.range_succ, List.map_append]
  rfl

/-- The pause after a request that may be made again. -/
theorem retryPause_eq (pacing attempts : Nat) :
    retryPause pacing attempts = min (Span.bound - 1) (pacing * 2 ^ min attempts 16) := by
  rw [retryPause, Span.scaleUpTo, Nat.one_shiftLeft]

/-- A request that settles the question is the last one. -/
theorem requests_of_settles {i : Nat} (hi : i < p.requests) (h : settles (p.outcome i) = true) :
    p.requests = i + 1 := by
  have hlast : ¬ i + 1 < p.requests := by
    intro hmore
    have hopen := (lt_requestCount_iff.1 hmore).2 i (Nat.lt_succ_self i)
    rw [h] at hopen
    cases hopen
  omega

/-- After a request that does not settle the question there is another one if that is allowed. -/
theorem lt_requests_of_not_settles {i : Nat} (hi : i < p.requests)
    (h : settles (p.outcome i) = false) : i + 1 < p.requests ↔ i + 1 ≤ p.settings.chunkRetries := by
  obtain ⟨-, hbefore⟩ := lt_requestCount_iff.1 hi
  rw [requests, lt_requestCount_iff, Nat.forall_lt_succ_right]
  constructor
  · rintro ⟨hlimit, -⟩
    omega
  · intro hretries
    exact ⟨by omega, hbefore, h⟩

/-- How far the requests for a chunk have come of which the first was made at `start`: the requests
that were made, the stage that the chunk is in, and when it goes on. -/
inductive Underway (p : Pursuit) (start now : Nat) : List Nat → Stage LogBook → Option Nat → Prop
  | asking {i : Nat} (h : i < p.requests) :
    Underway p start now (p.times start i) (.asking (i + 1)) (some (p.askedAt start i))
  | answered {i : Nat} (h : i < p.requests) {settle : Action LogBook (List Log)}
    (hsettle : ∀ book, settle book = (p.outcome i, book)) :
    Underway p start now (p.times start (i + 1)) (.answered (i + 1) settle)
      (some (p.askedAt start i + (p.replies i).wait p.limit))
  | overdue {i : Nat} (h : i < p.requests)
    (hlate : p.outcome i = .error Fault.Origin.deadline.fault) :
    Underway p start now (p.times start (i + 1)) (.overdue (i + 1))
      (some (p.askedAt start i + (p.replies i).wait p.limit))
  | paced : Underway p start now (p.times start p.requests) (.paced p.verdict)
    (some (p.endedAt start))
  | finished (h : p.endedAt start ≤ now) :
    Underway p start now (p.times start p.requests) (.finished p.verdict) none

/-- Time that passes takes nothing back. -/
theorem Underway.later {times : List Nat} {stage : Stage LogBook} {turn : Option Nat}
    (h : p.Underway start now times stage turn) {later : Nat} (hlater : now ≤ later) :
    p.Underway start later times stage turn := by
  cases h with
  | asking h => exact .asking h
  | answered h hsettle => exact .answered h hsettle
  | overdue h hlate => exact .overdue h hlate
  | paced => exact .paced
  | finished h => exact .finished (Nat.le_trans h hlater)

/-- When a request is to be made, it is known when. -/
theorem Underway.turn_ne_none {times : List Nat} {attempt : Nat} {turn : Option Nat}
    (h : p.Underway start now times (.asking attempt) turn) : turn ≠ none := by
  cases h
  exact Option.some_ne_none _

/-- What there is to say of a chunk that is done. -/
theorem Underway.of_finished {times : List Nat} {outcome : Except ChunkFailure (List Log)}
    {turn : Option Nat} (h : p.Underway start now times (.finished outcome) turn) :
    outcome = p.verdict ∧ times = p.times start p.requests ∧ p.endedAt start ≤ now := by
  cases h with
  | finished hended => exact ⟨rfl, rfl, hended⟩

/-- The pause after the last request has its length also when there is none. -/
theorem lastPause_getD (settings : Settings) :
    (Stage.lastPause settings).getD 0 = settings.chunkPacing := by
  rw [Stage.lastPause]
  split
  · rename_i hzero
    rw [hzero]
    rfl
  · rfl

/-- What comes of a chunk by the number of requests. -/
theorem verdict_of_requests {i : Nat} (hcount : p.requests = i + 1) :
    p.verdict = (p.outcome i).mapError fun fault => ⟨i + 1, fault⟩ := by
  rw [verdict, hcount, Nat.add_sub_cancel]

/-- After the last request only a pause is left. -/
theorem underway_last (start : Nat) {i : Nat} (hcount : p.requests = i + 1) (later : Nat) :
    p.Underway start later (p.times start (i + 1)) (.paced p.verdict)
      (some (p.askedAt start i + (p.replies i).wait p.limit +
        (Stage.lastPause p.settings).getD 0)) := by
  have hended : p.Underway start later (p.times start p.requests) (.paced p.verdict)
      (some (p.endedAt start)) :=
    .paced
  rw [endedAt, hcount, Nat.add_sub_cancel] at hended
  rw [lastPause_getD]
  exact hended

/-- What comes after a request that has ended: another one after the pause for that, or the last
pause. -/
theorem underway_judge (start : Nat) {i : Nat} (hi : i < p.requests) (later : Nat) :
    let next := Stage.judge p.settings (i + 1) (p.outcome i)
    next.2.outcome? = none ∧
    p.Underway start later (p.times start (i + 1)) next.2
      (next.2.turn? (p.askedAt start i + (p.replies i).wait p.limit + next.1.getD 0)) := by
  dsimp only
  cases houtcome : p.outcome i with
  | ok logs =>
    have hcount := requests_of_settles hi (by rw [houtcome]; rfl)
    have hlast := underway_last start hcount later
    rw [verdict_of_requests hcount, houtcome] at hlast
    exact ⟨rfl, hlast⟩
  | error fault =>
    have hgivenUp : p.requests = i + 1 → p.Underway start later (p.times start (i + 1))
        (.paced (.error ⟨i + 1, fault⟩))
        (some (p.askedAt start i + (p.replies i).wait p.limit +
          (Stage.lastPause p.settings).getD 0)) := by
      intro hcount
      have hlast := underway_last start hcount later
      rw [verdict_of_requests hcount, houtcome] at hlast
      exact hlast
    -- a further request needs both a fault that may pass and leave to repeat
    by_cases hretryable : fault.isRetryable = true
    · have hopen : settles (p.outcome i) = false := by
        rw [houtcome, settles, hretryable]
        rfl
      have hmore := lt_requests_of_not_settles hi hopen
      by_cases hretries : i + 1 ≤ p.settings.chunkRetries
      · rw [Stage.judge, if_pos ⟨hretryable, hretries⟩]
        refine ⟨rfl, ?_⟩
        have hasking : p.Underway start later (p.times start (i + 1)) (.asking (i + 1 + 1))
            (some (p.askedAt start (i + 1))) := .asking (hmore.2 hretries)
        rw [askedAt, ← retryPause_eq] at hasking
        exact hasking
      · -- this was the last request that is allowed
        have hcount : p.requests = i + 1 := by omega
        rw [Stage.judge, if_neg fun h => hretries h.2]
        exact ⟨rfl, hgivenUp hcount⟩
    · have hcount := requests_of_settles hi (by rw [houtcome, settles]; simpa using hretryable)
      rw [Stage.judge, if_neg fun h => hretryable h.1]
      exact ⟨rfl, hgivenUp hcount⟩

/-- **One stage of one chunk**, at its time: the requests for it go on as their script says, no
other request is made, the first one is made by then, and if the chunk is done it is done in
time. -/
theorem underway_advance {others : Ledger LogBook} {script : LogQuery → Nat → LogReply}
    {query : LogQuery} (hlimit : p.limit = others.deadline p.settings.callTimeout)
    (hreplies : p.replies = script query) {book : LogBook} {stage : Stage LogBook} {time : Nat}
    (h : p.Underway start now (book.times query) stage (some time)) :
    let ahead := stage.advance (others.scripted script) p.settings query time book
    p.Underway start time (ahead.2.times query) ahead.1.2
      (ahead.1.2.turn? (time + ahead.1.1.getD 0)) ∧
      (∀ other, query ≠ other → ahead.2.times other = book.times other) ∧
      ahead.2.times query ≠ [] ∧ (ahead.1.2.outcome? = none ∨ p.endedAt start = time) := by
  dsimp only
  generalize htimes : book.times query = times at h
  cases h with
  | asking hi =>
    rename_i i
    -- so many requests are in the book that the script gives the reply after `i` others
    have hreply : script query (book.times query).length = p.replies i := by
      rw [htimes, length_times, hreplies]
    have hentered : (book.entered query (p.askedAt start i)).times query =
        p.times start (i + 1) := by
      rw [LogBook.times_entered_self, htimes, times_succ]
    have hasked : (book.entered query (p.askedAt start i)).times query ≠ [] := by
      rw [hentered]
      exact times_ne_nil p start (Nat.succ_pos i)
    have hadvance : (Stage.asking (i + 1)).advance (others.scripted script) p.settings query
        (p.askedAt start i) book =
          if (p.replies i).delay.getD 0 ≤ p.limit then
            (((p.replies i).delay, .answered (i + 1) fun later => ((p.replies i).result, later)),
              book.entered query (p.askedAt start i))
          else ((some p.limit, .overdue (i + 1)), book.entered query (p.askedAt start i)) := by
      rw [hlimit, ← hreply]
      rfl
    by_cases hintime : (p.replies i).delay.getD 0 ≤ p.limit
    · rw [hadvance, if_pos hintime]
      refine ⟨?_, fun other hother => LogBook.times_entered_of_ne book hother _, hasked, Or.inl rfl⟩
      have hwait : (p.replies i).wait p.limit = (p.replies i).delay.getD 0 :=
        Nat.min_eq_left hintime
      have houtcome : p.outcome i = (p.replies i).result := by
        rw [outcome, LogReply.outcome, if_pos hintime]
      rw [hentered, ← hwait, ← houtcome]
      exact .answered hi fun _ => rfl
    · rw [hadvance, if_neg hintime]
      refine ⟨?_, fun other hother => LogBook.times_entered_of_ne book hother _, hasked, Or.inl rfl⟩
      have hwait : (p.replies i).wait p.limit = p.limit :=
        Nat.min_eq_right (Nat.le_of_not_le hintime)
      have houtcome : p.outcome i = .error Fault.Origin.deadline.fault := by
        rw [outcome, LogReply.outcome, if_neg hintime]
      rw [hentered, Option.getD_some, ← hwait]
      exact .overdue hi houtcome
  | answered hi hsettle =>
    obtain ⟨hopen, hnext⟩ := underway_judge start hi _
    rw [Stage.advance, hsettle, htimes]
    exact ⟨hnext, fun _ _ => rfl, times_ne_nil p start (Nat.succ_pos _), Or.inl hopen⟩
  | overdue hi hlate =>
    obtain ⟨hopen, hnext⟩ := underway_judge start hi _
    rw [Stage.advance, ← hlate, htimes]
    exact ⟨hnext, fun _ _ => rfl, times_ne_nil p start (Nat.succ_pos _), Or.inl hopen⟩
  | paced =>
    rw [Stage.advance, htimes]
    exact ⟨.finished (Nat.le_refl _), fun _ _ => rfl,
      times_ne_nil p start p.requests_pos, Or.inr rfl⟩

end Pursuit

end TokenAudit
