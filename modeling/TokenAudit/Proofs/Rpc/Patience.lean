import Mathlib.Algebra.Ring.Nat
import TokenAudit.Proofs.Rpc.Course
import TokenAudit.Rpc.Scripted

/-! # Patience with endpoints

A question to endpoints takes at most the time that is reckoned for it: each request ends in the
time that it may take, and each pause is as long as it can be at most, whatever chance says. Who
waits for the answer waits at least that long, so nobody gives up before the endpoints do.

* `TakesAtMost` — an action that ends within a time, and what two of them take together;
* `takesAtMost_persist`, `takesAtMost_ask` — requests to one endpoint, and a whole question;
* `askWithin_question` — waiting long enough is waiting for the answer;
* `budget?_eq_ok_iff` — when the time that is reckoned is a span of time.

Main statement: `ask_within_deadline`. -/

namespace TokenAudit

open Json (Decoder)

variable {τ α β : Type}

/-! ## How long actions take -/

/-- An action ends, whenever it begins, after so much time at most. -/
def TakesAtMost (limit : Nat) (action : Action (Clocked τ) α) : Prop :=
  ∀ c, c.now ≤ (action c).2.now ∧ (action c).2.now ≤ c.now + limit

namespace TakesAtMost

variable {limit more : Nat} {action : Action (Clocked τ) α}

/-- What ends within a time ends within a longer one. -/
theorem mono (h : TakesAtMost limit action) (hle : limit ≤ more) : TakesAtMost more action :=
  fun c => ⟨(h c).1, Nat.le_trans (h c).2 (Nat.add_le_add_left hle c.now)⟩

/-- What is known already takes no time. -/
theorem liftM (result : Except Fault α) : TakesAtMost 0 (liftM result : Action (Clocked τ) α) := by
  intro c
  cases result <;> exact ⟨Nat.le_refl c.now, Nat.le_refl c.now⟩

/-- One action after another takes what both take. -/
theorem bind (h : TakesAtMost limit action) {next : α → Action (Clocked τ) β}
    (hnext : ∀ a, TakesAtMost more (next a)) : TakesAtMost (limit + more) (action >>= next) := by
  intro c
  obtain ⟨hlow, hhigh⟩ := h c
  rcases haction : action c with ⟨fault | a, c'⟩
  · rw [Action.bind_of_error haction]
    rw [haction] at hlow hhigh
    exact ⟨hlow, Nat.le_trans hhigh (by omega)⟩
  · rw [Action.bind_of_ok haction]
    rw [haction] at hlow hhigh
    obtain ⟨hlow', hhigh'⟩ := hnext a c'
    dsimp only at hlow hhigh
    omega

end TakesAtMost

/-! ## Requests and pauses -/

/-- A request is given up when its time is over. -/
theorem takesAtMost_request (net : Transport τ) (limit : Nat) (result : Decoder α) (said : Json)
    (url : String) : TakesAtMost limit (request net limit result said url) :=
  fun c => (request_spec net limit result said url c).2.2

/-- A pause is no longer than the longest one, whatever chance says. -/
theorem takesAtMost_backOff (net : Transport τ) (failures : Nat) :
    TakesAtMost (Backoff.longest failures) (backOff net failures) := by
  intro c
  rw [backOff_eq]
  have h := Backoff.pause_le_longest failures (net.draw c.state).1
  exact ⟨Nat.le_add_right .., Nat.add_le_add_left h c.now⟩

/-- A request takes its time and that of the pause before it, if there is one. -/
theorem takesAtMost_requestAfter {limit : Nat} {pause : Nat → Action (Clocked τ) Unit}
    {request : Action (Clocked τ) α} (hrequest : TakesAtMost limit request)
    (hpause : ∀ failures, TakesAtMost (Backoff.longest failures) (pause failures))
    (failures : Nat) :
    TakesAtMost ((if failures = 0 then 0 else Backoff.longest failures) + limit)
      (requestAfter pause request failures) := by
  cases failures with
  | zero => simpa [requestAfter] using hrequest
  | succ failures =>
    rw [requestAfter, if_pos (Nat.succ_ne_zero failures), if_neg (Nat.succ_ne_zero failures)]
    exact (hpause (failures + 1)).bind fun _ => hrequest

/-! ## Questions -/

/-- Requests to one endpoint take what each of them takes with the pause before it. -/
theorem takesAtMost_persist {request : Nat → Action (Clocked τ) α} {cost : Nat → Nat}
    (h : ∀ failures, TakesAtMost (cost failures) (request failures)) (idle : Fault)
    (more failures : Nat) (last : Option Fault) :
    TakesAtMost ((List.range' failures more).map cost).sum
      (persist request idle more failures last) := by
  induction more generalizing failures last with
  | zero => exact fun c => ⟨Nat.le_refl c.now, Nat.le_refl c.now⟩
  | succ more ih =>
    rw [List.range'_succ, List.map_cons, List.sum_cons]
    intro c
    obtain ⟨hlow, hhigh⟩ := h failures c
    rcases hrequest : request failures c with ⟨outcome, c'⟩
    rw [hrequest] at hlow hhigh
    dsimp only at hlow hhigh
    by_cases hretryable : ∃ fault, outcome = .error fault ∧ fault.isRetryable = true
    · -- what is left after this request and what it took add up to the whole
      obtain ⟨fault, rfl, hfault⟩ := hretryable
      rw [persist_of_retryable hrequest hfault]
      obtain ⟨hlow', hhigh'⟩ := ih (failures + 1) (some fault) c'
      omega
    · have hsettled : ∀ fault, outcome = .error fault → fault.isRetryable = false :=
        fun fault hfault => Bool.eq_false_iff.2 fun hmay => hretryable ⟨fault, hfault, hmay⟩
      rw [persist_of_settled hrequest hsettled]
      exact ⟨hlow, Nat.le_trans hhigh (by omega)⟩

/-- The requests that are allowed at one endpoint, with the pauses between them, take what is
reckoned for them. -/
theorem sum_range_eq (limit attempts : Nat) :
    ((List.range' 0 attempts).map fun failures =>
        (if failures = 0 then 0 else Backoff.longest failures) + limit).sum =
      limit * attempts + Backoff.total (attempts - 1) := by
  induction attempts with
  | zero => rfl
  | succ attempts ih =>
    rw [List.range'_1_concat, List.map_append, List.sum_append, ih]
    -- only the very first request has no pause before it
    cases attempts with
    | zero => simp [Nat.add_comm]
    | succ attempts =>
      have htotal := Backoff.total_succ attempts
      simp only [Nat.zero_add, List.map_cons, List.map_nil, List.sum_cons, List.sum_nil,
        Nat.add_sub_cancel, Nat.succ_ne_zero, if_false, htotal, Nat.mul_succ]
      omega

/-- A question to one endpoint takes at most what is reckoned for one endpoint. -/
theorem takesAtMost_askAt (e : Endpoints) (net : Transport τ) (result : Decoder α) (said : Json)
    (url : String) : TakesAtMost e.budgetAtOne (e.askAt net result said url) := by
  have h := takesAtMost_persist
    (takesAtMost_requestAfter (takesAtMost_request net e.timeout result said url)
      (takesAtMost_backOff net)) (noAttempt e.attempts) e.attempts 0 none
  rw [sum_range_eq] at h
  exact h.mono (by rw [Endpoints.budgetAtOne]; omega)

/-- **A question takes at most its budget**, at both endpoints together. -/
theorem takesAtMost_ask (e : Endpoints) (net : Transport τ) (result : Decoder α) (method : String)
    (params : Json) : TakesAtMost e.budget (e.ask net result method params) := by
  rw [Endpoints.ask, Endpoints.budget, Endpoints.urls]
  cases hfallback : e.fallback with
  | none => simpa [failover] using takesAtMost_askAt e net result (payload method params) e.primary
  | some url =>
    intro c
    -- each endpoint has its share of the budget, whether the second one is asked or not
    have hfirst := takesAtMost_askAt e net result (payload method params) e.primary c
    rcases hprimary : e.askAt net result (payload method params) e.primary c with ⟨verdict, c₁⟩
    rw [hprimary] at hfirst
    have hsecond := takesAtMost_askAt e net result (payload method params) url c₁
    rcases hfallback : e.askAt net result (payload method params) url c₁ with ⟨verdict', c₂⟩
    rw [hfallback] at hsecond
    dsimp only at hfirst hsecond
    by_cases hmoves : ∃ fault, verdict = .error fault ∧ fault.movesOn = true
    · obtain ⟨fault, rfl, hfault⟩ := hmoves
      rw [Option.map_some, failover_of_movesOn hprimary hfault hfallback]
      simp only [Option.toList_some, List.length_cons, List.length_nil]
      omega
    · have hstays : ∀ fault, verdict = .error fault → fault.movesOn = false :=
        fun fault hfault => Bool.eq_false_iff.2 fun hmay => hmoves ⟨fault, hfault, hmay⟩
      rw [failover_of_verdict hprimary method (.inr hstays)]
      simp only [Option.toList_some, List.length_cons, List.length_nil]
      omega

/-! ## Waiting for the answer -/

/-- Who waits as long as a question can take gets what the question comes to. -/
theorem askWithin_question {limit deadline : Nat} {action : Action (Clocked τ) α}
    (h : TakesAtMost limit action) (hle : limit ≤ deadline) :
    Ledger.askWithin deadline (Endpoints.question action) =
      Ledger.ask (Endpoints.question action) := by
  funext c
  have hhigh := (h { Clocked.start c.state with now := c.now }).2
  rw [Ledger.askWithin, Ledger.ask, Endpoints.question]
  rcases haction : action { Clocked.start c.state with now := c.now } with ⟨result, c'⟩
  rw [haction] at hhigh
  dsimp only at hhigh ⊢
  -- the answer is there when the action has ended, which is before the deadline
  rw [Pending.within, if_pos]
  rw [Pending.later, Pending.ready]
  split
  · exact Nat.zero_le _
  · simp only [Option.getD_some, Option.getD_none]
    omega

namespace Endpoints

variable (e : Endpoints) (net : Transport τ)

/-- The newest block is told within the budget of a question. -/
theorem takesAtMost_head : TakesAtMost e.budget (e.head net) := by
  have h : TakesAtMost (e.budget + 0) (e.head net) :=
    (takesAtMost_ask e net Decoder.str "eth_blockNumber" (.arr [])).bind fun text => by
      cases Quantity.read text with
      | ok n => exact TakesAtMost.liftM (.ok n)
      | error flaw => exact TakesAtMost.liftM (.error flaw.fault)
  exact h

/-- The code at an account is told within the budget of a question. -/
theorem takesAtMost_code (address : Address) : TakesAtMost e.budget (e.code net address) :=
  (takesAtMost_ask e net Decoder.str "eth_getCode" (codeParams address)).bind fun text =>
    TakesAtMost.liftM (bytesOf text)

/-- A call is answered within the budget of a question. -/
theorem takesAtMost_call (contract : Address) (data : List UInt8) :
    TakesAtMost e.budget (e.call net contract data) :=
  (takesAtMost_ask e net Decoder.str "eth_call" (callParams contract data)).bind fun text =>
    TakesAtMost.liftM (bytesOf text)

/-- What is reckoned in spans of time is the budget, whenever that is a span at all. -/
theorem budget?_eq_ok_iff {e : Endpoints} {spans : Nat} :
    e.budget? = .ok spans ↔ e.budget < Span.bound ∧ spans = e.budget := by
  constructor
  · intro h
    cases hrequests : Span.scale e.timeout e.attempts with
    | error long => simp [budget?, hrequests, bind, Except.bind] at h
    | ok requests =>
      cases hone : Span.add requests (Backoff.total (e.attempts - 1) + slack) with
      | error long => simp [budget?, hrequests, hone, bind, Except.bind] at h
      | ok one =>
        simp only [budget?, hrequests, hone, bind, Except.bind] at h
        obtain ⟨-, rfl⟩ := Span.scale_eq_ok_iff.1 hrequests
        obtain ⟨-, rfl⟩ := Span.add_eq_ok_iff.1 hone
        exact Span.scale_eq_ok_iff.1 h
  · rintro ⟨hlt, rfl⟩
    -- what is reckoned on the way is no longer than the whole
    have hone : e.budgetAtOne < Span.bound :=
      Nat.lt_of_le_of_lt (Nat.le_mul_of_pos_right _ (by simp [urls])) hlt
    have hrequests : e.timeout * e.attempts < Span.bound :=
      Nat.lt_of_le_of_lt (Nat.le_add_right ..) hone
    simp only [budget?, Span.scale_eq_ok_iff.2 ⟨hrequests, rfl⟩, bind, Except.bind,
      Span.add_eq_ok_iff.2 ⟨hone, rfl⟩]
    exact Span.scale_eq_ok_iff.2 ⟨hlt, rfl⟩

/-- **No deadline cuts a question short.** If the budget of a question is a span of time, then every
question ends within it, whatever the endpoints reply and whatever chance says; the deadline is at
least as long as the budget and as what the caller would wait; and who waits until the deadline gets
what the question comes to. -/
theorem ask_within_deadline (requested : Nat) {spans : Nat} (h : e.budget? = .ok spans) :
    let deadline := (e.ledger net).deadline requested
    (∀ {α : Type} (result : Decoder α) method params c,
      let asked := e.ask net result method params c
      c.now ≤ asked.2.now ∧ asked.2.now ≤ c.now + spans) ∧
    max requested spans ≤ deadline ∧
    Ledger.askWithin deadline (e.ledger net).head = Ledger.ask (e.ledger net).head ∧
    (∀ address, Ledger.askWithin deadline ((e.ledger net).code address) =
      Ledger.ask ((e.ledger net).code address)) ∧
    (∀ query, Ledger.askWithin deadline ((e.ledger net).logs query) =
      Ledger.ask ((e.ledger net).logs query)) ∧
    ∀ contract data, Ledger.askWithin deadline ((e.ledger net).call contract data) =
      Ledger.ask ((e.ledger net).call contract data) := by
  intro deadline
  have hspans := (budget?_eq_ok_iff.1 h).2
  -- the deadline is no shorter than the budget, so it never comes first
  have hle : e.budget ≤ deadline := Nat.le_max_right ..
  refine ⟨?_, ?_, askWithin_question (takesAtMost_head e net) hle,
    fun address => askWithin_question (takesAtMost_code e net address) hle,
    fun query => askWithin_question (takesAtMost_ask e net _ _ _) hle,
    fun contract data => askWithin_question (takesAtMost_call e net contract data) hle⟩
  · intro α result method params c
    rw [hspans]
    exact takesAtMost_ask e net result method params c
  · rw [hspans]
    exact Nat.le_refl _

/-- With the patience that endpoints have if nothing is said about it, a question to two endpoints
that never reply takes less than a hundred seconds. -/
theorem ask_within_deadline_of_silent :
    let e : Endpoints := { primary := "http://one", fallback := some "http://two" }
    let silent : Network :=
      (Table.empty.set "http://one" ⟨.never, [], []⟩).set "http://two" ⟨.never, [], []⟩
    e.budget? = .ok 97800 ∧
      (e.ask Network.transport Decoder.str "eth_blockNumber" (.arr [])
        (Clocked.start silent)).2.now ≤ 97800 ∧
      97800 ≤ (e.ledger Network.transport).deadline 15000 ∧
      Ledger.askWithin ((e.ledger Network.transport).deadline 15000)
        (e.ledger Network.transport).head = Ledger.ask (e.ledger Network.transport).head := by
  intro e silent
  have hbudget : e.budget? = .ok 97800 := budget?_eq_ok_iff.2 ⟨by decide, by decide⟩
  obtain ⟨htime, hdeadline, hhead, -⟩ := ask_within_deadline e Network.transport 15000 hbudget
  have htime := (htime Decoder.str "eth_blockNumber" (.arr []) (Clocked.start silent)).2
  have hstart : (Clocked.start silent).now + 97800 = 97800 := Nat.zero_add 97800
  rw [hstart] at htime
  exact ⟨hbudget, htime, Nat.le_trans (Nat.le_max_right 15000 97800) hdeadline, hhead⟩

end Endpoints

end TokenAudit
