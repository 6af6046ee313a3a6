import TokenAudit.Rpc.Client

/-! # How a question to endpoints goes

A question to endpoints is made of requests. What each of its parts does is said here once: one
request, a request with the pause before it, requests to one endpoint, and the second endpoint after
the first.

* `Reply.outcome` — how a request ends, and `request_spec`, all that a request does;
* `persist_of_retryable` and `persist_of_settled` — requests to one endpoint, one at a time;
* `failover_of_verdict` and `failover_of_movesOn` — the second endpoint after the first. -/

namespace TokenAudit

open Json (Decoder)

variable {σ τ α : Type}

/-! ## One request -/

/-- How a request to an address ends if it is replied to in a given way. -/
def Reply.outcome (limit : Nat) (result : Decoder α) (url : String) (reply : Reply) :
    Except Fault α :=
  match Target.parse url with
  | .error refusal => .error ⟨.rpcError, refusal.message⟩
  | .ok target =>
    match reply with
    | .after delay exchange =>
      if limit ≠ 0 ∧ delay ≤ limit then
        (exchange.document target.url.toText).bind (Answer.read result)
      else .error requestTimeout
    | .never => .error requestTimeout

/-- Whether requests to an address are sent at all: it has to be a target, and there has to be
time. -/
def reaches (limit : Nat) (url : String) : Bool := limit ≠ 0 && (Target.parse url).toBool

/-- **A request.** It ends as the reply says, the state is the one after sending it if it is sent,
and it takes no longer than it may. -/
theorem request_spec (net : Transport τ) (limit : Nat) (result : Decoder α) (said : Json)
    (url : String) (c : Clocked τ) :
    let posted := net.post url said c.now c.state
    let ended := request net limit result said url c
    ended.1 = posted.1.outcome limit result url ∧
      ended.2.state = (if reaches limit url then posted.2 else c.state) ∧
      c.now ≤ ended.2.now ∧ ended.2.now ≤ c.now + limit := by
  dsimp only
  rw [request, Reply.outcome, reaches]
  cases htarget : Target.parse url with
  | error refusal => simp [Except.toBool]
  | ok target =>
    by_cases hlimit : limit = 0
    · cases (net.post url said c.now c.state).1 <;> simp [hlimit]
    rcases hpost : net.post url said c.now c.state with ⟨reply, s⟩
    cases reply with
    | never => simp [hlimit, Except.toBool]
    | after delay exchange =>
      by_cases hdelay : delay ≤ limit
      · simp [hlimit, hdelay, Except.toBool]
      · simp [hlimit, hdelay, Except.toBool]

/-- Pausing takes a number of chance, and no more time than the longest pause. -/
theorem backOff_eq (net : Transport τ) (failures : Nat) (c : Clocked τ) :
    backOff net failures c =
      (.ok (), { c with state := (net.draw c.state).2 }.wait
        (Backoff.pause failures (net.draw c.state).1)) := rfl

/-- There is no pause before the first request. -/
theorem requestAfter_zero (pause : Nat → Action σ Unit) (request : Action σ α) (s : σ) :
    requestAfter pause request 0 s = request s := rfl

/-- Before any other request there is one. -/
theorem requestAfter_succ {pause : Nat → Action σ Unit} {failures : Nat} {s s' : σ}
    (h : pause (failures + 1) s = (.ok (), s')) (request : Action σ α) :
    requestAfter pause request (failures + 1) s = request s' := by
  rw [requestAfter, if_pos (Nat.succ_ne_zero failures)]
  exact Action.bind_of_ok h _

/-! ## One endpoint -/

/-- If no more requests are allowed, the last fault is what comes of them. -/
theorem persist_zero (request : Nat → Action σ α) (idle : Fault) (failures : Nat)
    (last : Option Fault) (s : σ) :
    persist request idle 0 failures last s = (.error (last.getD idle), s) := rfl

/-- After a request that fails in a way that may pass, further ones are made. -/
theorem persist_of_retryable {request : Nat → Action σ α} {failures : Nat} {s s' : σ}
    {fault : Fault} (h : request failures s = (.error fault, s'))
    (hfault : fault.isRetryable = true) (idle : Fault) (more : Nat) (last : Option Fault) :
    persist request idle (more + 1) failures last s =
      persist request idle more (failures + 1) (some fault) s' := by
  rw [persist, Action.bind_of_ok (Action.attempt_of_eq h)]
  exact congrFun (if_pos hfault) s'

/-- A request that succeeds, or fails in a way that will not pass, is the last one. -/
theorem persist_of_settled {request : Nat → Action σ α} {failures : Nat} {s s' : σ}
    {outcome : Except Fault α} (h : request failures s = (outcome, s'))
    (hsettled : ∀ fault, outcome = .error fault → fault.isRetryable = false) (idle : Fault)
    (more : Nat) (last : Option Fault) :
    persist request idle (more + 1) failures last s = (outcome, s') := by
  rw [persist, Action.bind_of_ok (Action.attempt_of_eq h)]
  cases outcome with
  | ok a => rfl
  | error fault => exact congrFun (if_neg (by simp [hsettled fault rfl])) s'

/-! ## Both endpoints -/

/-- The second endpoint is not asked if there is none, or if the first one has not failed, or failed
in a way that no other endpoint helps with. -/
theorem failover_of_verdict {primary : Action σ α} {fallback : Option (Action σ α)} {s s' : σ}
    {verdict : Except Fault α} (h : primary s = (verdict, s')) (method : String)
    (hstays : fallback = none ∨ ∀ fault, verdict = .error fault → fault.movesOn = false) :
    failover method primary fallback s = (verdict, s') := by
  cases fallback with
  | none => exact h
  | some second =>
    rw [failover, Action.bind_of_ok (Action.attempt_of_eq h)]
    cases verdict with
    | ok a => rfl
    | error fault =>
      have hfault : fault.movesOn = false := hstays.resolve_left nofun fault rfl
      exact congrFun (if_neg (by simp [hfault])) s'

/-- The second endpoint is asked after the first one failed in a way that another endpoint might
help with. -/
theorem failover_of_movesOn {primary second : Action σ α} {s s₁ s₂ : σ} {fault : Fault}
    {verdict : Except Fault α} (hprimary : primary s = (.error fault, s₁))
    (hfault : fault.movesOn = true) (hsecond : second s₁ = (verdict, s₂)) (method : String) :
    failover method primary (some second) s = (verdict.mapError (allFailed method), s₂) := by
  rw [failover, Action.bind_of_ok (Action.attempt_of_eq hprimary)]
  dsimp only
  rw [if_pos hfault, Action.bind_of_ok (Action.attempt_of_eq hsecond)]
  cases verdict with
  | ok a => rfl
  | error last => rfl

end TokenAudit
