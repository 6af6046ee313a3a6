import TokenAudit.Proofs.Rpc.Course

/-! # From one endpoint to the other

A question goes to the first endpoint until a request settles it, or until there were as many as are
made at one endpoint. Only if the first endpoint failed in a way that another one might help with,
it goes to the second endpoint in the same manner. Which requests are made, and what comes of them,
hangs on nothing but what the endpoints reply, request by request.

* `requestCount` — how many requests are made if they end in given ways;
* `Counts` and `persist_of_counts` — requests to one endpoint, counted;
* `Wire` and `Wire.scripted` — endpoints that reply from scripts, and a record of all that is sent;
* `Endpoints.outcomes` — how requests to an endpoint end by its script.

Main statement: `ask_course`. -/

namespace TokenAudit

open Json (Decoder)

variable {σ τ α : Type}

/-! ## Counting requests -/

/-- Whether a request that ends so is the last one: it succeeds, or fails in a way that will not
pass. -/
def settles : Except Fault α → Bool
  | .ok _ => true
  | .error fault => !fault.isRetryable

/-- How many requests are made at one endpoint if they end in the given ways: the place of the first
one that settles the question, or as many as are allowed. -/
def requestCount (limit : Nat) (outcomes : Nat → Except Fault α) : Nat :=
  ((List.range limit).find? fun i => settles (outcomes i)).elim limit (· + 1)

example : requestCount 3 (fun i => if i = 1 then .ok () else .error .rateLimited) = 2 := by decide

/-- If the first request does not settle the question, it is one more than those after it. -/
theorem requestCount_succ (limit : Nat) (outcomes : Nat → Except Fault α) :
    requestCount (limit + 1) outcomes =
      if settles (outcomes 0) then 1 else requestCount limit (fun i => outcomes (i + 1)) + 1 := by
  rw [requestCount, requestCount, List.range_succ_eq_map, List.find?_cons, List.find?_map]
  by_cases hfirst : settles (outcomes 0) = true
  · simp [hfirst]
  · simp only [hfirst]
    cases h : (List.range limit).find? ((fun i => settles (outcomes i)) ∘ Nat.succ) with
    | none =>
      rw [show (List.range limit).find? (fun i => settles (outcomes (i + 1))) = none from h]
      simp
    | some i =>
      rw [show (List.range limit).find? (fun i => settles (outcomes (i + 1))) = some i from h]
      simp

/-- If any request is allowed, one is made. -/
theorem requestCount_pos {limit : Nat} (h : 0 < limit) (outcomes : Nat → Except Fault α) :
    0 < requestCount limit outcomes := by
  obtain ⟨limit, rfl⟩ := Nat.exists_eq_succ_of_ne_zero (Nat.ne_of_gt h)
  rw [requestCount_succ]
  split <;> omega

/-- No more requests are made than are allowed. -/
theorem requestCount_le (limit : Nat) (outcomes : Nat → Except Fault α) :
    requestCount limit outcomes ≤ limit := by
  induction limit generalizing outcomes with
  | zero => exact Nat.le_refl 0
  | succ limit ih =>
    rw [requestCount_succ]
    have := ih fun i => outcomes (i + 1)
    split <;> omega

/-- A further request is made as long as it is allowed and none before it settles the question. -/
theorem lt_requestCount_iff {limit : Nat} {outcomes : Nat → Except Fault α} {i : Nat} :
    i < requestCount limit outcomes ↔ i < limit ∧ ∀ j < i, settles (outcomes j) = false := by
  induction limit generalizing outcomes i with
  | zero =>
    have hnone : requestCount 0 outcomes = 0 := rfl
    rw [hnone]
    omega
  | succ limit ih =>
    rw [requestCount_succ]
    cases i with
    | zero =>
      have hfirst : 0 < limit + 1 := Nat.succ_pos limit
      split <;> simp [hfirst]
    | succ i =>
      rw [Nat.forall_lt_succ_left]
      split
      · rename_i hsettled
        simp [hsettled]
      · rename_i hopen
        rw [Nat.add_lt_add_iff_right, Nat.add_lt_add_iff_right, ih]
        simp [hopen]

/-- The request after `n` others ends in the `n`-th way, whatever else was done; that `n` requests
were made is what `made n` says of a state. -/
def Counts (request : Nat → Action σ α) (outcomes : Nat → Except Fault α) (made : Nat → σ → Prop) :
    Prop :=
  ∀ n s, made n s → (request n s).1 = outcomes n ∧ made (n + 1) (request n s).2

/-- **Requests to one endpoint.** There are as many as `requestCount` says, and the last one
decides. -/
theorem persist_of_counts {request : Nat → Action σ α} {outcomes : Nat → Except Fault α}
    {made : Nat → σ → Prop} (h : Counts request outcomes made) (idle : Fault) {more n : Nat}
    (hmore : 0 < more) (last : Option Fault) {s : σ} (hs : made n s) :
    let k := requestCount more fun i => outcomes (n + i)
    (persist request idle more n last s).1 = outcomes (n + (k - 1)) ∧
      made (n + k) (persist request idle more n last s).2 := by
  dsimp only
  induction more generalizing n last s with
  | zero => exact absurd hmore (Nat.lt_irrefl 0)
  | succ more ih =>
    obtain ⟨hout, hmade⟩ := h n s hs
    rcases hrequest : request n s with ⟨outcome, s'⟩
    rw [hrequest] at hout hmade
    dsimp only at hout hmade
    rw [requestCount_succ, show outcomes (n + 0) = outcome from hout.symm]
    by_cases hsettled : settles outcome = true
    · -- this request is the last one
      have hlast : ∀ fault, outcome = .error fault → fault.isRetryable = false := by
        rintro fault rfl
        simpa [settles] using hsettled
      rw [persist_of_settled hrequest hlast, if_pos hsettled, hout]
      exact ⟨rfl, hmade⟩
    · obtain ⟨fault, rfl, hfault⟩ : ∃ fault, outcome = .error fault ∧ fault.isRetryable = true := by
        cases outcome with
        | ok a => exact absurd rfl hsettled
        | error fault => exact ⟨fault, rfl, by simpa [settles] using hsettled⟩
      rw [persist_of_retryable hrequest hfault, if_neg hsettled]
      have hshift : (fun i => outcomes (n + (i + 1))) = fun i => outcomes (n + 1 + i) :=
        funext fun i => congrArg outcomes (by omega)
      rw [hshift]
      cases more with
      | zero =>
        -- no further request is allowed, so the fault of this one stays
        rw [persist_zero]
        exact ⟨hout, hmade⟩
      | succ more =>
        have hsome : 0 < more + 1 := Nat.succ_pos more
        obtain ⟨hresult, hcount⟩ := ih hsome (some fault) hmade
        have hk := requestCount_pos hsome fun i => outcomes (n + 1 + i)
        generalize (requestCount (more + 1) fun i => outcomes (n + 1 + i)) = k
          at hresult hcount hk ⊢
        rw [show n + (k + 1 - 1) = n + 1 + (k - 1) by omega, show n + (k + 1) = n + 1 + k by omega]
        exact ⟨hresult, hcount⟩

/-! ## Scripts -/

/-- What has gone over the wire. -/
structure Wire where
  /-- The requests with the addresses that they were sent to, the oldest first. -/
  sent : List (String × Json) := []
  /-- How many numbers of chance were used. -/
  draws : Nat := 0

namespace Wire

/-- How many requests were sent to an address. -/
def count (w : Wire) (url : String) : Nat := w.sent.countP fun entry => entry.1 == url

/-- Endpoints that reply to the first, the second, … request to an address as a script says. -/
def scripted (script : String → Nat → Reply) (chance : Nat → Nat) : Transport Wire where
  post url said _ w := (script url (w.count url), { w with sent := w.sent ++ [(url, said)] })
  draw w := (chance w.draws, { w with draws := w.draws + 1 })

/-- The wire after so many requests to an address, with a pause between one and the next. To an
address that is not reached nothing is sent. -/
def after (w : Wire) (limit : Nat) (url : String) (said : Json) (requests : Nat) : Wire where
  sent := w.sent ++ if reaches limit url then List.replicate requests (url, said) else []
  draws := w.draws + (requests - 1)

/-- Requests that went over the wire are counted at their address, if that is reached. -/
theorem count_after (w : Wire) (limit : Nat) (url : String) (said : Json) (requests : Nat) :
    (w.after limit url said requests).count url =
      w.count url + if reaches limit url then requests else 0 := by
  rw [count, after, List.countP_append, ← count]
  cases reaches limit url <;> simp [List.countP_replicate]

end Wire

/-- How requests to an address end by a script, counted from what was sent there before. -/
def Endpoints.outcomes (e : Endpoints) (script : String → Nat → Reply) (result : Decoder α)
    (url : String) (w : Wire) (i : Nat) : Except Fault α :=
  (script url (w.count url + i)).outcome e.timeout result url

/-- Where nothing is sent, it does not matter what the reply would be. -/
theorem outcome_of_not_reaches {limit : Nat} {url : String} (h : reaches limit url = false)
    (result : Decoder α) (one two : Reply) :
    one.outcome limit result url = two.outcome limit result url := by
  rw [Reply.outcome, Reply.outcome]
  cases htarget : Target.parse url with
  | error refusal => rfl
  | ok target =>
    have hlimit : limit = 0 := by simpa [reaches, htarget, Except.toBool] using h
    subst hlimit
    cases one <;> cases two <;> simp

/-- Requests to an address are counted by what they leave on the wire. -/
theorem counts_scripted (e : Endpoints) (script : String → Nat → Reply) (chance : Nat → Nat)
    (result : Decoder α) (said : Json) (url : String) (w : Wire) :
    Counts (requestAfter (backOff (Wire.scripted script chance))
        (request (Wire.scripted script chance) e.timeout result said url))
      (e.outcomes script result url w)
      fun n (c : Clocked Wire) => c.state = w.after e.timeout url said n := by
  intro n c hc
  -- before the request there are as many pauses as requests
  obtain ⟨c', hstate, hafter⟩ : ∃ c' : Clocked Wire,
      c'.state = { w.after e.timeout url said n with draws := w.draws + n } ∧
        requestAfter (backOff (Wire.scripted script chance))
            (request (Wire.scripted script chance) e.timeout result said url) n c =
          request (Wire.scripted script chance) e.timeout result said url c' := by
    cases n with
    | zero => exact ⟨c, hc, rfl⟩
    | succ n =>
      refine ⟨_, ?_, requestAfter_succ (backOff_eq _ (n + 1) c) _⟩
      show { c.state with draws := c.state.draws + 1 } = _
      rw [hc]
      rfl
  obtain ⟨hout, hposted, -⟩ :=
    request_spec (Wire.scripted script chance) e.timeout result said url c'
  rw [hafter]
  have hcount : c'.state.count url = (w.after e.timeout url said n).count url := by rw [hstate]; rfl
  rw [Wire.count_after] at hcount
  constructor
  · rw [hout]
    show (script url (c'.state.count url)).outcome e.timeout result url = _
    cases hreaches : reaches e.timeout url with
    | false => exact outcome_of_not_reaches hreaches result _ _
    | true => rw [hcount, hreaches]; rfl
  · refine hposted.trans ?_
    show (if _ then { c'.state with sent := c'.state.sent ++ [(url, said)] } else c'.state) = _
    rw [hstate, Wire.after, Wire.after]
    cases reaches e.timeout url with
    | false => rfl
    | true =>
      simp only [if_true, List.append_assoc, ← List.replicate_succ']
      rfl

/-- What a question to the endpoint at one address comes to, and what is on the wire then. -/
theorem askAt_scripted (e : Endpoints) (script : String → Nat → Reply) (chance : Nat → Nat)
    (result : Decoder α) (said : Json) (url : String) (c : Clocked Wire) :
    let k := requestCount e.attempts (e.outcomes script result url c.state)
    let asked := e.askAt (Wire.scripted script chance) result said url c
    asked.1 = e.outcomes script result url c.state (k - 1) ∧
      asked.2.state = c.state.after e.timeout url said k := by
  have hstart : c.state = c.state.after e.timeout url said 0 := by
    cases h : reaches e.timeout url <;> simp [Wire.after, h]
  have hattempts : 0 < e.attempts := Nat.lt_of_lt_of_le Nat.zero_lt_one (Nat.le_max_left ..)
  have h := persist_of_counts (counts_scripted e script chance result said url c.state)
    (noAttempt e.attempts) hattempts none hstart
  simp only [Nat.zero_add] at h
  exact h

/-! ## The course of a question -/

/-- An answer that cannot be read is never taken for want of endpoints. -/
theorem Answer.code_of_read {result : Decoder α} {body : Json.Document} {fault : Fault}
    (h : Answer.read result body = .error fault) : fault.code ≠ .noEndpoints := by
  rw [Answer.read] at h
  cases hbody : body.decode (Answer.decode result) with
  | error problem =>
    rw [hbody] at h
    cases h
    exact Fault.Code.noConfusion
  | ok answer =>
    rw [hbody] at h
    dsimp only at h
    rw [Answer.value] at h
    split at h
    · cases h
      rw [Complaint.fault]
      split <;> exact Fault.Code.noConfusion
    · cases h
    · cases h
      exact Fault.Code.noConfusion

/-- An exchange that brings no document is never taken for want of endpoints. -/
theorem Exchange.code_of_document {url : String} {exchange : Exchange} {fault : Fault}
    (h : exchange.document url = .error fault) : fault.code ≠ .noEndpoints := by
  cases exchange with
  | answered status body =>
    simp only [Exchange.document, documentOf] at h
    split at h
    · cases h; exact Fault.Code.noConfusion
    · split at h
      · cases h; exact Fault.Code.noConfusion
      · split at h
        · cases h
        · cases h; exact Fault.Code.noConfusion
  | unreachable => cases h; exact Fault.Code.noConfusion
  | broken reason => cases h; exact Fault.Code.noConfusion

/-- A request never ends as if there were no endpoints. -/
theorem Reply.code_of_outcome {limit : Nat} {result : Decoder α} {url : String} {reply : Reply}
    {fault : Fault} (h : reply.outcome limit result url = .error fault) :
    fault.code ≠ .noEndpoints := by
  rw [Reply.outcome] at h
  -- this code is kept for when all endpoints were asked
  cases htarget : Target.parse url with
  | error refusal =>
    rw [htarget] at h
    cases h
    exact Fault.Code.noConfusion
  | ok target =>
    rw [htarget] at h
    cases reply with
    | never => cases h; exact Fault.Code.noConfusion
    | after delay exchange =>
      dsimp only at h
      split at h
      · cases hdocument : exchange.document target.url.toText with
        | error lost =>
          rw [hdocument] at h
          cases h
          exact Exchange.code_of_document hdocument
        | ok body =>
          rw [hdocument] at h
          exact Answer.code_of_read h
      · cases h; exact Fault.Code.noConfusion

/-- Where both endpoints failed, nobody is told that no request was made. -/
theorem mapError_allFailed_ne (method : String) (verdict : Except Fault α) (attempts : Nat) :
    verdict.mapError (allFailed method) ≠ .error (noAttempt attempts) := by
  cases verdict with
  | ok a => exact nofun
  | error last =>
    intro h
    -- the two messages do not even begin with the same letter
    have hhead := congrArg (fun fault : Fault => fault.message.toList.head?) (Except.error.inj h)
    simp [allFailed, noAttempt] at hhead

/-- Another endpoint may help with a fault that may pass, and with an error of the endpoint. -/
theorem Fault.movesOn_iff {fault : Fault} :
    fault.movesOn = true ↔ fault.isRetryable = true ∨ fault.code = .rpcError := by
  simp [Fault.movesOn]

section

variable (e : Endpoints) (script : String → Nat → Reply) (chance : Nat → Nat) (result : Decoder α)
  (method : String) (params : Json) (c : Clocked Wire)

/-- A question that the first endpoint settles, or that cannot go anywhere else. -/
theorem ask_of_stays
    (h : e.fallback = none ∨ ∀ fault,
      e.outcomes script result e.primary c.state
        (requestCount e.attempts (e.outcomes script result e.primary c.state) - 1) = .error fault →
      fault.movesOn = false) :
    e.ask (Wire.scripted script chance) result method params c =
      e.askAt (Wire.scripted script chance) result (payload method params) e.primary c := by
  obtain ⟨hverdict, -⟩ := askAt_scripted e script chance result (payload method params) e.primary c
  rcases hprimary : e.askAt (Wire.scripted script chance) result (payload method params) e.primary c
    with ⟨verdict, c₁⟩
  rw [hprimary] at hverdict
  refine failover_of_verdict hprimary method (h.imp ?_ ?_)
  · intro hnone
    rw [hnone, Option.map_none]
  · intro hstays fault hfault
    exact hstays fault (hverdict.symm.trans hfault)

/-- A question that goes on to the second endpoint. -/
theorem ask_of_movesOn {url : String} {fault : Fault} (hurl : e.fallback = some url)
    (hfault : e.outcomes script result e.primary c.state
      (requestCount e.attempts (e.outcomes script result e.primary c.state) - 1) = .error fault)
    (hmoves : fault.movesOn = true) :
    let w := c.state.after e.timeout e.primary (payload method params)
      (requestCount e.attempts (e.outcomes script result e.primary c.state))
    let second := e.outcomes script result url w
    let j := requestCount e.attempts second
    let asked := e.ask (Wire.scripted script chance) result method params c
    asked.1 = (second (j - 1)).mapError (allFailed method) ∧
      asked.2.state = w.after e.timeout url (payload method params) j := by
  intro w second j asked
  obtain ⟨hverdict, hwire⟩ :=
    askAt_scripted e script chance result (payload method params) e.primary c
  rcases hprimary : e.askAt (Wire.scripted script chance) result (payload method params) e.primary c
    with ⟨verdict, c₁⟩
  rw [hprimary] at hverdict hwire
  have hfailed : verdict = .error fault := hverdict.trans hfault
  -- the second endpoint is asked from where the first one left off
  obtain ⟨hlast, hwire'⟩ := askAt_scripted e script chance result (payload method params) url c₁
  rw [show c₁.state = w from hwire] at hlast hwire'
  rcases hsecond : e.askAt (Wire.scripted script chance) result (payload method params) url c₁
    with ⟨verdict', c₂⟩
  rw [hsecond] at hlast hwire'
  have hasked : asked = (verdict'.mapError (allFailed method), c₂) := by
    show failover method _ _ c = _
    rw [hurl]
    exact failover_of_movesOn (hfailed ▸ hprimary) hmoves hsecond method
  rw [hasked]
  exact ⟨congrArg (Except.mapError (allFailed method)) hlast, hwire'⟩

/-- A question never ends as if no request was made. -/
theorem ask_ne_noAttempt {fault : Fault}
    (h : (e.ask (Wire.scripted script chance) result method params c).1 = .error fault) :
    fault ≠ noAttempt e.attempts := by
  rintro rfl
  by_cases hmoves : ∃ url fault, e.fallback = some url ∧ e.outcomes script result e.primary c.state
      (requestCount e.attempts (e.outcomes script result e.primary c.state) - 1) = .error fault ∧
      fault.movesOn = true
  · -- the fault of the second endpoint is quoted in another one
    obtain ⟨url, fault, hurl, hfirst, hfault⟩ := hmoves
    obtain ⟨hasked, -⟩ := ask_of_movesOn e script chance result method params c hurl hfirst hfault
    exact mapError_allFailed_ne method _ e.attempts (hasked.symm.trans h)
  · have hstays : e.fallback = none ∨ ∀ fault, e.outcomes script result e.primary c.state
        (requestCount e.attempts (e.outcomes script result e.primary c.state) - 1) = .error fault →
        fault.movesOn = false := by
      cases hurl : e.fallback with
      | none => exact .inl rfl
      | some url =>
        exact .inr fun fault hfirst => Bool.eq_false_iff.2 fun hfault =>
          hmoves ⟨url, fault, hurl, hfirst, hfault⟩
    -- the verdict is how a request ended, and none ends so
    rw [ask_of_stays e script chance result method params c hstays, (askAt_scripted ..).1] at h
    exact Reply.code_of_outcome h rfl

end

/-- **The course of a question**, by the scripts of the endpoints. The first endpoint gets `k`
requests, where `k` is the place of the first one that succeeds or fails in a way that will not
pass, or the number of requests allowed at one endpoint. If the last of them fails with a fault that
may pass or with an error of the endpoint, and there is a second endpoint, that one gets `j`
requests in the same manner, and the last one there decides; otherwise the last one at the first
endpoint decides. Nobody is told that no request was made. -/
theorem ask_course (e : Endpoints) (script : String → Nat → Reply) (chance : Nat → Nat)
    (result : Decoder α) (method : String) (params : Json) (c : Clocked Wire) :
    let said := payload method params
    let first := e.outcomes script result e.primary c.state
    let k := requestCount e.attempts first
    let w := c.state.after e.timeout e.primary said k
    let movesOn := ∃ fault, first (k - 1) = .error fault ∧
      (fault.isRetryable = true ∨ fault.code = .rpcError)
    let asked := e.ask (Wire.scripted script chance) result method params c
    (0 < k ∧ k ≤ max 1 e.retries) ∧
    (e.fallback = none ∨ ¬ movesOn → asked.1 = first (k - 1) ∧ asked.2.state = w) ∧
    (∀ url, e.fallback = some url → movesOn →
      let second := e.outcomes script result url w
      let j := requestCount e.attempts second
      (0 < j ∧ j ≤ max 1 e.retries) ∧
      (∀ a, second (j - 1) = .ok a → asked.1 = .ok a) ∧
      (∀ fault, second (j - 1) = .error fault → asked.1 = .error (allFailed method fault)) ∧
      asked.2.state = w.after e.timeout url said j) ∧
    ∀ fault, asked.1 = .error fault → fault ≠ noAttempt e.attempts := by
  intro said first k w movesOn asked
  have hattempts : 0 < e.attempts := Nat.lt_of_lt_of_le Nat.zero_lt_one (Nat.le_max_left ..)
  refine ⟨⟨requestCount_pos hattempts first, requestCount_le e.attempts first⟩, fun hnot => ?_, ?_,
    fun fault hfault => ask_ne_noAttempt e script chance result method params c hfault⟩
  · -- the verdict of the first endpoint stands
    have hasked : asked = _ := ask_of_stays e script chance result method params c
      (hnot.imp_right fun hnot fault hfault => by
        rw [Bool.eq_false_iff, Ne, Fault.movesOn_iff]
        exact fun hmoves => hnot ⟨fault, hfault, hmoves⟩)
    rw [hasked]
    exact askAt_scripted e script chance result said e.primary c
  · -- the second endpoint is asked where the first one has left off
    rintro url hurl ⟨fault, hfault, hmoves⟩ second j
    obtain ⟨hasked, hwire⟩ := ask_of_movesOn e script chance result method params c hurl hfault
      (Fault.movesOn_iff.2 hmoves)
    refine ⟨⟨requestCount_pos hattempts second, requestCount_le e.attempts second⟩, ?_, ?_, hwire⟩
    · intro a ha
      exact hasked.trans (congrArg (Except.mapError (allFailed method)) ha)
    · intro last hlast
      exact hasked.trans (congrArg (Except.mapError (allFailed method)) hlast)

end TokenAudit
