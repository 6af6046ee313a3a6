import Mathlib
import TokenAudit.Proofs.Ledger.Calm
import TokenAudit.Proofs.Ledger.Ranges
import TokenAudit.Proofs.Rpc.Course
import TokenAudit.Proofs.Rpc.Encoding

/-! # Endpoints at which records are served

An endpoint serves the records of a ledger if it answers what a request asks for with what the
records give, in the standard form. Who asks such an endpoint gets what the records give, whatever
was asked before.

* `Recorded.IsAnswer` — what records give for a request, in the standard form;
* `Serves` — an endpoint at which records are served, and `serves_transport`, the network that
  serves them;
* `Tracks` — a question to an endpoint and one to the records come to the same.

Main statement: `ledger_tracks_records`. -/

namespace TokenAudit

open Json (Decoder Document Reading)

variable {τ α : Type}

/-! ## Serving records -/

/-- What records give when they are asked something. -/
def Recorded.gives (r : Recorded) (question : Question Recorded α) : Except Fault α :=
  (Ledger.ask question (Clocked.start r)).1

/-- Records without failures give the logs that are found. -/
theorem Recorded.gives_logs_of_calm {r : Recorded} (hcalm : r.failures = []) (query : LogQuery) :
    r.gives (ledger.logs query) = .ok (find r.logs query) := by
  obtain ⟨c', hasked, -⟩ := ask_logs_of_calm (c := Clocked.start r) hcalm query
  rw [gives, hasked]
  rfl

/-- The body of an answer to a request is what records give for it, in the standard form. Where they
give a fault, any body will do. -/
def Recorded.IsAnswer (r : Recorded) (body : Json) : ServedRequest → Prop
  | .head => ∀ n, r.gives ledger.head = .ok n → Brings (.str (Quantity.write n)) body
  | .code address => ∀ bytes, r.gives (ledger.code address) = .ok bytes →
    Brings (.str (Hex.marked bytes)) body
  | .logs query => ∀ logs, r.gives (ledger.logs query) = .ok logs →
    ∃ wires, List.Forall₂ Log.IsWritten logs wires ∧ Brings (.arr wires) body
  | .call contract data => ∀ bytes, r.gives (ledger.call contract data) = .ok bytes →
    Brings (.str (Hex.marked bytes)) body

/-- At an address records are served: as long as the network is ready, every request that asks for
something is answered in time with what the records give, and the network is ready for the next
one. -/
def Serves (net : Transport τ) (url : String) (limit : Nat) (r : Recorded)
    (ready : τ → Prop) : Prop :=
  ∀ said request now s, ready s → ServedRequest.ofPayload? said = some request →
    ∃ delay body s', net.post url said now s =
      (.after delay (.answered 200 (Document.ofJson body)), s') ∧
      delay ≤ limit ∧ r.IsAnswer body request ∧ ready s'

/-- The network that serves records answers every request, unless failures were injected. -/
theorem serves_transport (url : String) {limit : Nat} {r : Recorded} (hcalm : r.failures = [])
    (hdelay : r.logDelay.getD 0 ≤ limit) : Serves Recorded.transport url limit r r.SameRecords := by
  intro said request now s hsame hsaid
  obtain ⟨queries, rfl⟩ : ∃ queries, s = { r with logQueries := queries } := ⟨s.logQueries, hsame⟩
  have hpost : ∀ s, Recorded.transport.post url said now s = Recorded.serve said now s :=
    fun s => rfl
  simp only [hpost, Recorded.serve, hsaid]
  cases request with
  | head =>
    refine ⟨_, _, _, rfl, Nat.zero_le _, fun n hn => ?_, rfl⟩
    cases hn
    exact brings_resultBody _
  | code address =>
    refine ⟨_, _, _, rfl, Nat.zero_le _, fun bytes hbytes => ?_, rfl⟩
    cases hbytes
    exact brings_resultBody _
  | logs query =>
    -- the query is counted, and then answered with the logs that are found
    have hanswer : Recorded.answerLogs query { r with logQueries := queries + 1 } =
        (.ok (Recorded.find r.logs query), { r with logQueries := queries + 1 }) := by
      rw [Recorded.answerLogs, hcalm]
      rfl
    have hrespond : Recorded.respond now { r with logQueries := queries } (.logs query) =
        (r.logDelay.getD 0, resultBody (.arr ((Recorded.find r.logs query).map Log.toWire)),
          { r with logQueries := queries + 1 }) := by
      let counted : Recorded := { r with logQueries := queries + 1 }
      show (r.logDelay.getD 0, answerBody _ (Recorded.answerLogs query counted).1,
        (Recorded.answerLogs query counted).2) = _
      rw [hanswer]
      rfl
    rw [hrespond]
    refine ⟨_, _, _, rfl, hdelay, fun found hfound => ?_, rfl⟩
    rw [Recorded.gives_logs_of_calm hcalm] at hfound
    cases hfound
    refine ⟨_, ?_, brings_resultBody _⟩
    exact List.forall₂_map_right_iff.2 <| List.forall₂_same.2 fun log _ => log.isWritten_toWire
  | call contract data =>
    refine ⟨_, _, _, rfl, Nat.zero_le _, fun bytes hbytes => ?_, rfl⟩
    have hanswer : Recorded.answerCall { r with logQueries := queries } contract data = .ok bytes :=
      hbytes
    show Brings _
      (answerBody _ (Recorded.answerCall { r with logQueries := queries } contract data))
    rw [hanswer]
    exact brings_resultBody _

/-! ## Asking an endpoint -/

/-- A reply in time that brings a result is the end of a request. -/
theorem outcome_of_brings {limit : Nat} {url : String} (hreaches : reaches limit url = true)
    {delay : Nat} (hdelay : delay ≤ limit) {decode : Decoder α} {result body : Json} {a : α}
    (hbrings : Brings result body) (hresult : decode (Reading.ofJson result) = .ok a)
    (hnull : Reading.ofJson result ≠ .null) :
    (Reply.after delay (.answered 200 (Document.ofJson body))).outcome limit decode url =
      .ok a := by
  rw [reaches, Bool.and_eq_true] at hreaches
  obtain ⟨hlimit, htarget⟩ := hreaches
  rw [Reply.outcome]
  cases hparse : Target.parse url with
  | error refusal =>
    rw [hparse] at htarget
    cases htarget
  | ok target =>
    dsimp only
    rw [if_pos ⟨by simpa using hlimit, hdelay⟩]
    exact Answer.read_of_brings hbrings hresult hnull

section

variable {e : Endpoints} {net : Transport τ} {r : Recorded} {ready : τ → Prop} {c : Clocked τ}
  (hserves : Serves net e.primary e.timeout r ready) (hreaches : reaches e.timeout e.primary = true)
  (hready : ready c.state)

include hserves hreaches hready

/-- A question whose first request brings a result is answered with it. -/
theorem ask_of_serves (decode : Decoder α) {method : String} {params : Json}
    {request : ServedRequest}
    (hsaid : ServedRequest.ofPayload? (payload method params) = some request) {a : α}
    (hanswer : ∀ body, r.IsAnswer body request → ∃ result,
      Brings result body ∧ decode (Reading.ofJson result) = .ok a ∧ Reading.ofJson result ≠ .null) :
    ∃ c', e.ask net decode method params c = (.ok a, c') ∧ ready c'.state := by
  obtain ⟨delay, body, s', hpost, hdelay, hbody, hready'⟩ :=
    hserves (payload method params) request c.now c.state hready hsaid
  obtain ⟨result, hbrings, hresult, hnull⟩ := hanswer body hbody
  obtain ⟨houtcome, hstate, -⟩ :=
    request_spec net e.timeout decode (payload method params) e.primary c
  rw [hpost, outcome_of_brings hreaches hdelay hbrings hresult hnull] at houtcome
  rw [hpost, if_pos hreaches] at hstate
  rcases hrequest : TokenAudit.request net e.timeout decode (payload method params) e.primary c
    with ⟨outcome, c'⟩
  rw [hrequest] at houtcome hstate
  dsimp only at houtcome hstate
  subst houtcome hstate
  -- the first request settles the question, and the second endpoint is not needed
  have hattempts : e.attempts = (e.attempts - 1) + 1 :=
    (Nat.sub_add_cancel (Nat.le_max_left 1 e.retries)).symm
  have hat : e.askAt net decode (payload method params) e.primary c = (.ok a, c') := by
    rw [Endpoints.askAt, hattempts]
    refine persist_of_settled ((requestAfter_zero _ _ c).trans hrequest) ?_ _ _ _
    intro fault hfault
    cases hfault
  refine ⟨c', failover_of_verdict hat method (.inr ?_), hready'⟩
  intro fault hfault
  cases hfault

/-- The newest block is told as it is recorded. -/
theorem head_of_serves (hhead : r.head < UInt64.size) :
    ∃ c', e.head net c = (.ok r.head, c') ∧ ready c'.state := by
  obtain ⟨c', hask, hready'⟩ := ask_of_serves hserves hreaches hready Decoder.str ofPayload?_head
    fun body hbody => ⟨_, hbody r.head rfl, rfl, Reading.noConfusion⟩
  refine ⟨c', (Action.bind_of_ok hask _).trans ?_, hready'⟩
  rw [Quantity.read_write hhead]
  rfl

/-- The code at an account is told as it is recorded. -/
theorem code_of_serves (address : Address) :
    ∃ c', e.code net address c = (.ok ((r.code.get? address).getD []), c') ∧ ready c'.state := by
  obtain ⟨c', hask, hready'⟩ := ask_of_serves hserves hreaches hready Decoder.str
    (ofPayload?_code address) fun body hbody => ⟨_, hbody _ rfl, rfl, Reading.noConfusion⟩
  refine ⟨c', (Action.bind_of_ok hask _).trans ?_, hready'⟩
  rw [bytesOf_marked]
  rfl

/-- A call is answered as it is recorded, if there is an answer. -/
theorem call_of_serves {contract : Address} {data bytes : List UInt8}
    (hbytes : r.answerCall contract data = .ok bytes) :
    ∃ c', e.call net contract data c = (.ok bytes, c') ∧ ready c'.state := by
  obtain ⟨c', hask, hready'⟩ := ask_of_serves hserves hreaches hready Decoder.str
    (ofPayload?_call contract data) fun body hbody =>
      ⟨_, hbody bytes hbytes, rfl, Reading.noConfusion⟩
  refine ⟨c', (Action.bind_of_ok hask _).trans ?_, hready'⟩
  rw [bytesOf_marked]
  rfl

/-- The logs that are found are read back from the wire, since their blocks are in a range of 64
bits. -/
theorem logs_of_serves (hcalm : r.failures = []) {query : LogQuery}
    (hfirst : query.first < UInt64.size) (hlast : query.last < UInt64.size) :
    ∃ c', e.logs net query c = (.ok (Recorded.find r.logs query), c') ∧ ready c'.state := by
  have hbound : ∀ log ∈ Recorded.find r.logs query, ∀ n,
      log.blockNumber = some n → n < UInt64.size := by
    intro log hlog n hn
    have hle := (Recorded.sortKey_of_mem_find hlog).2
    rw [Log.sortKey, hn] at hle
    exact Nat.lt_of_le_of_lt hle hlast
  refine ask_of_serves hserves hreaches hready (Decoder.list decodeLog)
    (ofPayload?_logs hfirst hlast) fun body hbody => ?_
  obtain ⟨wires, hwritten, hbrings⟩ := hbody _ (Recorded.gives_logs_of_calm hcalm query)
  refine ⟨_, hbrings, Decoder.list_ofJson ?_, Reading.noConfusion⟩
  exact ((List.forall₂_and_left _ _).2 ⟨hbound, hwritten⟩).imp fun _ _ h =>
    decodeLog_of_isWritten h.2 h.1

end

/-! ## Both ledgers -/

/-- An action that is asked as a question of a ledger comes to the same. -/
theorem Endpoints.ask_question {action : Action (Clocked τ) α} {c c' : Clocked τ} {a : α}
    (h : action { Clocked.start c.state with now := c.now } = (.ok a, c')) :
    ∃ c'', Ledger.ask (Endpoints.question action) c = (.ok a, c'') ∧ c''.state = c'.state := by
  obtain ⟨c'', hstate, hawait⟩ :=
    Pending.await_eq (((Pending.ready (liftM (.ok a : Except Fault α))).later (c'.now - c.now)))
      { c with state := c'.state }
  -- the answer is known already, so waiting for it does not change it
  have hsettle : ((Pending.ready (liftM (.ok a : Except Fault α))).later (c'.now - c.now)).settle
      c''.state = (.ok a, c''.state) := by
    rw [Pending.later]
    split
    · rfl
    · rfl
  rw [hsettle] at hawait
  refine ⟨{ c'' with state := c''.state }, ?_, hstate⟩
  rw [Ledger.ask, Endpoints.question, h]
  exact hawait

/-- A question to an endpoint and one to the records come to the same, and may be followed by
others. -/
structure Tracks (ready : τ → Prop) (r : Recorded) (asked : Except Fault α × Clocked τ)
    (told : Except Fault α × Clocked Recorded) : Prop where
  value : ∃ a, asked.1 = .ok a ∧ told.1 = .ok a
  stillReady : ready asked.2.state
  stillSame : r.SameRecords told.2.state

/-- What is told of both is the same. -/
theorem Tracks.eq_told {ready : τ → Prop} {r : Recorded} {asked : Except Fault α × Clocked τ}
    {told : Except Fault α × Clocked Recorded} (h : Tracks ready r asked told) :
    asked.1 = told.1 := by
  obtain ⟨a, hasked, htold⟩ := h.value
  rw [hasked, htold]

/-- A question to an endpoint that brings what the records give comes to the same as one to the
records. -/
theorem tracks_of_eq {ready : τ → Prop} {r : Recorded} {action : Action (Clocked τ) α}
    {question : Question Recorded α} {c : Clocked τ} {known known' : Clocked Recorded} {a : α}
    (hasked : ∃ c', action { Clocked.start c.state with now := c.now } = (.ok a, c') ∧
      ready c'.state)
    (htold : Ledger.ask question known = (.ok a, known')) (hsame : r.SameRecords known'.state) :
    Tracks ready r (Ledger.ask (Endpoints.question action) c) (Ledger.ask question known) := by
  obtain ⟨c', haction, hready⟩ := hasked
  obtain ⟨c'', hask, hstate⟩ := Endpoints.ask_question haction
  rw [hask, htold]
  exact ⟨⟨a, rfl, rfl⟩, by rw [hstate]; exact hready, hsame⟩

/-- **The ledger behind an endpoint at which records are served tells what the records give**: the
newest block, the code at every account, the logs of every query, and the result of every call that
has one. Every number of 64 bits is read as it was written, the parameters of a request for logs
tell all of it, and a log off the wire is the log that was written there. -/
theorem ledger_tracks_records (e : Endpoints) (net : Transport τ) {r : Recorded} {ready : τ → Prop}
    (hserves : Serves net e.primary e.timeout r ready)
    (hreaches : reaches e.timeout e.primary = true) (hcalm : r.failures = [])
    (hhead : r.head < UInt64.size) :
    (∀ (c : Clocked τ) (known : Clocked Recorded), ready c.state → r.SameRecords known.state →
      Tracks ready r (Ledger.ask (e.ledger net).head c) (Ledger.ask Recorded.ledger.head known) ∧
      (∀ address, Tracks ready r (Ledger.ask ((e.ledger net).code address) c)
        (Ledger.ask (Recorded.ledger.code address) known)) ∧
      (∀ query : LogQuery, query.first < UInt64.size → query.last < UInt64.size →
        Tracks ready r (Ledger.ask ((e.ledger net).logs query) c)
          (Ledger.ask (Recorded.ledger.logs query) known)) ∧
      ∀ contract data bytes, (Ledger.ask (Recorded.ledger.call contract data) known).1 = .ok bytes →
        Tracks ready r (Ledger.ask ((e.ledger net).call contract data) c)
          (Ledger.ask (Recorded.ledger.call contract data) known)) ∧
    (∀ n < UInt64.size, Quantity.read (Quantity.write n) = .ok n) ∧
    (∀ query : LogQuery, query.first < UInt64.size → query.last < UInt64.size →
      ServedRequest.ofPayload? (payload "eth_getLogs" query.params) = some (.logs query)) ∧
    ∀ topics data block wire, WireLog topics data block wire →
      decodeLog (Reading.ofJson wire) =
        .ok ⟨topics, data, block.bind fun text => (Quantity.read text).toOption⟩ := by
  refine ⟨fun c known hready hsame => ?_, fun n => Quantity.read_write,
    fun query => ofPayload?_logs, fun topics data block wire => decodeLog_of_wireLog⟩
  -- every question begins a round of waits of its own
  have hstart : ready ({ Clocked.start c.state with now := c.now } : Clocked τ).state := hready
  refine ⟨?_, fun address => ?_, fun query hfirst hlast => ?_, fun contract data bytes hbytes => ?_⟩
  · have htold := Recorded.ask_head known
    rw [show known.state.head = r.head by rw [hsame]] at htold
    exact tracks_of_eq (head_of_serves hserves hreaches hstart hhead) htold hsame
  · have htold := Recorded.ask_code address known
    rw [show known.state.code = r.code by rw [hsame]] at htold
    exact tracks_of_eq (code_of_serves hserves hreaches hstart address) htold hsame
  · obtain ⟨known', htold, hsame'⟩ :=
      Recorded.ask_logs_of_calm (c := known) (by rw [hsame]; exact hcalm) query
    rw [show known.state.logs = r.logs by rw [hsame]] at htold
    exact tracks_of_eq (logs_of_serves hserves hreaches hstart hcalm hfirst hlast) htold
      (hsame.trans hsame')
  · have hcalls : known.state.answerCall contract data = r.answerCall contract data := by
      rw [hsame]; rfl
    have htold := Recorded.ask_call contract data known
    rw [htold] at hbytes
    dsimp only at hbytes
    rw [hbytes] at htold
    exact tracks_of_eq (call_of_serves hserves hreaches hstart (hcalls ▸ hbytes)) htold hsame

/-- An address that names a host by its number. -/
def loopback : Url where
  scheme := "http"
  host := some (.long [0, 0, 0, 0, 0, 0, 0, 1])
  socket := some 8545
  path := "/"

/-- That address is reached by requests. -/
theorem reaches_loopback : reaches 10000 "http://[::1]:8545" = true := by
  have hread : Url.parse "http://[::1]:8545" = .ok loopback := by cbv
  have huser : Target.withoutUser loopback = loopback := by cbv
  have hurl : loopback.toText = "http://[::1]:8545/" := by cbv
  have hhost : (Host.long [0, 0, 0, 0, 0, 0, 0, 1]).toText = "[::1]" := by cbv
  have hsendable : Target.isSendable loopback (.long [0, 0, 0, 0, 0, 0, 0, 1]) = true := by
    rw [Target.isSendable, hurl, hhost]
    decide
  have htarget : Target.parse "http://[::1]:8545" =
      .ok ⟨loopback, .long [0, 0, 0, 0, 0, 0, 0, 1]⟩ := by
    simp only [Target.parse, hread, Except.mapError, bind, Except.bind]
    rw [show loopback.host = some (.long [0, 0, 0, 0, 0, 0, 0, 1]) from rfl,
      show loopback.hasHost = true by decide]
    dsimp only
    rw [huser, hsendable]
    rfl
  rw [reaches, htarget]
  rfl

/-- Records of a token with one log, served at an address without any delay. -/
theorem ledger_tracks_records_at_loopback :
    let token := Address.repeating 0xaa
    let log : Log := ⟨["0xddf2"], "0x01", some 7⟩
    let r : Recorded :=
      { head := 19
        code := Table.empty.set token [0x60, 0x80]
        logs := [(token, log)]
        calls := Table.empty.set (token, [6, 253, 222, 3]) [] }
    let e : Endpoints := { primary := "http://[::1]:8545" }
    let asked := e.ledger Recorded.transport
    (Ledger.ask asked.head (Clocked.start r)).1 = .ok 19 ∧
      (Ledger.ask (asked.code token) (Clocked.start r)).1 = .ok [0x60, 0x80] ∧
      (Ledger.ask (asked.logs ⟨token, "0xDDF2", 0, 19⟩) (Clocked.start r)).1 = .ok [log] ∧
      (Ledger.ask (asked.call token [6, 253, 222, 3]) (Clocked.start r)).1 = .ok [] := by
  intro token log r e asked
  obtain ⟨htracks, -⟩ := ledger_tracks_records e Recorded.transport
    (serves_transport e.primary rfl (Nat.zero_le _)) reaches_loopback (r := r) rfl (by decide)
  obtain ⟨hhead, hcode, hlogs, hcall⟩ := htracks (Clocked.start r) (Clocked.start r) rfl rfl
  -- topics are compared without their letter case
  have hfind : Recorded.find r.logs ⟨token, "0xDDF2", 0, 19⟩ = [log] := by cbv
  refine ⟨hhead.eq_told, (hcode token).eq_told, ?_, (hcall _ _ [] rfl).eq_told⟩
  rw [(hlogs ⟨token, "0xDDF2", 0, 19⟩ (by decide) (by decide)).eq_told, ← hfind]
  exact Recorded.gives_logs_of_calm rfl _

end TokenAudit
