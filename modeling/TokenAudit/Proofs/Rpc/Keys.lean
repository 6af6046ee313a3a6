import Mathlib
import TokenAudit.Proofs.Rpc.Course
import TokenAudit.Proofs.Rpc.Target

/-! # Keys in addresses

Two runs of one question are held against each other: the endpoints of the one differ from those of
the other in nothing but the keys in their addresses, and both are replied to alike. Step by step
the runs stay side by side, and what they end with can differ only in an address that a fault shows.
Faults do show addresses: when an address is refused, and when a request breaks off once it is
connected.

* `Fault.AlikeBut`, `AlikeBut` — faults and results that differ at most in what they show;
* `SideBySide` — two actions that stay side by side, kept by `sideBySide_persist` and
  `sideBySide_failover`;
* `RepliesAlike` and `Matched` — two addresses that are replied to alike, and requests to them;
* `Endpoints.KeysApart` — endpoints that differ in nothing but keys;
* `ask_of_refused` — a refusal is all that comes of an address that is none for requests.

Main statement: `ask_with_other_keys`. -/

namespace TokenAudit

open Json (Decoder)

variable {σ σ' τ τ' α : Type}

/-! ## Faults that show an address -/

/-- Faults that are the same, but that each may show an address of its own; `shown` holds of what is
shown in the one and in the other. -/
inductive Fault.AlikeBut (shown : String → String → Prop) : Fault → Fault → Prop
  | same (fault : Fault) : AlikeBut shown fault fault
  | showing {a b : String} (h : shown a b) (code : Fault.Code) (before after : String) :
    AlikeBut shown ⟨code, before ++ a ++ after⟩ ⟨code, before ++ b ++ after⟩

namespace Fault.AlikeBut

variable {shown : String → String → Prop} {f g : Fault}

/-- Faults that differ in what they show have the same code. -/
theorem code_eq (h : AlikeBut shown f g) : f.code = g.code := by
  cases h <;> rfl

/-- They are worth another request alike. -/
theorem isRetryable_eq (h : AlikeBut shown f g) : f.isRetryable = g.isRetryable :=
  congrArg Code.isRetryable h.code_eq

/-- They let another endpoint be asked alike. -/
theorem movesOn_eq (h : AlikeBut shown f g) : f.movesOn = g.movesOn := by
  rw [movesOn, movesOn, h.isRetryable_eq, h.code_eq]

/-- Where nothing is shown, faults are the same. -/
theorem eq_of_none (h : AlikeBut shown f g) (hnone : ∀ a b, ¬ shown a b) : f = g := by
  cases h with
  | same => rfl
  | showing h => exact absurd h (hnone _ _)

/-- The fault of both endpoints together shows what the last one shows. -/
theorem allFailed (h : AlikeBut shown f g) (method : String) :
    AlikeBut shown (allFailed method f) (TokenAudit.allFailed method g) := by
  cases h with
  | same => exact .same _
  | @showing a b h code before after =>
    have hshow : ∀ shown : String,
        TokenAudit.allFailed method ⟨code, before ++ shown ++ after⟩ =
          ⟨.noEndpoints, "All RPC endpoints failed for " ++ method ++ ": " ++
            ("[" ++ code.name ++ "] ") ++ before ++ shown ++ after⟩ := fun shown => by
      simp only [TokenAudit.allFailed, display, String.append_assoc]
    rw [hshow, hshow]
    exact .showing h _ _ _

end Fault.AlikeBut

/-- Results that are the same, but for an address that a fault may show. -/
inductive AlikeBut (shown : String → String → Prop) : Except Fault α → Except Fault α → Prop
  | ok (a : α) : AlikeBut shown (.ok a) (.ok a)
  | error {f g : Fault} (h : f.AlikeBut shown g) : AlikeBut shown (.error f) (.error g)

namespace AlikeBut

variable {shown : String → String → Prop} {one two : Except Fault α}

/-- A result is the same as itself. -/
theorem refl (result : Except Fault α) : AlikeBut shown result result := by
  cases result with
  | ok a => exact .ok a
  | error fault => exact .error (.same fault)

/-- Where nothing is shown, results are the same. -/
theorem eq_of_none (h : AlikeBut shown one two) (hnone : ∀ a b, ¬ shown a b) : one = two := by
  cases h with
  | ok => rfl
  | error h => rw [h.eq_of_none hnone]

end AlikeBut

/-! ## Two runs -/

/-- Two actions go side by side: from states that belong together they come to results that are the
same but for what is shown, and to states that belong together. -/
def SideBySide (R : σ → σ' → Prop) (shown : String → String → Prop) (one : Action σ α)
    (two : Action σ' α) : Prop :=
  ∀ s s', R s s' → AlikeBut shown (one s).1 (two s').1 ∧ R (one s).2 (two s').2

section

variable {R : σ → σ' → Prop} {shown : String → String → Prop}

/-- Requests to one endpoint stay side by side if each of them does: faults of one code are tried
again alike. -/
theorem sideBySide_persist {one : Nat → Action σ α} {two : Nat → Action σ' α}
    (h : ∀ failures, SideBySide R shown (one failures) (two failures)) (idle : Fault)
    (more failures : Nat) {last last' : Option Fault}
    (hlast : Option.Rel (Fault.AlikeBut shown) last last') :
    SideBySide R shown (persist one idle more failures last)
      (persist two idle more failures last') := by
  -- on the requests left, with the last faults, which are alike but for what is shown
  induction more generalizing failures last last' with
  | zero =>
    intro s s' hs
    rw [persist_zero, persist_zero]
    refine ⟨.error ?_, hs⟩
    cases hlast with
    | none => exact .same idle
    | some hfault => exact hfault
  | succ more ih =>
    intro s s' hs
    obtain ⟨hresult, hstate⟩ := h failures s s' hs
    rcases hone : one failures s with ⟨result, t⟩
    rcases htwo : two failures s' with ⟨result', t'⟩
    rw [hone, htwo] at hresult hstate
    dsimp only at hresult hstate
    cases hresult with
    | ok a =>
      rw [persist_of_settled hone nofun, persist_of_settled htwo nofun]
      exact ⟨.ok a, hstate⟩
    | @error f g hfault =>
      by_cases hretry : f.isRetryable = true
      · rw [persist_of_retryable hone hretry,
          persist_of_retryable htwo (hfault.isRetryable_eq ▸ hretry)]
        exact ih (failures + 1) (.some hfault) t t' hstate
      · have hsettled : f.isRetryable = false := Bool.eq_false_iff.2 hretry
        rw [persist_of_settled hone (by rintro _ ⟨⟩; exact hsettled),
          persist_of_settled htwo (by rintro _ ⟨⟩; exact hfault.isRetryable_eq ▸ hsettled)]
        exact ⟨.error hfault, hstate⟩

/-- The second endpoint is asked on both sides or on neither. -/
theorem sideBySide_failover (method : String) {one : Action σ α} {two : Action σ' α}
    (hprimary : SideBySide R shown one two) {second : Option (Action σ α)}
    {second' : Option (Action σ' α)} (hsecond : Option.Rel (SideBySide R shown) second second') :
    SideBySide R shown (failover method one second) (failover method two second') := by
  intro s s' hs
  obtain ⟨hresult, hstate⟩ := hprimary s s' hs
  rcases hone : one s with ⟨result, t⟩
  rcases htwo : two s' with ⟨result', t'⟩
  rw [hone, htwo] at hresult hstate
  dsimp only at hresult hstate
  cases hsecond with
  | none =>
    rw [failover_of_verdict hone method (Or.inl rfl), failover_of_verdict htwo method (Or.inl rfl)]
    exact ⟨hresult, hstate⟩
  | @some again again' hagain =>
    cases hresult with
    | ok a =>
      rw [failover_of_verdict hone method (Or.inr nofun),
        failover_of_verdict htwo method (Or.inr nofun)]
      exact ⟨.ok a, hstate⟩
    | @error f g hfault =>
      by_cases hmoves : f.movesOn = true
      · obtain ⟨hresult, hstate⟩ := hagain t t' hstate
        rcases hthree : again t with ⟨verdict, u⟩
        rcases hfour : again' t' with ⟨verdict', u'⟩
        rw [hthree, hfour] at hresult hstate
        dsimp only at hresult hstate
        rw [failover_of_movesOn hone hmoves hthree method,
          failover_of_movesOn htwo (hfault.movesOn_eq ▸ hmoves) hfour method]
        refine ⟨?_, hstate⟩
        cases hresult with
        | ok a => exact .ok a
        | error hlast => exact .error (hlast.allFailed method)
      · -- the fault of the first endpoint stands as it is, with the address that it may show
        have hstays : f.movesOn = false := Bool.eq_false_iff.2 hmoves
        rw [failover_of_verdict hone method (Or.inr (by rintro _ ⟨⟩; exact hstays)),
          failover_of_verdict htwo method
            (Or.inr (by rintro _ ⟨⟩; exact hfault.movesOn_eq ▸ hstays))]
        exact ⟨.error hfault, hstate⟩

end

/-! ## Two addresses -/

/-- At two addresses two networks give the same replies one after the other, whenever they are
asked: so much is kept by all that is sent and drawn. -/
structure RepliesAlike (R : τ → τ' → Prop) (net : Transport τ) (net' : Transport τ')
    (one two : String) : Prop where
  post : ∀ {s s'}, R s s' → ∀ said now now',
    (net.post one said now s).1 = (net'.post two said now' s').1 ∧
      R (net.post one said now s).2 (net'.post two said now' s').2
  draw : ∀ {s s'}, R s s' → R (net.draw s).2 (net'.draw s').2

/-- Requests to two addresses that are replied to alike end alike, and none is sent but to both. -/
structure Matched (R : τ → τ' → Prop) (shown : String → String → Prop) (net : Transport τ)
    (net' : Transport τ') (limit : Nat) (result : Decoder α) (one two : String) :
    Prop extends RepliesAlike R net net' one two where
  reaches : reaches limit one = reaches limit two
  outcome : ∀ {s s'}, R s s' → ∀ said now,
    AlikeBut shown ((net.post one said now s).1.outcome limit result one)
      ((net.post one said now s).1.outcome limit result two)

section

variable {R : τ → τ' → Prop} {shown : String → String → Prop} {net : Transport τ}
  {net' : Transport τ'}
variable {limit : Nat} {result : Decoder α} {one two : String}

/-- One request to each of two addresses that are replied to alike. -/
theorem Matched.sideBySide_request (h : Matched R shown net net' limit result one two)
    (said : Json) :
    SideBySide (fun c c' => R c.state c'.state) shown (request net limit result said one)
      (request net' limit result said two) := by
  intro c c' hc
  obtain ⟨hresult, hstate, -⟩ := request_spec net limit result said one c
  obtain ⟨hresult', hstate', -⟩ := request_spec net' limit result said two c'
  obtain ⟨hreply, hposted⟩ := h.post hc said c.now c'.now
  constructor
  · rw [hresult, hresult', ← hreply]
    exact h.outcome hc said c.now
  · show R _ _
    rw [hstate, hstate', ← h.reaches]
    split
    · exact hposted
    · exact hc

/-- The pauses before such requests stay side by side, too. -/
theorem Matched.sideBySide_requestAfter (h : Matched R shown net net' limit result one two)
    (said : Json) (failures : Nat) :
    SideBySide (fun c c' => R c.state c'.state) shown
      (requestAfter (backOff net) (request net limit result said one) failures)
      (requestAfter (backOff net') (request net' limit result said two) failures) := by
  intro c c' hc
  cases failures with
  | zero => exact h.sideBySide_request said c c' hc
  | succ failures =>
    -- the pause may be of another length, and takes a number of chance from both
    rw [requestAfter_succ (backOff_eq net _ c), requestAfter_succ (backOff_eq net' _ c')]
    exact h.sideBySide_request said _ _ (h.draw hc)

end

/-- The same reply ends requests to two targets alike. -/
theorem Reply.outcome_alike {one two : String}
    (h : Target.Alike one two (Target.parse one) (Target.parse two))
    {shown : String → String → Prop}
    (hshown : ∀ a b, Target.Shows one a → Target.Shows two b → shown a b) (limit : Nat)
    (result : Decoder α) (reply : Reply) :
    AlikeBut shown (reply.outcome limit result one) (reply.outcome limit result two) := by
  unfold outcome
  generalize Target.parse one = first at h
  generalize Target.parse two = second at h
  -- addresses are shown when they are refused and when a connection breaks
  cases h with
  | unreadable flaw => exact .refl _
  | scheme ha hb => exact .error (.showing (hshown _ _ ha hb) _ _ _)
  | text ha hb => exact .error (.showing (hshown _ _ ha hb) _ _ _)
  | @target s t hs ht =>
    cases reply with
    | never => exact .refl _
    | after delay exchange =>
      dsimp only
      split
      · cases exchange with
        | answered status body => exact .refl _
        | unreachable => exact .refl _
        | broken reason =>
          have hshow : ∀ address : String, (Exchange.broken reason).document address =
              .error ⟨.rpcError,
                "error sending request for url (" ++ address ++ ("): " ++ reason)⟩ :=
            fun address => by rw [Exchange.document, ← String.append_assoc]
          rw [hshow, hshow]
          exact .error (.showing (hshown _ _ hs ht) _ _ _)
      · exact .refl _

/-- A reply that is no broken exchange ends requests to two targets in the same way. -/
theorem Reply.outcome_eq {one two : String} (hone : (Target.parse one).toBool = true)
    (htwo : (Target.parse two).toBool = true) {reply : Reply}
    (h : ∀ delay reason, reply ≠ .after delay (.broken reason)) (limit : Nat) (result : Decoder α) :
    reply.outcome limit result one = reply.outcome limit result two := by
  unfold outcome
  cases hs : Target.parse one with
  | error refusal => rw [hs] at hone; cases hone
  | ok s =>
    cases ht : Target.parse two with
    | error refusal => rw [ht] at htwo; cases htwo
    | ok t =>
      cases reply with
      | never => rfl
      | after delay exchange =>
        cases exchange with
        | answered status body => rfl
        | unreachable => rfl
        | broken reason => exact absurd rfl (h delay reason)

/-! ## Endpoints with keys -/

/-- Two addresses that differ in nothing but what stands behind the mark of a key. -/
def KeyApart (one two : String) : Prop :=
  one = two ∨ ∃ start key other, one = start ++ "/v2/" ++ key ∧ two = start ++ "/v2/" ++ other

/-- Addresses that differ in nothing but a key lead to the same place, or are unreadable for one
reason. -/
theorem KeyApart.site_eq {one two : String} (h : KeyApart one two) :
    (Url.parse one).map Url.site = (Url.parse two).map Url.site := by
  rcases h with rfl | ⟨start, key, other, rfl, rfl⟩
  · rfl
  · exact Url.site_parse start key other

namespace Endpoints

/-- Something holds of the addresses of two endpoints and of those where they are asked in the
second place. -/
def Pairs (P : String → String → Prop) (e e' : Endpoints) : Prop :=
  P e.primary e'.primary ∧ Option.Rel P e.fallback e'.fallback

/-- What follows for each pair of addresses holds of all pairs. -/
theorem Pairs.map {P Q S : String → String → Prop} {e e' : Endpoints} (hP : Pairs P e e')
    (hQ : Pairs Q e e') (h : ∀ one ∈ e.urls, ∀ two ∈ e'.urls, P one two → Q one two → S one two) :
    Pairs S e e' := by
  obtain ⟨hprimary, hfallback⟩ := hP
  obtain ⟨hprimary', hfallback'⟩ := hQ
  refine ⟨h _ List.mem_cons_self _ List.mem_cons_self hprimary hprimary', ?_⟩
  unfold urls at h
  cases hone : e.fallback <;> cases htwo : e'.fallback <;>
    rw [hone, htwo] at hfallback hfallback' h <;> cases hfallback
  · exact .none
  · rename_i hP
    cases hfallback' with
    | some hQ => exact .some (h _ (by simp) _ (by simp) hP hQ)

/-- Whether a text is how one of the addresses is shown. -/
def Shows (e : Endpoints) (shown : String) : Prop := ∃ url ∈ e.urls, Target.Shows url shown

/-- Endpoints that differ in nothing but the keys in their addresses. -/
structure KeysApart (e e' : Endpoints) : Prop where
  urls : Pairs KeyApart e e'
  timeout : e.timeout = e'.timeout
  retries : e.retries = e'.retries

variable {R : τ → τ' → Prop} {shown : String → String → Prop} {net : Transport τ}
  {net' : Transport τ'}

/-- Questions to two addresses that are replied to alike stay side by side. -/
theorem sideBySide_askAt {e e' : Endpoints} (hkeys : e.KeysApart e') {result : Decoder α}
    {one two : String} (h : Matched R shown net net' e.timeout result one two) (said : Json) :
    SideBySide (fun c c' => R c.state c'.state) shown (e.askAt net result said one)
      (e'.askAt net' result said two) := by
  have hattempts : e'.attempts = e.attempts := by rw [attempts, attempts, hkeys.retries]
  unfold askAt
  rw [hattempts, ← hkeys.timeout]
  exact sideBySide_persist (h.sideBySide_requestAfter said) _ _ 0 .none

/-- Questions to endpoints that are replied to alike stay side by side. -/
theorem sideBySide_ask {e e' : Endpoints} (hkeys : e.KeysApart e') {result : Decoder α}
    (h : Pairs (Matched R shown net net' e.timeout result) e e') (method : String) (params : Json) :
    SideBySide (fun c c' => R c.state c'.state) shown (e.ask net result method params)
      (e'.ask net' result method params) := by
  obtain ⟨hprimary, hfallback⟩ := h
  unfold ask
  refine sideBySide_failover method (sideBySide_askAt hkeys hprimary _) ?_
  cases hone : e.fallback <;> cases htwo : e'.fallback <;>
    rw [hone, htwo] at hfallback <;> cases hfallback
  · exact .none
  · rename_i hsecond
    exact .some (sideBySide_askAt hkeys hsecond _)

end Endpoints

/-- **A question to endpoints with other keys.** Let two endpoints differ in nothing but the keys in
their addresses, and let both be replied to alike. Then a question to the one ends like the same
question to the other: with the same result, or with faults of the same code, whose messages differ
at most in an address that they show. They do not differ at all if requests can be made to all
addresses and none breaks off once it is connected. -/
theorem ask_with_other_keys {e e' : Endpoints} (hkeys : e.KeysApart e')
    (hshort : ∀ url ∈ e.urls ++ e'.urls, Target.IsShort url) {net : Transport τ}
    {net' : Transport τ'} {R : τ → τ' → Prop}
    (hscript : Endpoints.Pairs (RepliesAlike R net net') e e') (result : Decoder α)
    (method : String) (params : Json) (c : Clocked τ) (c' : Clocked τ') (hc : R c.state c'.state) :
    let one := e.ask net result method params c
    let two := e'.ask net' result method params c'
    R one.2.state two.2.state ∧
    AlikeBut (fun a b => e.Shows a ∧ e'.Shows b) one.1 two.1 ∧
    ((∀ url ∈ e.urls, (Target.parse url).toBool = true) →
      (∀ s s', R s s' → ∀ url ∈ e.urls, ∀ said now delay reason,
        (net.post url said now s).1 ≠ .after delay (.broken reason)) →
      one.1 = two.1) := by
  intro one two
  have htargets : ∀ url ∈ e.urls, ∀ url' ∈ e'.urls, KeyApart url url' →
      Target.Alike url url' (Target.parse url) (Target.parse url') :=
    fun url hurl url' hurl' hapart =>
      Target.parse_alike hapart.site_eq (hshort url (List.mem_append_left _ hurl))
        (hshort url' (List.mem_append_right _ hurl'))
  have hreaches : ∀ url url', Target.Alike url url' (Target.parse url) (Target.parse url') →
      reaches e.timeout url = reaches e.timeout url' := fun url url' halike => by
    rw [reaches, reaches, halike.toBool_eq]
  -- what a run shows is one of its addresses
  have hshown : Endpoints.Pairs
      (Matched R (fun a b => e.Shows a ∧ e'.Shows b) net net' e.timeout result) e e' :=
    hkeys.urls.map hscript fun url hurl url' hurl' hapart halike => by
      have htarget := htargets url hurl url' hurl' hapart
      refine ⟨halike, hreaches url url' htarget, fun _ said now => ?_⟩
      exact Reply.outcome_alike htarget
        (fun a b ha hb => ⟨⟨url, hurl, ha⟩, ⟨url', hurl', hb⟩⟩) _ _ _
  obtain ⟨hresult, hstate⟩ := Endpoints.sideBySide_ask hkeys hshown method params c c' hc
  refine ⟨hstate, hresult, fun hsent hunbroken => ?_⟩
  -- and without a refusal and without a broken exchange a run shows nothing
  have hnothing : Endpoints.Pairs (Matched R (fun _ _ => False) net net' e.timeout result) e e' :=
    hkeys.urls.map hscript fun url hurl url' hurl' hapart halike => by
      have htarget := htargets url hurl url' hurl' hapart
      refine ⟨halike, hreaches url url' htarget, fun hs said now => ?_⟩
      rw [Reply.outcome_eq (hsent url hurl) (htarget.toBool_eq ▸ hsent url hurl)
        (hunbroken _ _ hs url hurl said now)]
      exact .refl _
  exact (Endpoints.sideBySide_ask hkeys hnothing method params c c' hc).1.eq_of_none fun _ _ => id

/-- An address of a host that goes by its number, with a key. -/
def keyedLoopback (scheme key : String) : Url where
  scheme
  host := some (.long [0, 0, 0, 0, 0, 0, 0, 1])
  path := "/v2/" ++ key

/-- How such an address is written. -/
theorem toText_keyedLoopback (scheme key : String) :
    (Target.withoutUser (keyedLoopback scheme key)).toText =
      scheme ++ "://[::1]" ++ ("/v2/" ++ key) := by
  have huser : Percent.decodeText? "" = some "" := by cbv
  have hwithout : Target.withoutUser (keyedLoopback scheme key) = keyedLoopback scheme key := by
    simp [Target.withoutUser, keyedLoopback, huser]
  have hhost : (Host.long [0, 0, 0, 0, 0, 0, 0, 1]).toText = "[::1]" := by cbv
  rw [hwithout]
  simp [Url.toText, Url.placeText, Url.userText, keyedLoopback, hhost, String.append_assoc]

/-- A request can be made to such an address if its scheme is for requests and its key is not too
long. -/
theorem isTarget_keyedLoopback {address key : String}
    (h : Url.parse address = .ok (keyedLoopback "http" key))
    (hsize : ("http" ++ "://[::1]" ++ ("/v2/" ++ key)).utf8ByteSize ≤ Target.maxBytes) :
    Target.IsShort address ∧ (Target.parse address).toBool = true := by
  have hhost : (Host.long [0, 0, 0, 0, 0, 0, 0, 1]).toText = "[::1]" := by cbv
  have hclean : (!"[::1]".toList.any Target.unsent.contains) = true := by decide
  constructor
  · intro url hurl
    rw [h] at hurl
    cases hurl
    rw [toText_keyedLoopback]
    exact hsize
  · have hscheme : ¬ ((keyedLoopback "http" key).scheme ≠ "http" ∧
        (keyedLoopback "http" key).scheme ≠ "https") :=
      fun h => h.1 rfl
    have hsendable : Target.isSendable (Target.withoutUser (keyedLoopback "http" key))
        (.long [0, 0, 0, 0, 0, 0, 0, 1]) = true := by
      rw [Target.isSendable, toText_keyedLoopback, hhost, hclean, decide_eq_true hsize]
      rfl
    rw [Target.parse_of_host h rfl rfl, if_neg hscheme, hsendable]
    rfl

/-- Two endpoints that do not let anybody in, asked with two keys and with the same keys the other
way round. -/
theorem ask_with_keys_swapped :
    let net : Transport Unit :=
      ⟨fun _ _ _ s => (.after 5 (.answered 401 (.ofJson .null)), s), fun s => (0, s)⟩
    let e : Endpoints := { primary := "http://[::1]/v2/a", fallback := some "http://[::1]/v2/b" }
    let e' : Endpoints := { primary := "http://[::1]/v2/b", fallback := some "http://[::1]/v2/a" }
    (e.ask net Decoder.str "eth_blockNumber" (.arr []) (Clocked.start ())).1 =
      (e'.ask net Decoder.str "eth_blockNumber" (.arr []) (Clocked.start ())).1 := by
  intro net e e'
  have ha : Url.parse "http://[::1]/v2/a" = .ok (keyedLoopback "http" "a") := by cbv
  have hb : Url.parse "http://[::1]/v2/b" = .ok (keyedLoopback "http" "b") := by cbv
  obtain ⟨hshort, htarget⟩ := isTarget_keyedLoopback ha (by decide)
  obtain ⟨hshort', htarget'⟩ := isTarget_keyedLoopback hb (by decide)
  have hkeys : e.KeysApart e' :=
    ⟨⟨Or.inr ⟨"http://[::1]", "a", "b", rfl, rfl⟩,
      .some (Or.inr ⟨"http://[::1]", "b", "a", rfl, rfl⟩)⟩, rfl, rfl⟩
  have hall : ∀ url ∈ e.urls ++ e'.urls, Target.IsShort url ∧ (Target.parse url).toBool = true := by
    have hurls : e.urls ++ e'.urls =
        ["http://[::1]/v2/a", "http://[::1]/v2/b", "http://[::1]/v2/b", "http://[::1]/v2/a"] := rfl
    rw [hurls]
    simp [hshort, htarget, hshort', htarget']
  have hreplies : ∀ one two, RepliesAlike (fun _ _ => True) net net one two := fun one two =>
    ⟨fun _ _ _ _ => ⟨rfl, trivial⟩, fun _ => trivial⟩
  obtain ⟨-, -, hsame⟩ := ask_with_other_keys hkeys (fun url hurl => (hall url hurl).1)
    ⟨hreplies _ _, .some (hreplies _ _)⟩ Decoder.str "eth_blockNumber" (.arr []) (Clocked.start ())
    (Clocked.start ()) trivial
  -- no connection breaks here, so no address is shown
  refine hsame (fun url hurl => (hall url (List.mem_append_left _ hurl)).2) ?_
  intro _ _ _ _ _ _ _ _ _ hbroken
  cases hbroken

/-- Where no request can be made to the only address, a question ends with the refusal, and the
refusal shows the address. -/
theorem ask_of_refused {e : Endpoints} {refusal : Target.Refusal}
    (h : Target.parse e.primary = .error refusal) (hfallback : e.fallback = none)
    (net : Transport τ) (result : Decoder α) (method : String) (params : Json) (c : Clocked τ) :
    e.ask net result method params c = (.error ⟨.rpcError, refusal.message⟩, c) := by
  have hrequest : request net e.timeout result (payload method params) e.primary c =
      (.error ⟨.rpcError, refusal.message⟩, c) := by
    rw [request, h]
  have hattempts : e.attempts ≠ 0 := by unfold Endpoints.attempts; omega
  obtain ⟨more, hmore⟩ := Nat.exists_eq_succ_of_ne_zero hattempts
  have hpersist : e.askAt net result (payload method params) e.primary c =
      (.error ⟨.rpcError, refusal.message⟩, c) := by
    rw [Endpoints.askAt, hmore]
    exact persist_of_settled hrequest (by rintro _ ⟨⟩; rfl) _ _ _
  exact failover_of_verdict hpersist method (Or.inl (by rw [hfallback]; rfl))

/-- An address of a scheme that is not for requests is shown with its key. -/
theorem ask_shows_key :
    let net : Transport Unit := ⟨fun _ _ _ s => (.never, s), fun s => (0, s)⟩
    let e : Endpoints := { primary := "ftp://[::1]/v2/a" }
    let e' : Endpoints := { primary := "ftp://[::1]/v2/b" }
    e.KeysApart e' ∧
      (e.ask net Decoder.str "eth_blockNumber" (.arr []) (Clocked.start ())).1 =
        .error ⟨.rpcError, "builder error for url (ftp://[::1]/v2/a): URL scheme is not allowed"⟩ ∧
      (e'.ask net Decoder.str "eth_blockNumber" (.arr []) (Clocked.start ())).1 =
        .error ⟨.rpcError,
          "builder error for url (ftp://[::1]/v2/b): URL scheme is not allowed"⟩ := by
  intro net e e'
  have ha : Url.parse "ftp://[::1]/v2/a" = .ok (keyedLoopback "ftp" "a") := by cbv
  have hb : Url.parse "ftp://[::1]/v2/b" = .ok (keyedLoopback "ftp" "b") := by cbv
  -- the scheme is refused before anything is sent, with the whole address
  have hrefused : Target.parse "ftp://[::1]/v2/a" = .error (.scheme "ftp://[::1]/v2/a") := by
    rw [Target.parse_of_host ha rfl rfl, if_pos (by decide), toText_keyedLoopback]
    rfl
  have hrefused' : Target.parse "ftp://[::1]/v2/b" = .error (.scheme "ftp://[::1]/v2/b") := by
    rw [Target.parse_of_host hb rfl rfl, if_pos (by decide), toText_keyedLoopback]
    rfl
  refine ⟨⟨⟨Or.inr ⟨"ftp://[::1]", "a", "b", rfl, rfl⟩, .none⟩, rfl, rfl⟩, ?_, ?_⟩
  · exact congrArg Prod.fst (ask_of_refused (e := e) hrefused rfl net _ _ _ _)
  · exact congrArg Prod.fst (ask_of_refused (e := e') hrefused' rfl net _ _ _ _)

end TokenAudit
