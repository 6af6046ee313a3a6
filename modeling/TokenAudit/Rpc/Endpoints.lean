import TokenAudit.Rpc.Backoff
import TokenAudit.Settings.Environment
import TokenAudit.Text.Search
import TokenAudit.Time.Span

/-! # Endpoints

A ledger is asked at one endpoint, and at a second one when the first fails. The address of an
endpoint may hold a key, which nobody is to see.

* `Endpoints` — where a ledger is asked, and with how much patience;
* `Endpoints.ofEnvironment` — the endpoints that the environment names;
* `maskUrl` — an address without its key;
* `Endpoints.budget?`, `Endpoints.deadline?` — how long one question can take, and how long to wait
  for it, if these are spans of time at all. -/

namespace TokenAudit

/-- Where a ledger is asked, and with how much patience. -/
structure Endpoints where
  /-- The address of the first endpoint. -/
  primary : String
  /-- The address of the second endpoint, if there is one. -/
  fallback : Option String := none
  /-- The time that one request may take. -/
  timeout : Nat := 10000
  /-- How many requests are made at one endpoint; none counts as one. -/
  retries : Nat := 4
  deriving DecidableEq, Repr

/-! ## Addresses -/

/-- The address of a mainnet endpoint that goes with a key. -/
def keyedUrl (key : String) : String := "https://eth-mainnet.g.alchemy.com/v2/" ++ key

/-- The marks after which an address holds a key, in the order in which they are looked for. -/
def keyMarks : List String := ["/v2/", "/v3/"]

/-- What stands in the place of a key. -/
def hiddenKey : String := "***HIDDEN***"

/-- What is left of an address when everything after the first place of a mark is hidden. -/
def maskAfter? (mark url : String) : Option String :=
  (Text.before? mark.toList url.toList).map fun cs => String.ofList cs ++ mark ++ hiddenKey

/-- An address whose key is hidden. -/
def maskUrl (url : String) : String := (keyMarks.findSome? fun mark => maskAfter? mark url).getD url

namespace Endpoints

/-- The addresses, the first endpoint first. -/
def urls (e : Endpoints) : List String := e.primary :: e.fallback.toList

/-- How many requests are made at one endpoint. -/
def attempts (e : Endpoints) : Nat := max 1 e.retries

/-- The address of the first endpoint as it may be shown. -/
def maskedUrl (e : Endpoints) : String := maskUrl e.primary

/-! ## The environment -/

/-- The address of the first endpoint: given itself, or by a key. -/
def primaryUrl (env : Environment) : Except Fault String :=
  match env.find? "ETH_RPC_URL" with
  | some url => .ok url
  | none =>
    match env.lookup "ALCHEMY_API_KEY" with
    | some key =>
      if key = "" ∨ key = "YOUR_API_KEY" then .error (.missingVariable "ETH_RPC_URL")
      else .ok (keyedUrl key)
    | none => .error (.missingVariable "ETH_RPC_URL")

/-- The endpoints that the environment names. -/
def ofEnvironment (env : Environment) : Except Fault Endpoints := do
  let primary ← primaryUrl env
  let seconds ← env.get "COMPLIANCE_CALL_TIMEOUT_SECS" (readNumber 64) 10
  let retries ← env.get "COMPLIANCE_RPC_RETRIES" (readNumber 32) 4
  return {
    primary
    fallback := env.find? "ETH_RPC_FALLBACK_URL"
    timeout := 1000 * seconds
    retries := max 1 retries }

/-! ## Patience -/

/-- What is allowed at each endpoint beyond the time of requests and pauses. -/
def slack : Nat := 500

/-- How long one question can take at one endpoint: every request takes all its time, and every
pause is as long as it can be. -/
def budgetAtOne (e : Endpoints) : Nat :=
  e.timeout * e.attempts + (Backoff.total (e.attempts - 1) + slack)

/-- How long one question can take. -/
def budget (e : Endpoints) : Nat := e.budgetAtOne * e.urls.length

/-- How long one question can take, reckoned in spans of time. -/
def budget? (e : Endpoints) : Except Span.Overflow Nat := do
  let requests ← Span.scale e.timeout e.attempts
  let atOne ← Span.add requests (Backoff.total (e.attempts - 1) + slack)
  Span.scale atOne e.urls.length

/-- How long to wait for an answer when the caller would wait for a given time. -/
def deadline (e : Endpoints) (requested : Nat) : Nat := max requested e.budget

/-- How long to wait for an answer, reckoned in spans of time. -/
def deadline? (e : Endpoints) (requested : Nat) : Except Span.Overflow Nat :=
  e.budget?.map (max requested)

end Endpoints

end TokenAudit
