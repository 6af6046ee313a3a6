import TokenAudit.Url.Reading

/-! # Where requests go

A request can be made only to an address that names a host, by one of the two schemes for requests,
and whose text is one that can stand in a request. The user that an address names is not part of
where a request goes.

* `Target` — where a request goes;
* `Target.parse` — the target in a text, or why there is none. -/

namespace TokenAudit

/-- Where a request goes. -/
structure Target where
  /-- The address, without a user. -/
  url : Url
  /-- The host that it names. -/
  host : Host
  deriving DecidableEq, Repr

namespace Target

/-- Why nothing can be sent to an address. -/
inductive Refusal
  /-- It is no address. -/
  | unreadable (flaw : Url.Flaw)
  /-- Its scheme is not for requests, or it names no host. -/
  | scheme (shown : String)
  /-- Its text cannot stand in a request. -/
  | text (shown : String)
  deriving DecidableEq, Repr

/-- The wording of a refusal. -/
def Refusal.message : Refusal → String
  | .unreadable flaw => "builder error: " ++ flaw.message
  | .scheme shown => "builder error for url (" ++ shown ++ "): URL scheme is not allowed"
  | .text shown => "builder error for url (" ++ shown ++ "): Parsed Url is not a valid Uri"

/-- An address without its user. A user or password whose bytes spell no text is left as it is. -/
def withoutUser (url : Url) : Url :=
  match Percent.decodeText? url.user, Percent.decodeText? url.password with
  | none, _ => url
  | some user, password =>
    if user = "" ∧ (password.isNone ∨ url.password = "") then url
    else { url with user := "", password := "" }

/-- The characters of hosts that cannot stand in a request. -/
def unsent : List Char := ['"', '\x60', '\x7b', '\x7d']

/-- The most bytes of an address in a request. -/
def maxBytes : Nat := 65534

/-- Whether the text of an address can stand in a request. -/
def isSendable (url : Url) (host : Host) : Bool :=
  !host.toText.toList.any unsent.contains && url.toText.utf8ByteSize ≤ maxBytes

/-- The target in a text. -/
def parse (text : String) : Except Refusal Target := do
  let url ← (Url.parse text).mapError .unreadable
  match url.host with
  | none => throw (.scheme url.toText)
  | some host =>
    if !url.hasHost then throw (.scheme url.toText)
    let url := withoutUser url
    if url.scheme ≠ "http" ∧ url.scheme ≠ "https" then throw (.scheme url.toText)
    if !isSendable url host then throw (.text url.toText)
    return ⟨url, host⟩

/-- Whether a target is to be spoken to in private. -/
def isSecure (target : Target) : Bool := target.url.scheme == "https"

/-- The number of the socket of a target. -/
def socket (target : Target) : Nat :=
  target.url.socket.getD ((Url.usualSockets.lookup target.url.scheme).getD 80)

/-- What is asked for at a target. -/
def resource (target : Target) : String :=
  target.url.path ++ (target.url.query.map ("?" ++ ·)).getD ""

end Target

end TokenAudit
