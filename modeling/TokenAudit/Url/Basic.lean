import TokenAudit.Url.Host

/-! # Addresses of things

An address has a scheme, possibly a host with a user and a socket, a path, a question, and a mark
inside of what is found. Some schemes are well-known: they have a host always, and a usual socket.

* `Url` — an address, its parts already written as they have to be;
* `Url.toText` — its text. -/

namespace TokenAudit

/-- An address. -/
structure Url where
  /-- The scheme. -/
  scheme : String
  /-- The name of a user, or nothing. -/
  user : String := ""
  /-- The password of the user, or nothing. -/
  password : String := ""
  /-- The host, if the address has a place for one. -/
  host : Option Host := none
  /-- The socket at the host, if it is not the usual one. -/
  socket : Option Nat := none
  /-- The path with its slashes, or all that follows the scheme. -/
  path : String
  /-- The question, if there is one. -/
  query : Option String := none
  /-- The mark, if there is one. -/
  fragment : Option String := none
  deriving DecidableEq, Repr

namespace Url

/-- The scheme of files, whose host need not be named. -/
def fileScheme : String := "file"

/-- The usual sockets of the other well-known schemes. -/
def usualSockets : List (String × Nat) :=
  [("http", 80), ("https", 443), ("ws", 80), ("wss", 443), ("ftp", 21)]

/-- Whether a scheme is well-known. -/
def isSpecial (scheme : String) : Bool :=
  scheme == fileScheme || (usualSockets.lookup scheme).isSome

/-- Whether an address names a host. -/
def hasHost (url : Url) : Bool := url.host.any (· ≠ .name "")

/-- The user and the password before a host. -/
def userText (url : Url) : String :=
  let password := if url.password = "" then "" else ":" ++ url.password
  if url.user = "" ∧ url.password = "" then "" else url.user ++ password ++ "@"

/-- The host with what belongs to it. Where there is no place for one, a path must not look like
one. -/
def placeText (url : Url) : String :=
  match url.host with
  | some host =>
    "//" ++ url.userText ++ host.toText ++
      (url.socket.map fun n => ":" ++ Numeral.decimal n).getD ""
  | none => if url.path.startsWith "//" then "/." else ""

/-- The text of an address. -/
def toText (url : Url) : String :=
  url.scheme ++ ":" ++ url.placeText ++ url.path ++ (url.query.map ("?" ++ ·)).getD "" ++
    (url.fragment.map ("#" ++ ·)).getD ""

end Url

end TokenAudit
