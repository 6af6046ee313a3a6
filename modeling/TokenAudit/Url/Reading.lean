import TokenAudit.Url.Basic

/-! # Reading addresses

An address is read from left to right: scheme, user, host, socket, path, question and mark. Much is
forgiven: letters of either case, slashes that lean the other way, characters that have to be
written otherwise.

* `Url.Flaw` — why a text is no address;
* `Url.settle` — the segments of a path, steps up and steps to the same place being taken;
* `Url.parse` — the address in a text. -/

namespace TokenAudit.Url

/-- Why a text is no address. -/
inductive Flaw
  /-- It has no scheme. -/
  | relative
  /-- It names no host where there has to be one. -/
  | emptyHost
  /-- What it names for a host is none. -/
  | host (flaw : Host.Flaw)
  /-- What it names for a socket is no number of sixteen bits. -/
  | badSocket
  deriving DecidableEq, Repr

/-- The wording of a flaw. -/
def Flaw.message : Flaw → String
  | .relative => "relative URL without a base"
  | .emptyHost | .host .empty => "empty host"
  | .host .badName => "invalid international domain name"
  | .host .badShort => "invalid IPv4 address"
  | .host .badLong => "invalid IPv6 address"
  | .host .badCharacter => "invalid domain character"
  | .badSocket => "invalid port number"

/-! ## Scheme -/

/-- An address without what is passed over in it: control characters and blanks at its ends, tabs
and line ends anywhere. -/
def tidy (cs : List Char) : List Char :=
  let ends (c : Char) : Bool := c.toNat ≤ 0x20
  let inner := ((cs.dropWhile ends).reverse.dropWhile ends).reverse
  inner.filter fun c => !(c == '\t' || c == '\n' || c == '\r')

/-- Whether a character can stand in a scheme after its first letter. -/
def isSchemeChar (c : Char) : Bool := c.isAlpha || c.isDigit || c == '+' || c == '-' || c == '.'

/-- The scheme of an address and what follows its colon. -/
def scheme? (cs : List Char) : Option (String × List Char) :=
  match cs.head?.any Char.isAlpha, cs.dropWhile isSchemeChar with
  | true, ':' :: rest => some (String.ofList ((cs.takeWhile isSchemeChar).map Char.toLower), rest)
  | _, _ => none

/-! ## Question and mark -/

/-- Whether a character ends a path. -/
def endsPath (c : Char) : Bool := c == '?' || c == '#'

/-- Reads the mark behind a number sign. -/
def withFragment (url : Url) (cs : List Char) : Url :=
  match cs with
  | '#' :: rest =>
    { url with fragment := some (String.ofList (Percent.encode Percent.fragment rest)) }
  | _ => url

/-- Reads the question, and the mark. -/
def withQuery (url : Url) (cs : List Char) : Url :=
  match cs with
  | '?' :: rest =>
    let escapes := if isSpecial url.scheme then Percent.specialQuery else Percent.query
    let query := String.ofList (Percent.encode escapes (rest.takeWhile (· ≠ '#')))
    withFragment { url with query := some query } (rest.dropWhile (· ≠ '#'))
  | _ => withFragment url cs

/-! ## Paths -/

/-- A text cut at the characters of a class. -/
def cut (isEnd : Char → Bool) : List Char → List (List Char)
  | [] => [[]]
  | c :: rest =>
    if isEnd c then [] :: cut isEnd rest
    else
      match cut isEnd rest with
      | piece :: pieces => (c :: piece) :: pieces
      | [] => [[c]]

/-- A segment with its escaped dots as dots. -/
def withDots : List Char → List Char
  | '%' :: '2' :: 'e' :: rest | '%' :: '2' :: 'E' :: rest => '.' :: withDots rest
  | c :: rest => c :: withDots rest
  | [] => []

/-- Whether a segment is a step up. -/
def isUp (segment : List Char) : Bool := withDots segment == ['.', '.']

/-- Whether a segment is a step to the same place. -/
def isHere (segment : List Char) : Bool := withDots segment == ['.']

/-- Takes the steps in a path. `taken` are the segments so far, the last one first; a step up takes
one away as `up` says. After a step at its end a path ends with a slash. -/
def settle (up : List (List Char) → List (List Char)) (taken : List (List Char)) :
    List (List Char) → List (List Char)
  | [] => taken.reverse
  | [last] =>
    if isUp last then ([] :: up taken).reverse
    else if isHere last then ([] :: taken).reverse
    else (last :: taken).reverse
  | segment :: rest =>
    if isUp segment then settle up (up taken) rest
    else if isHere segment then settle up taken rest
    else settle up (segment :: taken) rest

/-- Segments behind slashes. -/
def pathText (segments : List (List Char)) : String :=
  String.join (segments.map fun segment => "/" ++ String.ofList segment)

/-- The segments of a path as they are written, steps still to be taken. -/
def segments (isSpecial : Bool) (cs : List Char) : List (List Char) :=
  (cut (fun c => c == '/' || (isSpecial && c == '\\')) cs).map (Percent.encode Percent.path)

/-- Reads the path of an address behind its first slash, and all that follows. -/
def withPath (url : Url) (cs : List Char) : Url :=
  let path := segments (isSpecial url.scheme) (cs.takeWhile fun c => !endsPath c)
  withQuery { url with path := pathText (settle List.tail [] path) }
    (cs.dropWhile fun c => !endsPath c)

/-! ## Files -/

/-- Whether a text is the letter of a drive. -/
def isDrive : List Char → Bool
  | [letter, mark] => letter.isAlpha && (mark == ':' || mark == '|')
  | _ => false

/-- The letter of a drive as it is written. -/
def drive (segment : List Char) : List Char :=
  if isDrive segment then segment.take 1 ++ [':'] else segment

/-- Goes up in a path of files, but not out of a drive. -/
def upInFiles (taken : List (List Char)) : List (List Char) :=
  match taken.filter fun segment => !segment.isEmpty with
  | [segment] => if isDrive segment then taken else taken.tail
  | _ => taken.tail

/-- Reads the path of a file, and all that follows. It begins with one slash, and belongs to no host
if it names a drive. -/
def withFilePath (url : Url) (cs : List Char) : Url :=
  let path := (segments true (cs.takeWhile fun c => !endsPath c)).map drive
  let settled := (settle upInFiles [] path).dropWhile List.isEmpty
  let host := if path.any isDrive then some (.name "") else url.host
  withQuery { url with path := pathText (if settled.isEmpty then [[]] else settled), host }
    (cs.dropWhile fun c => !endsPath c)

/-- Reads the address of a file behind its scheme. -/
def readFile (cs : List Char) : Except Flaw Url :=
  let isSlash (c : Char) : Bool := c == '/' || c == '\\'
  let url : Url := { scheme := fileScheme, host := some (.name ""), path := "/" }
  match cs with
  | a :: b :: rest =>
    if isSlash a && isSlash b then
      let host := rest.takeWhile fun c => !(isSlash c || endsPath c)
      if host.isEmpty || isDrive host then .ok (withFilePath url rest)
      else
        match Host.read host with
        | .error flaw => .error (.host flaw)
        | .ok host' =>
          let host' := if host' = .name "localhost" then .name "" else host'
          .ok (withFilePath { url with host := some host' } (rest.drop host.length))
    else .ok (withFilePath url cs)
  | _ => .ok (withFilePath url cs)

/-! ## Hosts -/

/-- Whether a character ends what belongs to a host. -/
def endsPlace (isSpecial : Bool) (c : Char) : Bool :=
  c == '/' || endsPath c || (isSpecial && c == '\\')

/-- The length of a host: it ends with a colon that is not between brackets. -/
def hostLength (inBrackets : Bool) : List Char → Nat
  | [] => 0
  | c :: rest =>
    if c = ':' ∧ !inBrackets then 0
    else hostLength (c = '[' ∨ (inBrackets ∧ c ≠ ']')) rest + 1

/-- The number spelled by digits. -/
def numberOf (digits : List Char) : Nat := digits.foldl (fun n d => 10 * n + (d.toNat - 48)) 0

/-- Reads the socket behind a host, and gives what follows it. -/
def readSocket (scheme : String) : List Char → Except Flaw (Option Nat × List Char)
  | ':' :: cs =>
    let digits := cs.takeWhile Char.isDigit
    let rest := cs.dropWhile Char.isDigit
    if UInt16.size ≤ numberOf digits then .error .badSocket
    else if rest.head?.any fun c => !(c == '/' || c == '\\' || endsPath c) then .error .badSocket
    else
      let socket := some (numberOf digits)
      .ok (if digits.isEmpty ∨ usualSockets.lookup scheme = socket then none else socket, rest)
  | cs => .ok (none, cs)

/-- Reads the user before a host. -/
def withUser (url : Url) (cs : List Char) : Url :=
  let write (cs : List Char) : String := String.ofList (Percent.encode Percent.user cs)
  { url with
    user := write (cs.takeWhile (· ≠ ':')), password := write ((cs.dropWhile (· ≠ ':')).drop 1) }

/-- Reads the user and the host in what stands before the path, and gives what is left of it.
Without a host there has to be nothing at all, neither before it nor, unless `isAll`, behind it. -/
def readServer (scheme : String) (isAll : Bool) (place : List Char) :
    Except Flaw (Url × List Char) := do
  let special := isSpecial scheme
  let server := (place.reverse.takeWhile (· ≠ '@')).reverse
  let user := place.take (place.length - server.length - 1)
  let url := withUser { scheme, path := "" } user
  if place.contains '@' ∧ user.isEmpty ∧ server.isEmpty ∧ !isAll then throw .emptyHost
  let name := server.take (hostLength false server)
  if name.isEmpty ∧ (special ∨ name ≠ server ∨ url.userText ≠ "") then throw .emptyHost
  let host ← ((if special then Host.read else Host.readOpaque) name).mapError .host
  return ({ url with host := some host }, server.drop name.length)

/-- Reads what follows the host and the socket. -/
def withRest (url : Url) (cs : List Char) : Url :=
  match cs with
  | '/' :: path => withPath url path
  | '\\' :: path => withPath url (if isSpecial url.scheme then path else cs)
  | _ => if isSpecial url.scheme then withPath url cs else withQuery url cs

/-- Reads the host of an address, and all that follows. -/
def readPlace (scheme : String) (cs : List Char) : Except Flaw Url := do
  let place := cs.takeWhile fun c => !endsPlace (isSpecial scheme) c
  let rest := cs.drop place.length
  let (url, left) ← readServer scheme rest.isEmpty place
  let (socket, after) ← readSocket scheme (left ++ rest)
  return withRest { url with socket } after

/-! ## Addresses -/

/-- Reads an address behind its scheme. -/
def afterScheme (scheme : String) (cs : List Char) : Except Flaw Url :=
  if scheme = fileScheme then readFile cs
  else if isSpecial scheme then readPlace scheme (cs.dropWhile fun c => c == '/' || c == '\\')
  else
    match cs with
    | '/' :: '/' :: rest => readPlace scheme rest
    | '/' :: rest => .ok (withPath { scheme, path := "" } rest)
    | _ =>
      let path := Percent.encode Percent.control (cs.takeWhile fun c => !endsPath c)
      .ok (withQuery { scheme, path := String.ofList path } (cs.dropWhile fun c => !endsPath c))

/-- The address in a text. -/
def parse (text : String) : Except Flaw Url :=
  match scheme? (tidy text.toList) with
  | none => .error .relative
  | some (scheme, rest) => afterScheme scheme rest

end TokenAudit.Url
