import TokenAudit.Domain.Name
import TokenAudit.Text.Numeral
import TokenAudit.Url.Percent

/-! # Hosts

A host goes by a name, or by a number of thirty-two bits or of a hundred and twenty-eight. A name
whose last label is a number has to be a number as a whole.

* `Host` — a host, with `Host.toText`;
* `Host.readShort`, `Host.readLong` — the two kinds of numbers;
* `Host.read` — the host of a well-known scheme;
* `Host.readOpaque` — the host of another scheme. -/

namespace TokenAudit

/-- Where something is to be found. -/
inductive Host
  /-- A name; it may be empty where no host has to be named. -/
  | name (text : String)
  /-- A number of thirty-two bits. -/
  | short (number : Nat)
  /-- Eight numbers of sixteen bits. -/
  | long (pieces : List Nat)
  deriving DecidableEq, Repr

namespace Host

/-- Why a text names no host. -/
inductive Flaw
  /-- There is no text. -/
  | empty
  /-- It is no domain name. -/
  | badName
  /-- It ends in a number but is none. -/
  | badShort
  /-- It stands in brackets but is no number. -/
  | badLong
  /-- It has a character that cannot stand in a host. -/
  | badCharacter
  deriving DecidableEq, Repr

/-! ## Numbers of thirty-two bits -/

/-- What a label comes to as a part of a number: nothing if it is none, and no value if it is too
large. The mark `0x` stands before digits in base sixteen, a zero before digits in base eight. -/
def part? (label : List Char) : Option (Option Nat) :=
  let value (base : Nat) (digits : List Char) : Option (Option Nat) :=
    match Numeral.readFrom base (1 <<< 32) 0 digits with
    | .ok n => some (some n)
    | .error .tooLarge =>
      if digits.all fun c => (Numeral.digitOf? base c).isSome then some none else none
    | .error _ => none
  match label with
  | [] => none
  | '0' :: 'x' :: digits | '0' :: 'X' :: digits => value 16 digits
  | '0' :: c :: digits => value 8 (c :: digits)
  | digits => value 10 digits

/-- The labels of a name. An empty one at the end does not count. -/
def labels (text : String) : List (List Char) :=
  let labels := Domain.labels text.toList
  if labels.getLast? = some [] then labels.dropLast else labels

/-- Whether the last label of a name is a number. -/
def endsInNumber (text : String) : Bool :=
  match (labels text).getLast? with
  | none => false
  | some label => (!label.isEmpty && label.all Char.isDigit) || (part? label).isSome

/-- The number that is spelled by up to four parts: each but the last one is a byte, and the last
one makes up what is left. -/
def joinParts : (left : Nat) → List Nat → Option Nat
  | _, [] | 0, _ => none
  | left + 1, [n] => if n < 1 <<< (8 * (left + 1)) then some n else none
  | left + 1, n :: rest =>
    if n < 256 then (joinParts left rest).map (n <<< (8 * left) + ·) else none

/-- The number that a name spells. -/
def readShort (text : String) : Except Flaw Nat :=
  match ((labels text).mapM part?).bind fun parts => parts.mapM id with
  | some parts => (joinParts 4 parts).elim (.error .badShort) .ok
  | none => .error .badShort

/-! ## Numbers of a hundred and twenty-eight bits -/

/-- A byte in base ten, without leading zeros. -/
def byte? (digits : List Char) : Option Nat :=
  match digits with
  | [] => none
  | '0' :: _ :: _ => none
  | _ => (Numeral.readFrom 10 256 0 digits).toOption

/-- Two pieces spelled by four bytes with dots between them. -/
def pairOfBytes? (text : String) : Option (List Nat) :=
  match (text.splitOn ".").mapM fun part => byte? part.toList with
  | some [a, b, c, d] => some [256 * a + b, 256 * c + d]
  | _ => none

/-- A piece in base sixteen. -/
def piece? (text : String) : Option Nat :=
  if text.isEmpty ∨ 4 < text.length then
    none
  else (Numeral.readFrom 16 UInt16.size 0 text.toList).toOption

/-- Pieces with colons between them. The last two may be spelled by four bytes. -/
def pieces? : List String → Option (List Nat)
  | [] => some []
  | [last] => if last.contains '.' then pairOfBytes? last else (piece? last).map ([·])
  | piece :: rest => do return (← piece? piece) :: (← pieces? rest)

/-- Pieces in a text; there may be none. -/
def readPieces (text : String) : Option (List Nat) :=
  if text.isEmpty then some [] else pieces? (text.splitOn ":")

/-- The pieces of a number. Two colons in a row, once, stand for one or more pieces that are
zero. -/
def readLong (text : String) : Except Flaw (List Nat) :=
  let pieces :=
    match text.splitOn "::" with
    | [all] => (readPieces all).filter fun (ns : List Nat) => ns.length = 8
    | [before, after] =>
      if before.contains '.' then none
      else do
        let first ← readPieces before
        let last ← readPieces after
        let left := 8 - (first.length + last.length)
        if left = 0 then none else some (first ++ List.replicate left 0 ++ last)
    | _ => none
  pieces.elim (.error .badLong) .ok

/-! ## Hosts -/

/-- What stands between brackets, if the text begins with one. -/
def bracketed? : List Char → Option (Except Flaw (List Nat))
  | '[' :: rest =>
    if rest.getLast? = some ']' then some (readLong (String.ofList rest.dropLast))
    else some (.error .badLong)
  | _ => none

/-- The host of a well-known scheme. -/
def read (cs : List Char) : Except Flaw Host :=
  match bracketed? cs with
  | some pieces => pieces.map .long
  | none =>
    match (Percent.decodeText? (String.ofList cs)).bind fun text => Domain.toPlain? text.toList with
    | none => .error .badName
    | some text =>
      if text.isEmpty then .error .empty
      else if endsInNumber text then (readShort text).map .short
      else .ok (.name text)

/-- Whether a character cannot stand in a host of any scheme. -/
def isForbidden (c : Char) : Bool :=
  ['\x00', '\t', '\n', '\r', ' ', '#', '/', ':', '<', '>', '?', '@', '[', '\\', ']',
    '^', '|'].contains c

/-- The host of a scheme that is not well-known: its name is taken as it is. -/
def readOpaque (cs : List Char) : Except Flaw Host :=
  match bracketed? cs with
  | some pieces => pieces.map .long
  | none =>
    if cs.any isForbidden then .error .badCharacter
    else .ok (.name (String.ofList (Percent.encode Percent.control cs)))

/-! ## Writing -/

/-- A number of thirty-two bits as four bytes. -/
def shortText (number : Nat) : String :=
  ".".intercalate ((Hex.bigEndianBytes 4 number).map fun b => Numeral.decimal b.toNat)

/-- Pieces in base sixteen, with colons between them. -/
def piecesText (pieces : List Nat) : String :=
  ":".intercalate (pieces.map fun n => String.ofList (Hex.ofNat n))

/-- How many pieces are zero at the start. -/
def zeros (pieces : List Nat) : Nat := (pieces.takeWhile (· = 0)).length

/-- The place of the longest run of two or more zeros, the first of several, and its length. `place`
is where the pieces begin. -/
def longestZeros (place : Nat) (best : Option (Nat × Nat)) : List Nat → Option (Nat × Nat)
  | [] => best
  | n :: rest =>
    let length := zeros (n :: rest)
    let isBetter := 2 ≤ length && best.all fun (_, other) => other < length
    longestZeros (place + 1) (if isBetter then some (place, length) else best) rest

/-- Eight pieces; the longest run of zeros is left out between two colons. -/
def longText (pieces : List Nat) : String :=
  match longestZeros 0 none pieces with
  | none => piecesText pieces
  | some (place, length) =>
    piecesText (pieces.take place) ++ "::" ++ piecesText (pieces.drop (place + length))

/-- The text of a host without brackets. -/
def bare : Host → String
  | .name text => text
  | .short number => shortText number
  | .long pieces => longText pieces

/-- The text of a host in an address. -/
def toText : Host → String
  | .long pieces => "[" ++ longText pieces ++ "]"
  | host => host.bare

end Host

end TokenAudit
