import TokenAudit.Json.Value

/-! # Reading JSON text

A text is read in two steps. The first, here, takes it in as far as it is JSON and marks where it
breaks off; the second (`Json/Decoder`) looks for a certain shape, from left to right. So a wrong
shape early in a text is noticed before a break further on, and a break before a wrong shape after
it.

* `Json.Reading` — what a text holds, as far as it can be read;
* `Json.Flaw` — the two ways to break off: the text ends early, or goes on wrongly;
* `Json.Break` — a place without a value, and how far the readers that come to it get;
* `Json.readText` — the reading of a text and what follows it;
* `Json.Reading.ofJson` — a whole value as a reading. -/

namespace TokenAudit.Json

/-- How a text fails to go on as JSON. -/
inductive Flaw
  /-- The text ends where something has to follow. -/
  | ended
  /-- The text goes on with something else than JSON asks for. -/
  | malformed
  deriving DecidableEq, Repr

/-- How a place begins that holds no value. -/
inductive Start
  /-- The text ends there. -/
  | nothing
  /-- With a quote. -/
  | quote
  /-- With another character. -/
  | other
  deriving DecidableEq, Repr

/-- A place at which there is no value. -/
structure Break where
  /-- How it begins. -/
  start : Start
  /-- The flaw that meets who reads the value. -/
  flaw : Flaw
  /-- The flaw that meets who only passes over the place, if any does. -/
  passing : Option Flaw
  /-- What is left of the text where a reader gets stuck, if that is before the place to which one
  gets who passes over it. -/
  left : Option (List Char)

/-- What a text holds, as far as it can be read. A bracket that is not closed in its place carries
the flaw found there. -/
inductive Reading
  | null
  | bool (b : Bool)
  | num (n : Number)
  | str (s : String)
  | arr (items : List Reading) (stop : Option Flaw)
  /-- A key other than a text is what stands in the place of one. -/
  | obj (members : List (Reading × Reading)) (stop : Option Flaw)
  /-- There is no value here. -/
  | broken (place : Break)
  deriving Inhabited

/-- A place at which the text ends. -/
def Reading.nothing : Reading := .broken ⟨.nothing, .ended, some .ended, none⟩

/-- A place that is no text, at which nobody gets further. -/
def Reading.stop (flaw : Flaw) : Reading := .broken ⟨.other, flaw, some flaw, none⟩

/-- A number that the text ends in. Who passes over it takes it for ill-formed. -/
def Reading.cutNumber : Reading := .broken ⟨.other, .ended, some .malformed, none⟩

/-- A number that is well-formed and stands for nothing. -/
def Reading.tooLarge (left : Option (List Char)) : Reading :=
  .broken ⟨.other, .malformed, none, left⟩

/-- Whether this is a text, if only one that stands for nothing. -/
def Reading.isText : Reading → Bool
  | .str _ => true
  | .broken place => place.start == .quote && place.passing.isNone
  | _ => false

mutual

/-- A whole value as a reading. -/
def Reading.ofJson : Json → Reading
  | .null => .null
  | .bool b => .bool b
  | .num n => .num n
  | .str s => .str s
  | .arr items => .arr (Reading.ofItems items) none
  | .obj members => .obj (Reading.ofMembers members) none

/-- The items of an array as readings. -/
def Reading.ofItems : List Json → List Reading
  | [] => []
  | j :: rest => Reading.ofJson j :: Reading.ofItems rest

/-- The members of an object as readings. -/
def Reading.ofMembers : List (String × Json) → List (Reading × Reading)
  | [] => []
  | (key, j) :: rest => (.str key, Reading.ofJson j) :: Reading.ofMembers rest

end

/-! ## Blanks and words -/

/-- The four blanks of JSON. -/
def isSpace (c : Char) : Bool := c == ' ' || c == '\n' || c == '\t' || c == '\r'

/-- A text without the blanks at its start. -/
def skip (cs : List Char) : List Char := cs.dropWhile isSpace

/-- What is left after the first byte of a text that begins with a certain character. A character of
several bytes counts as left. -/
def afterByte (c : Char) (rest : List Char) : List Char := if c.toNat < 128 then rest else c :: rest

/-- Takes the characters of a word off a text, up to the first one that differs. -/
def word (value : Reading) : List Char → List Char → Reading × List Char
  | [], cs => (value, cs)
  | _ :: _, [] => (.stop .ended, [])
  | w :: ws, c :: cs => if w = c then word value ws cs else (.stop .malformed, afterByte c cs)

/-! ## Texts -/

/-- What is left after so many bytes of a text. A character that only begins among them counts as
left. -/
def afterBytes : (count : Nat) → List Char → List Char
  | _, [] => []
  | 0, cs => cs
  | count + 1, c :: cs =>
    if c.utf8Size ≤ count + 1 then afterBytes (count + 1 - c.utf8Size) cs else c :: cs
termination_by _ cs => cs.length

/-- The number spelled by four hexadecimal digits, and what follows; otherwise the flaw, and what is
left after four bytes. The text has ended if fewer are left, whatever they are. -/
def fourDigits (cs : List Char) : Except (Flaw × List Char) (Nat × List Char) :=
  let four := cs.take 4
  if (String.ofList four).utf8ByteSize < 4 then .error (.ended, [])
  else
    match four.mapM Hex.value? with
    | some [a, b, c, d] => .ok (((a * 16 + b) * 16 + c) * 16 + d, cs.drop 4)
    | _ => .error (.malformed, afterBytes 4 cs)

/-- What an escape `\u` comes to. -/
inductive Escape
  /-- A character, and what follows the escape. -/
  | char (c : Char) (rest : List Char)
  /-- A surrogate alone, which is no character: what is left where a reader gets stuck, and what
  follows the escape. -/
  | alone (left rest : List Char)
  /-- The escape is broken: the flaw, and what is left. -/
  | broken (flaw : Flaw) (left : List Char)

/-- Reads an escape `\u`, whose digits follow. A pair of surrogates is one character. After the
first surrogate of a pair the text may not end; a reader gets stuck behind the next byte that cannot
belong to the pair. -/
def unicodeEscape (cs : List Char) : Escape :=
  match fourDigits cs with
  | .error (flaw, left) => .broken flaw left
  | .ok (high, rest) =>
    if 0xDC00 ≤ high ∧ high ≤ 0xDFFF then .alone rest rest
    else if 0xD800 ≤ high ∧ high ≤ 0xDBFF then
      match rest with
      | [] | ['\\'] => .broken .ended []
      | '\\' :: 'u' :: more =>
        match fourDigits more with
        | .error (flaw, left) => .broken flaw left
        | .ok (low, after) =>
          if 0xDC00 ≤ low ∧ low ≤ 0xDFFF then
            .char (Char.ofNat (0x10000 + (high - 0xD800) * 0x400 + (low - 0xDC00))) after
          else .alone after rest
      | '\\' :: c :: more | c :: more => .alone (afterByte c more) rest
    else .char (Char.ofNat high) rest

/-- The character of an escape other than `\u`. -/
def simpleEscape? : Char → Option Char
  | '"' => some '"'
  | '\\' => some '\\'
  | '/' => some '/'
  | 'b' => some '\x08'
  | 'f' => some '\x0c'
  | 'n' => some '\n'
  | 'r' => some '\r'
  | 't' => some '\t'
  | _ => none

/-- Reads a text up to its closing quote. `read` holds what was read so far, the last character
first; `stuck` is what was left where a surrogate stood alone, if one did; `fuel` bounds the number
of characters. -/
def quoted : (fuel : Nat) → (read : List Char) → (stuck : Option (List Char)) → List Char →
    Reading × List Char
  | 0, _, _, _ => (.nothing, [])
  | fuel + 1, read, stuck, cs =>
    let broken (flaw : Flaw) (left : List Char) : Reading × List Char :=
      (.broken ⟨.quote, if stuck.isSome then .malformed else flaw, some flaw, stuck⟩, left)
    match cs with
    | [] => broken .ended []
    | c :: rest =>
      if c = '"' then
        if stuck.isSome then (.broken ⟨.quote, .malformed, none, stuck⟩, rest)
        else (.str (String.ofList read.reverse), rest)
      else if c = '\\' then
        match rest with
        | [] => broken .ended []
        | 'u' :: more =>
          match unicodeEscape more with
          | .char d rest => quoted fuel (d :: read) stuck rest
          | .alone left rest => quoted fuel read (stuck <|> some left) rest
          | .broken flaw left => broken flaw left
        | e :: more =>
          match simpleEscape? e with
          | some d => quoted fuel (d :: read) stuck more
          | none => broken .malformed (afterByte e more)
      else if c.toNat < 0x20 then broken .malformed rest
      else quoted fuel (c :: read) stuck rest

/-! ## Numbers -/

/-- Whether a character is one of the ten digits. -/
def isDigit (c : Char) : Bool := '0' ≤ c && c ≤ '9'

/-- The value of a digit. -/
def digitValue (c : Char) : Nat := c.toNat - 48

/-- Takes further digits into a number of 64 bits as long as it fits: the number, how many
digits were taken, and the digits left over. -/
def takeDigits : (significand count : Nat) → List Char → Nat × Nat × List Char
  | significand, count, [] => (significand, count, [])
  | significand, count, c :: rest =>
    let next := significand * 10 + digitValue c
    if next < UInt64.size then takeDigits next (count + 1) rest else (significand, count, c :: rest)

/-- The double made of at most sixty-four bits of digits and a power of ten: the digits are rounded
to a double, which is then multiplied or divided by the power, rounded to a double as well. Powers
beyond `10 ^ 308` are divided out in steps. `none` if the result is too large for a double. -/
def scale (significand : Nat) (exponent : Int) : Option Float :=
  let f := (UInt64.ofNat significand).toFloat
  let power (e : Nat) : Float := Binary.nearest false (Nat.pow 10 e) 1
  if significand = 0 then some f
  else if 308 < exponent then none
  else if 0 ≤ exponent then
    let x := f * power exponent.toNat
    if x.isInf then none else some x
  else
    let e := (-exponent).toNat
    if e ≤ 308 then some (f / power e)
    else if e ≤ 616 then some (f / power 308 / power (e - 308))
    else some 0.0

/-- The number with the given sign, unless it is too large for a double. -/
def signed (negative : Bool) (left : Option (List Char)) : Option Float → Reading
  | none => .tooLarge left
  | some x => .num (.float (if negative then -x else x))

/-- The first exponent that is too large to be read. -/
def exponentLimit : Nat := 1 <<< 31

/-- What is left behind the digit with which an exponent gets too large to be read, if it does. -/
def afterLimit : (size : Nat) → List Char → Option (List Char)
  | _, [] => none
  | size, c :: rest =>
    if isDigit c then
      let size := size * 10 + digitValue c
      if size < exponentLimit then afterLimit size rest else some rest
    else none

/-- An exponent: its value, and what is left where it gets too large to be read. -/
structure Exponent where
  /-- The value. -/
  value : Int
  /-- What is left where a reader gives up, if one does. -/
  left : Option (List Char)

/-- Reads the exponent after its letter; otherwise the flaw, and what is left. -/
def exponentPart (cs : List Char) : Except (Flaw × List Char) (Exponent × List Char) :=
  let (negative, cs) :=
    match cs with
    | '+' :: rest => (false, rest)
    | '-' :: rest => (true, rest)
    | _ => (false, cs)
  match cs with
  | [] => .error (.ended, [])
  | c :: more =>
    if isDigit c then
      let digits := cs.takeWhile isDigit
      let size : Int := digits.foldl (fun acc d => 10 * acc + digitValue d) 0
      .ok (if negative then ⟨-size, none⟩ else ⟨size, afterLimit 0 cs⟩, cs.dropWhile isDigit)
    else .error (.malformed, afterByte c more)

/-- Reads what may follow the digits of a number with a point or an exponent: the exponent. -/
def scaled (negative : Bool) (significand : Nat) (exponent : Int) (cs : List Char) :
    Reading × List Char :=
  match cs with
  | c :: rest =>
    if c = 'e' ∨ c = 'E' then
      match exponentPart rest with
      | .ok (e, rest) => (signed negative e.left (scale significand (exponent + e.value)), rest)
      | .error (.ended, left) => (.cutNumber, left)
      | .error (.malformed, left) => (.stop .malformed, left)
    else (signed negative none (scale significand exponent), cs)
  | [] => (signed negative none (scale significand exponent), [])

/-- Reads what may follow the whole digits of a number: a point with digits, then an exponent.
Digits for which there is no room in the significand do not count. -/
def fractional (negative : Bool) (significand : Nat) (exponent : Int) (cs : List Char) :
    Reading × List Char :=
  match cs with
  | '.' :: rest =>
    match rest with
    | [] => (.cutNumber, [])
    | c :: _ =>
      if isDigit c then
        let (significand, count, _) := takeDigits significand 0 (rest.takeWhile isDigit)
        scaled negative significand (exponent - count) (rest.dropWhile isDigit)
      else (.stop .malformed, rest)
  | _ => scaled negative significand exponent cs

/-- Reads a number after its sign. It is a whole number if it has neither point nor exponent and
fits into 64 bits, except that a minus before zero makes a double. -/
def number (negative : Bool) (cs : List Char) : Reading × List Char :=
  match cs with
  | [] => (.cutNumber, [])
  | c :: more =>
    if !isDigit c then (.stop .malformed, afterByte c more)
    else
      let digits := cs.takeWhile isDigit
      let rest := cs.dropWhile isDigit
      if c = '0' ∧ 1 < digits.length then (.stop .malformed, more)
      else
        let (significand, _, left) := takeDigits 0 0 digits
        let goesOn := rest.head?.any fun d => d == '.' || d == 'e' || d == 'E'
        if goesOn || !left.isEmpty then fractional negative significand left.length rest
        else if !negative then (.num (.int significand), rest)
        else if 0 < significand ∧ significand ≤ 1 <<< 63 then (.num (.int (-significand)), rest)
        else (.num (.float (-(UInt64.ofNat significand).toFloat)), rest)

/-! ## Values -/

/-- Whether a reading is a number. -/
def Reading.isNumber : Reading → Bool
  | .num _ => true
  | _ => false

/-- Where an array goes on after an item. A list of numbers, which may be one of bytes, ends where a
reader gets stuck in an item if the closing bracket stands right there. -/
def resume (read : List Reading) (item : Reading) (rest : List Char) : List Char :=
  match item with
  | .broken place =>
    match place.left with
    | some left => if (skip left).head? = some ']' ∧ read.all Reading.isNumber then left else rest
    | none => rest
  | _ => rest

mutual

/-- Reads one value; `fuel` bounds the number of characters. -/
def value : (fuel : Nat) → List Char → Reading × List Char
  | 0, _ => (.nothing, [])
  | fuel + 1, cs =>
    match skip cs with
    | [] => (.nothing, [])
    | c :: rest =>
      if c = '"' then quoted fuel [] none rest
      else if c = '[' then items fuel true [] rest
      else if c = '{' then members fuel true [] rest
      else if c = 'n' then word .null ['u', 'l', 'l'] rest
      else if c = 't' then word (.bool true) ['r', 'u', 'e'] rest
      else if c = 'f' then word (.bool false) ['a', 'l', 's', 'e'] rest
      else if c = '-' then number true rest
      else if isDigit c then number false (c :: rest)
      else (.stop .malformed, c :: rest)

/-- Reads the items of an array up to its closing bracket. `read` holds the items so far, the last
one first. -/
def items : (fuel : Nat) → (first : Bool) → (read : List Reading) → List Char → Reading × List Char
  | 0, _, read, _ => (.arr read.reverse (some .ended), [])
  | fuel + 1, first, read, cs =>
    match skip cs with
    | [] => (.arr read.reverse (some .ended), [])
    | c :: rest =>
      if c = ']' then (.arr read.reverse none, rest)
      else if first then
        let (item, rest) := value fuel (c :: rest)
        items fuel false (item :: read) rest
      else if c = ',' then
        match skip rest with
        | ']' :: more => (.arr (.stop .malformed :: read).reverse none, more)
        | more =>
          let (item, rest) := value fuel more
          items fuel false (item :: read) (resume read item rest)
      else (.arr read.reverse (some .malformed), c :: rest)

/-- Reads the members of an object up to its closing bracket. `read` holds the members so far, the
last one first. -/
def members : (fuel : Nat) → (first : Bool) → (read : List (Reading × Reading)) → List Char →
    Reading × List Char
  | 0, _, read, _ => (.obj read.reverse (some .ended), [])
  | fuel + 1, first, read, cs =>
    match skip cs with
    | [] => (.obj read.reverse (some .ended), [])
    | c :: rest =>
      if c = '}' then (.obj read.reverse none, rest)
      else if first then member fuel read (c :: rest)
      else if c = ',' then member fuel read (skip rest)
      else (.obj read.reverse (some .malformed), c :: rest)

/-- Reads one member and the members after it. Nothing is read behind a key that is no text. -/
def member : (fuel : Nat) → (read : List (Reading × Reading)) → List Char → Reading × List Char
  | 0, read, _ => (.obj read.reverse (some .ended), [])
  | fuel + 1, read, cs =>
    let (key, rest) := value fuel cs
    let last (item : Reading) : Reading × List Char := (.obj ((key, item) :: read).reverse none, [])
    if key.isText then
      match skip rest with
      | [] => last .nothing
      | ':' :: more =>
        let (item, rest) := value fuel more
        members fuel false ((key, item) :: read) rest
      | _ => last (.stop .malformed)
    else last .null

end

/-- The reading of a text and the characters after it. -/
def readText (text : String) : Reading × List Char :=
  let cs := text.toList
  value (2 * cs.length + 2) cs

end TokenAudit.Json
