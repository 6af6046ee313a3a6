/-! # Text for a terminal

Some characters are not shown by a terminal but obeyed: control characters, and the sequences that
an escape character begins. What is printed where nothing should be obeyed is stripped of them.

* `Terminal.State`, `Terminal.step` — how far into a sequence a terminal is, one character at a
  time;
* `Terminal.plain` — what is shown of a text;
* `Terminal.marked` — a text that stands out.

A terminal that is in the midst of a sequence when a text begins does not show all of it. A marked
text ends with a sequence of its own, which begins with an escape and so ends any other. -/

namespace TokenAudit.Terminal

/-- How far into a sequence a terminal is. -/
inductive State
  /-- Between sequences. -/
  | ground
  /-- Behind the escape. -/
  | escape
  /-- In a sequence of an escape, signs and a letter. -/
  | signs
  /-- In a sequence with parameters, which a letter ends. -/
  | control
  /-- In a text for the system around the terminal, which a bell ends. -/
  | system
  /-- In the head of a text for a device, before the parameters. -/
  | device
  /-- In the parameters for a device. -/
  | deviceParameters
  /-- In the signs behind the parameters for a device. -/
  | deviceSigns
  /-- In a text that only a terminator ends. -/
  | string
  deriving DecidableEq, Repr

/-- Whether a character is blank and a control character at once: it moves on where the next one is
shown. -/
def isMove (c : Char) : Bool := c == '\t' || c == '\n' || c == '\x0c' || c == '\r'

/-- Whether a character lies between two others. -/
def isWithin (low high c : Char) : Bool := low ≤ c && c ≤ high

/-- Whether a byte of a character is the terminator of texts. -/
def hasTerminator (c : Char) : Bool := (String.utf8EncodeChar c).contains 0x9C

/-- The state behind the character that follows an escape. -/
def afterEscape (c : Char) : State :=
  if isWithin ' ' '/' c then .signs
  else if c = '[' then .control
  else if c = ']' then .system
  else if c = 'P' then .device
  else if c = 'X' ∨ c = '^' ∨ c = '_' then .string
  else if isWithin '0' '~' c then .ground
  else .escape

/-- The state behind one more character in the head of a text for a device, which `own` characters
do not leave. -/
def inHead (own : State) (c : Char) : State :=
  if isWithin ' ' '/' c then .deviceSigns
  else if isWithin '0' '?' c then
    if own = .device ∨ (own = .deviceParameters ∧ c ≤ ';') then .deviceParameters else .string
  else if isWithin '@' '~' c then .string
  else own

/-- The state behind a character, and whether the character is shown. Two characters break any
sequence off, and an escape begins one anywhere. A blank inside a short sequence is shown and ends
it. -/
def step (state : State) (c : Char) : State × Bool :=
  if c = '\x18' ∨ c = '\x1a' then (.ground, false)
  else if c = '\x1b' then (.escape, false)
  else
    match state with
    | .ground => (.ground, isMove c || (' ' ≤ c && c ≠ '\x7f'))
    | .escape => if isMove c then (.ground, true) else (afterEscape c, false)
    | .signs =>
      if isMove c then (.ground, true)
      else (if isWithin '0' '~' c then .ground else .signs, false)
    | .control =>
      if isMove c then (.ground, true)
      else (if isWithin '@' '~' c then .ground else .control, false)
    | .system => (if c = '\x07' then .ground else .system, false)
    | .device | .deviceParameters | .deviceSigns => (inHead state c, false)
    | .string => (if hasTerminator c then .ground else .string, false)

/-- What is shown of the characters that come in a state. -/
def shown : State → List Char → List Char
  | _, [] => []
  | state, c :: rest =>
    let (next, isShown) := step state c
    if isShown then c :: shown next rest else shown next rest

/-- What is shown of a text. -/
def plain (text : String) : String := String.ofList (shown .ground text.toList)

/-- A text that stands out. -/
def marked (text : String) : String := "\x1b[1m" ++ text ++ "\x1b[0m"

end TokenAudit.Terminal
