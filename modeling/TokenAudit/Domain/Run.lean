import TokenAudit.Text.Hex

/-! # Runs of characters

What is known of characters is laid down in texts: words of a number or a range of numbers in base
sixteen, possibly with a step, and behind a colon what holds of the characters there. Most
characters are not mentioned.

* `Run` — some characters, and what holds of them;
* `Run.table` — the runs of a text;
* `Run.find?` — the run that a character is in. -/

namespace TokenAudit.Domain

/-- Characters from a first to a last one, and what holds of them. -/
structure Run where
  /-- The first character. -/
  first : Nat
  /-- The last character. -/
  last : Nat
  /-- How far it is from one character to the next. -/
  step : Nat
  /-- What holds of them, if anything is said. -/
  value : Option String
  deriving DecidableEq, Repr, Inhabited

namespace Run

/-- The number spelled in base sixteen. -/
def number (digits : String) : Nat :=
  digits.foldl (fun n c => 16 * n + (Hex.value? c).getD 0) 0

/-- A run by its word. -/
def read (word : String) : Run :=
  match word.splitOn ":" with
  | [] => default
  | span :: values =>
    let (range, step) :=
      match span.splitOn "/" with
      | [range, step] => (range, number step)
      | _ => (span, 1)
    let (first, last) :=
      match range.splitOn "-" with
      | [first, last] => (number first, number last)
      | _ => (number range, number range)
    ⟨first, last, step, values.head?⟩

/-- The runs of a text. -/
def table (text : String) : List Run :=
  (((text.splitOn "\n").flatMap (·.splitOn " ")).filter (· ≠ "")).map read

/-- Whether a character is in a run. -/
def covers (run : Run) (c : Char) : Bool :=
  run.first ≤ c.toNat && c.toNat ≤ run.last && (c.toNat - run.first) % run.step == 0

/-- The run that a character is in, among runs in the order of their first characters. -/
def find? (c : Char) : List Run → Option Run
  | [] => none
  | run :: rest =>
    if c.toNat < run.first then none else if run.covers c then some run else find? c rest

/-- What holds of a character. -/
def valueOf? (c : Char) (runs : List Run) : Option String := (find? c runs).bind Run.value

/-- The characters spelled by numbers. -/
def characters (numbers : String) : List Char :=
  ((numbers.splitOn ",").filter (· ≠ "")).map fun digits => Char.ofNat (number digits)

end Run

end TokenAudit.Domain
