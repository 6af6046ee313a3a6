/-! # Labels in plain letters

A label with any characters can be spelled in small letters, digits and dashes alone: first its own
plain characters and a dash, then how far it is from each of the others to the next one, as numbers
of digits whose weights depend on what came before.

* `Punycode.encode` — the spelling of a label;
* `Punycode.decode?` — the label of a spelling, if it is one. -/

namespace TokenAudit.Domain.Punycode

/-- The base of the numbers. -/
def base : Nat := 36

/-- The first character that is not plain. -/
def firstOther : Nat := 0x80

/-- The bias before the first number. -/
def firstBias : Nat := 72

/-- The digit of a value below the base. -/
def digit (d : Nat) : Char := Char.ofNat (if d < 26 then 97 + d else 22 + d)

/-- The value of a digit in either case. -/
def digitValue? (c : Char) : Option Nat :=
  if 'a' ≤ c ∧ c ≤ 'z' then some (c.toNat - 97)
  else if 'A' ≤ c ∧ c ≤ 'Z' then some (c.toNat - 65)
  else if '0' ≤ c ∧ c ≤ '9' then some (c.toNat - 22)
  else none

/-- The least value that does not end a number in a place. Places are counted in steps of the
base. -/
def threshold (place bias : Nat) : Nat := min 26 (max 1 (place - bias))

/-- In every place zero ends a number. -/
theorem threshold_pos (place bias : Nat) : 0 < threshold place bias := by
  unfold threshold
  omega

/-- Takes the scale out of a distance. -/
def scaleDown (distance bias : Nat) : Nat × Nat :=
  if 455 < distance then scaleDown (distance / 35) (bias + base) else (distance, bias)
termination_by distance
decreasing_by exact Nat.div_lt_self (by omega) (by omega)

/-- The bias after a distance, with so many characters by then. -/
def adapt (distance count : Nat) (isFirst : Bool) : Nat :=
  let damped := if isFirst then distance / 700 else distance / 2
  let (rest, bias) := scaleDown (damped + damped / count) 0
  bias + base * rest / (rest + 38)

/-! ## Writing -/

/-- The digits of a number from a place on. -/
def writeNumber (bias place n : Nat) : List Char :=
  let t := threshold place bias
  if n < t then [digit n]
  else digit (t + (n - t) % (base - t)) :: writeNumber bias (place + base) ((n - t) / (base - t))
termination_by n
decreasing_by
  have := threshold_pos place bias
  exact Nat.lt_of_le_of_lt (Nat.div_le_self _ _) (by omega)

/-- Where writing stands. -/
structure Writer where
  /-- What is written. -/
  written : List Char
  /-- The distance since the last character that was written. -/
  distance : Nat
  /-- The bias. -/
  bias : Nat
  /-- How many characters of the label are written. -/
  count : Nat

/-- Goes past a character of the label while the characters of one number are written. -/
def Writer.pass (plain number : Nat) (w : Writer) (c : Char) : Writer :=
  if c.toNat < number then { w with distance := w.distance + 1 }
  else if c.toNat = number then
    { written := w.written ++ writeNumber w.bias base w.distance
      distance := 0
      bias := adapt w.distance (w.count + 1) (w.count = plain)
      count := w.count + 1 }
  else w

/-- Writes the characters with the given numbers, the least first; `done` is below all of them. -/
def writeOthers (label : List Char) (plain : Nat) :
    (done : Nat) → (numbers : List Nat) → Writer → Writer
  | _, [], w => w
  | done, number :: rest, w =>
    let w := { w with distance := w.distance + (number - done) * (w.count + 1) }
    let w := label.foldl (Writer.pass plain number) w
    writeOthers label plain (number + 1) rest { w with distance := w.distance + 1 }

/-- The spelling of a label. -/
def encode (label : List Char) : List Char :=
  let plain := label.filter fun c => c.toNat < firstOther
  let others := (label.map Char.toNat).filter fun n => firstOther ≤ n
  let numbers := (others.mergeSort (· ≤ ·)).eraseReps
  let head := if plain.isEmpty then [] else plain ++ ['-']
  head ++
    (writeOthers label plain.length firstOther numbers ⟨[], 0, firstBias, plain.length⟩).written

/-! ## Reading -/

/-- Reads a number from a place on and adds it, times a weight, to `n`: the sum, and a shorter
rest. -/
def readNumber (bias : Nat) : (place weight n : Nat) → (cs : List Char) →
    Option { r : Nat × List Char // r.2.length < cs.length }
  | _, _, _, [] => none
  | place, weight, n, c :: rest =>
    match digitValue? c with
    | none => none
    | some d =>
      let t := threshold place bias
      let n := n + d * weight
      if UInt32.size ≤ n then none
      else if d < t then some ⟨(n, rest), Nat.lt_succ_self _⟩
      else if UInt32.size ≤ weight * (base - t) then none
      else
        match readNumber bias (place + base) (weight * (base - t)) n rest with
        | some ⟨r, h⟩ => some ⟨r, Nat.lt_succ_of_lt h⟩
        | none => none

/-- Puts the characters that numbers spell into what is read of a label. `number` and `index` say
where the last one was put, and what it was. -/
def readOthers (bias number index : Nat) (label : List Char) (cs : List Char) :
    Option (List Char) :=
  if cs.isEmpty then some label
  else
    match readNumber bias base 1 index cs with
    | none => none
    | some ⟨(n, rest), _⟩ =>
      let count := label.length + 1
      let number := number + n / count
      let place := n % count
      if number < 0xD800 ∨ (0xDFFF < number ∧ number < 0x110000) then
        readOthers (adapt (n - index) count (index = 0)) number (place + 1)
          (label.insertIdx place (Char.ofNat number)) rest
      else none
termination_by cs.length

/-- The label of a spelling. -/
def decode? (spelling : List Char) : Option (List Char) :=
  let others := (spelling.reverse.takeWhile (· ≠ '-')).reverse
  let plain := spelling.take (spelling.length - others.length - 1)
  readOthers firstBias firstOther 0 plain (if plain.isEmpty then spelling else others)

end TokenAudit.Domain.Punycode
