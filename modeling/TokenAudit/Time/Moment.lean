import TokenAudit.Text.Blank
import TokenAudit.Text.Numeral

/-! # Moments

A point in time, in seconds since the start of the year 1970 with a fraction in nanoseconds. A
fraction of a second or more stands for a leap second. As text a moment is a date and a time of day
of the calendar in use, always for the meridian of Greenwich.

* `Moment.toText` — for instance `2024-01-02T03:04:05.5Z` with three, six or nine places or none;
* `Moment.parse?` — reading, in a lax form and with any offset. -/

namespace TokenAudit

/-- A point in time. -/
structure Moment where
  /-- Seconds since the start of 1970. -/
  seconds : Int
  /-- Nanoseconds after that; `10 ^ 9` and more in a leap second. -/
  nanos : Nat
  deriving DecidableEq, Repr, Inhabited

namespace Moment

/-! ## The calendar -/

/-- A day of the calendar. -/
structure Date where
  year : Int
  month : Nat
  day : Nat
  deriving DecidableEq, Repr

/-- Whether a year has a leap day. -/
def isLeap (year : Int) : Bool := year % 4 == 0 && (year % 100 != 0 || year % 400 == 0)

/-- The number of days of a month. -/
def daysIn (year : Int) (month : Nat) : Nat :=
  if month = 2 then if isLeap year then 29 else 28
  else if month = 4 ∨ month = 6 ∨ month = 9 ∨ month = 11 then 30
  else 31

/-- Whether a date is in the calendar. -/
def Date.isValid (d : Date) : Bool :=
  1 ≤ d.month && d.month ≤ 12 && 1 ≤ d.day && d.day ≤ daysIn d.year d.month

/-- The days from the start of 1970 to a date. Years are counted from March, so that the leap day is
the last one, and in groups of 400. -/
def Date.toDays (d : Date) : Int :=
  let year := if d.month ≤ 2 then d.year - 1 else d.year
  let era := year.fdiv 400
  let yearOfEra := year - era * 400
  let monthFromMarch := (d.month + 9) % 12
  let dayOfYear : Int := (153 * monthFromMarch + 2) / 5 + d.day - 1
  let dayOfEra := yearOfEra * 365 + yearOfEra / 4 - yearOfEra / 100 + dayOfYear
  era * 146097 + dayOfEra - 719468

/-- The date so many days after the start of 1970. -/
def Date.ofDays (days : Int) : Date :=
  let shifted := days + 719468
  let era := shifted.fdiv 146097
  let dayOfEra := shifted - era * 146097
  let yearOfEra := (dayOfEra - dayOfEra / 1460 + dayOfEra / 36524 - dayOfEra / 146096) / 365
  let dayOfYear := (dayOfEra - (365 * yearOfEra + yearOfEra / 4 - yearOfEra / 100)).toNat
  let monthFromMarch := (5 * dayOfYear + 2) / 153
  let month := if monthFromMarch < 10 then monthFromMarch + 3 else monthFromMarch - 9
  { year := yearOfEra + era * 400 + (if month ≤ 2 then 1 else 0)
    month
    day := dayOfYear - (153 * monthFromMarch + 2) / 5 + 1 }

/-- The first year of the calendar. -/
def firstYear : Int := -262143

/-- The last year of the calendar. -/
def lastYear : Int := 262142

/-- The date of a moment. -/
def date (m : Moment) : Date := Date.ofDays (m.seconds.fdiv 86400)

/-! ## Writing -/

/-- A number with at least `width` decimal digits. -/
def padded (width n : Nat) : String :=
  let digits := Nat.toDigits 10 n
  String.ofList (List.replicate (width - digits.length) '0' ++ digits)

/-- A year: four digits, and a sign when it has more or lies before the year zero. -/
def yearText (year : Int) : String :=
  if 0 ≤ year ∧ year ≤ 9999 then padded 4 year.toNat
  else (if year < 0 then "-" else "+") ++ padded 4 year.natAbs

/-- A fraction of a second in as many groups of three places as it needs. -/
def fractionText (nanos : Nat) : String :=
  if nanos = 0 then ""
  else if nanos % 1000000 = 0 then "." ++ padded 3 (nanos / 1000000)
  else if nanos % 1000 = 0 then "." ++ padded 6 (nanos / 1000)
  else "." ++ padded 9 nanos

/-- The text of a moment. A leap second is the second 60 of its minute. -/
def toText (m : Moment) : String :=
  let date := m.date
  let ofDay := (m.seconds - m.seconds.fdiv 86400 * 86400).toNat
  let leap := 1000000000 ≤ m.nanos
  let second := ofDay % 60 + (if leap then 1 else 0)
  let nanos := if leap then m.nanos - 1000000000 else m.nanos
  yearText date.year ++ "-" ++ padded 2 date.month ++ "-" ++ padded 2 date.day ++ "T" ++
    padded 2 (ofDay / 3600) ++ ":" ++ padded 2 (ofDay / 60 % 60) ++ ":" ++ padded 2 second ++
    fractionText nanos ++ "Z"

/-! ## Reading -/

/-- A text without the blanks at its start. -/
def skip (cs : List Char) : List Char := cs.dropWhile Text.isBlank

/-- Whether a character is one of the ten digits. -/
def isDigit (c : Char) : Bool := '0' ≤ c && c ≤ '9'

/-- The number that decimal digits spell. -/
def number (digits : List Char) : Nat := digits.foldl (fun acc c => 10 * acc + (c.toNat - 48)) 0

/-- Takes up to `most` digits off a text, at least one. -/
def digits? (most : Nat) (cs : List Char) : Option (Nat × List Char) :=
  let found := (cs.take most).takeWhile isDigit
  if found.isEmpty then none else some (number found, cs.drop found.length)

/-- Takes a number of at most two digits off a text, after blanks. -/
def field? (cs : List Char) : Option (Nat × List Char) := digits? 2 (skip cs)

/-- Takes a year off a text, after blanks: up to four digits, or a sign with any number of
digits. -/
def year? (cs : List Char) : Option (Int × List Char) :=
  let signed (cs : List Char) : Option (Nat × List Char) :=
    (digits? cs.length cs).filter fun (n, _) => n < 0x80000000
  match skip cs with
  | '-' :: rest => (signed rest).map fun (n, rest) => (-n, rest)
  | '+' :: rest => (signed rest).map fun (n, rest) => (n, rest)
  | cs => (digits? 4 cs).map fun (n, rest) => (n, rest)

/-- Takes a mark off a text, after blanks. -/
def mark? (c : Char) (cs : List Char) : Option (List Char) :=
  match skip cs with
  | d :: rest => if c = d then some rest else none
  | [] => none

/-- Takes a fraction of a second off a text, in nanoseconds; further places are left aside. -/
def fraction? (cs : List Char) : Option (Nat × List Char) :=
  match cs with
  | '.' :: rest =>
    let places := rest.takeWhile isDigit
    let kept := places.take 9
    if places.isEmpty then none
    else some (number kept * Nat.pow 10 (9 - kept.length), rest.dropWhile isDigit)
  | _ => some (0, cs)

/-- Takes an offset in seconds off a text: `Z`, `UTC`, or hours and minutes with a sign. -/
def offset? (cs : List Char) : Option (Int × List Char) :=
  let hoursAndMinutes (cs : List Char) : Option (Int × List Char) :=
    match cs with
    | h₁ :: h₂ :: rest =>
      match rest.dropWhile fun c => c == ':' || Text.isBlank c with
      | m₁ :: m₂ :: rest =>
        if [h₁, h₂, m₁, m₂].all isDigit && m₁ ≤ '5' then
          some (number [h₁, h₂] * 3600 + number [m₁, m₂] * 60, rest)
        else none
      | _ => none
    | _ => none
  if (cs.take 3).map Char.toUpper = ['U', 'T', 'C'] then some (0, cs.drop 3)
  else
    match cs with
    | 'Z' :: rest | 'z' :: rest => some (0, rest)
    | '+' :: rest => hoursAndMinutes rest
    | '-' :: rest | '−' :: rest => (hoursAndMinutes rest).map fun (n, rest) => (-n, rest)
    | _ => none

/-- Reads a moment. Between date and time stands `T` or a blank, further blanks do not matter, and
numbers need not be filled up with zeros. -/
def parse? (text : String) : Option Moment := do
  let (year, cs) ← year? text.toList
  let (month, cs) ← mark? '-' cs >>= field?
  let (day, cs) ← mark? '-' cs >>= field?
  let cs ←
    match cs with
    | 'T' :: rest | 't' :: rest | ' ' :: rest => some rest
    | _ => none
  let (hour, cs) ← field? cs
  let (minute, cs) ← mark? ':' cs >>= field?
  let (second, cs) ← mark? ':' cs >>= field?
  let (nanos, cs) ← fraction? cs
  let (offset, rest) ← offset? (skip cs)
  let date : Date := ⟨year, month, day⟩
  guard ((skip rest).isEmpty && date.isValid && firstYear ≤ year && year ≤ lastYear)
  guard (hour < 24 && minute < 60 && second ≤ 60 && offset.natAbs < 86400)
  let leap := second = 60
  let ofDay : Nat := hour * 3600 + minute * 60 + (if leap then 59 else second)
  let moment : Moment :=
    ⟨date.toDays * 86400 + ofDay - offset, if leap then nanos + 1000000000 else nanos⟩
  guard (firstYear ≤ moment.date.year && moment.date.year ≤ lastYear)
  return moment

end Moment

end TokenAudit
