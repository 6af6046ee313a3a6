import TokenAudit.Domain.Composition
import TokenAudit.Domain.Mapping
import TokenAudit.Domain.Property
import TokenAudit.Domain.Punycode

/-! # Domain names

A domain name consists of labels with dots between them. Its characters are replaced by those they
stand for, and composed. A label that begins with `xn--` spells another label, which has to be as it
would be if it had been written itself. In the end every label is spelled in plain letters.

* `isDenied` — plain characters that cannot stand in a name;
* `joinersFit`, `directionsFit` — what holds of the characters of a label together;
* `toPlain?` — a name in plain letters, if it is one. -/

namespace TokenAudit.Domain

/-! ## Single characters -/

/-- Whether a character is plain but cannot stand in a name. -/
def isDenied (c : Char) : Bool :=
  c.toNat ≤ 0x20 || c == '\x7f' ||
    ['%', '#', '/', ':', '<', '>', '?', '@', '[', '\\', ']', '^', '|'].contains c

/-- Whether a character is plain. -/
def isAscii (c : Char) : Bool := c.toNat < 0x80

/-- The characters that the characters of a name stand for, if all of them can stand in one. -/
def replaced? : List Char → Option (List Char)
  | [] => some []
  | c :: rest =>
    let cs :=
      match standing c with
      | .itself => [c]
      | .others cs => cs
      | .refused => ['%']
    if cs.any isDenied then none else (replaced? rest).map (cs ++ ·)

/-! ## Joiners -/

/-- The character that keeps letters from joining. -/
def nonJoiner : Char := '\u200C'

/-- The character that makes letters join. -/
def joiner : Char := '\u200D'

/-- The class of the marks after which letters can be joined. -/
def joiningMarkClass : Nat := 9

/-- Whether the first character that is not passed over joins in one of the given ways. -/
def meetsJoining (ways : List Joining) (cs : List Char) : Bool :=
  match (cs.map joining).dropWhile (· = .passed) with
  | [] => false
  | way :: _ => ways.contains way

/-- Whether every joiner of a label stands behind a mark for it, or keeps two letters apart that
would join. `before` is what stands before the rest of the label, the last character first. -/
def joinersFit (before : List Char) : List Char → Bool
  | [] => true
  | c :: rest =>
    let fits :=
      if c = joiner ∨ c = nonJoiner then
        match before with
        | [] => false
        | b :: _ =>
          markClass b == joiningMarkClass ||
            (c == nonJoiner && meetsJoining [.after, .both] before &&
              meetsJoining [.before, .both] rest)
      else true
    fits && joinersFit (c :: before) rest

/-! ## Directions -/

/-- Whether a character makes the name one that is also written from right to left. -/
def isRightward (c : Char) : Bool := direction c == .right || direction c == .arabicDigit

/-- Whether the directions of a label go together: it begins with a letter, ends with a letter or
digit of the same direction, and has digits of one kind only. Marks at its end do not count. -/
def directionsFit (label : List Char) : Bool :=
  match label.map direction with
  | [] => true
  | first :: rest =>
    let body := (rest.reverse.dropWhile (· = .mark)).reverse
    let last := body.getLast?.getD first
    match first with
    | .left =>
      body.all (fun d => d ≠ .right && d ≠ .arabicDigit) && [.left, .digit].contains last
    | .right =>
      body.all (· ≠ .left) && [.right, .digit, .arabicDigit].contains last &&
        !(body.contains .digit && body.contains .arabicDigit)
    | _ => false

/-! ## Labels -/

/-- What a label begins with that spells another label. -/
def spellingMark : List Char := ['x', 'n', '-', '-']

/-- The most characters of a spelling that are read. -/
def maxSpelling : Nat := 2000

/-- The most characters of a label that are spelled. -/
def maxLabel : Nat := 1000

/-- The label that a label spells, if it begins like a spelling: otherwise itself. -/
def labelOf? (label : List Char) : Option (List Char) :=
  if label.take 4 = spellingMark then
    let spelling := label.drop 4
    if spelling.getLast?.getD '-' = '-' ∨ maxSpelling < spelling.length ∨ !spelling.all isAscii then
      none
    else
      match Punycode.decode? spelling with
      | some cs =>
        if cs.all (fun c => isPlain c && !isDenied c && c ≠ '.') ∧ composed cs = cs then
          some cs
        else none
      | none => none
  else some label

/-- Whether a label that is not spelled can be one. -/
def labelFits (label : List Char) : Bool :=
  !(label.head?.any isMark) && joinersFit [] label &&
    (label.all isAscii || label.length ≤ maxLabel)

/-- A label in plain letters. -/
def plainLabel (label : List Char) : List Char :=
  if label.all isAscii then label else spellingMark ++ Punycode.encode label

/-- The labels of a name. -/
def labels (name : List Char) : List (List Char) :=
  ((String.ofList name).splitOn ".").map String.toList

/-- A name in plain letters, if it is a name. -/
def toPlain? (name : List Char) : Option String := do
  let written := labels (composed (← replaced? name))
  let spelled ← written.mapM labelOf?
  if spelled.all labelFits && (!(spelled.any (·.any isRightward)) || spelled.all directionsFit) then
    some (".".intercalate (written.map fun label => String.ofList (plainLabel label)))
  else none

end TokenAudit.Domain
