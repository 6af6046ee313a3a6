import TokenAudit.Json.Reading

/-! # Decoding JSON

The second step of reading: a decoder looks for a value of a certain shape, from left to right, and
reports the first problem it meets.

* `Json.Problem` — the text ends early, is not JSON, or holds something of another shape;
* `Json.Decoder` — a decoder, with one for each plain shape;
* `Json.Reading.record` — the named fields of an object, or of an array in their order;
* `Json.Reading.tagged` — the kind that a value names, and what else is in it;
* `Json.Document` — what a whole text holds, and `Json.decodeText`, a decoder run on it. -/

namespace TokenAudit.Json

/-- Why a text does not hold what is looked for. -/
inductive Problem
  /-- The text ends early. -/
  | ended
  /-- The text is not JSON. -/
  | malformed
  /-- The text holds something else. -/
  | wrongShape
  deriving DecidableEq, Repr

/-- The problem that a flaw of the text amounts to. -/
def Flaw.problem : Flaw → Problem
  | .ended => .ended
  | .malformed => .malformed

/-- Looks for a value of a certain shape. -/
abbrev Decoder (α : Type) := Reading → Except Problem α

/-- What a decoder reports about a value of another shape. A break in its place comes first; what
stands inside a bracket is not looked at. -/
def Reading.other : Reading → Problem
  | .broken place => place.flaw.problem
  | _ => .wrongShape

/-- What is reported where a text is the only thing that JSON allows, or the only one that is looked
for: nothing but a text is read. -/
def Reading.noText : Reading → Problem
  | .broken place => if place.start = .other then .malformed else place.flaw.problem
  | _ => .malformed

/-! ## Passing over and taking whole -/

/-- Reports a flaw, if there is one. -/
def report : Option Flaw → Except Problem Unit
  | none => .ok ()
  | some flaw => .error flaw.problem

/-- Passes over a key: the first flaw in it, if any. -/
def Reading.passKey : Reading → Except Problem Unit
  | .str _ => .ok ()
  | .broken place => if place.start = .other then .error .malformed else report place.passing
  | _ => .error .malformed

mutual

/-- Passes over a value: the first flaw in it, if any. -/
def Reading.pass : Reading → Except Problem Unit
  | .broken place => report place.passing
  | .arr items stop => do
    Reading.passItems items
    report stop
  | .obj members stop => do
    Reading.passMembers members
    report stop
  | .null | .bool _ | .num _ | .str _ => .ok ()

/-- Passes over the items of an array. -/
def Reading.passItems : List Reading → Except Problem Unit
  | [] => .ok ()
  | r :: rest => do
    Reading.pass r
    Reading.passItems rest

/-- Passes over the members of an object. -/
def Reading.passMembers : List (Reading × Reading) → Except Problem Unit
  | [] => .ok ()
  | (key, r) :: rest => do
    Reading.passKey key
    Reading.pass r
    Reading.passMembers rest

end

mutual

/-- Takes a value of any shape that opens fewer than `depth` brackets inside one another. -/
def Reading.whole : (depth : Nat) → Decoder Json
  | _, .null => .ok .null
  | _, .bool b => .ok (.bool b)
  | _, .num n => .ok (.num n)
  | _, .str s => .ok (.str s)
  | _, .broken place => .error place.flaw.problem
  | depth, .arr items stop =>
    if depth ≤ 1 then .error .malformed
    else do
      let items ← Reading.wholeItems (depth - 1) items
      report stop
      return .arr items
  | depth, .obj members stop =>
    if depth ≤ 1 then .error .malformed
    else do
      let members ← Reading.wholeMembers (depth - 1) members
      report stop
      return .obj members

/-- Takes the items of an array. -/
def Reading.wholeItems : (depth : Nat) → List Reading → Except Problem (List Json)
  | _, [] => .ok []
  | depth, r :: rest => do
    let j ← Reading.whole depth r
    let js ← Reading.wholeItems depth rest
    return j :: js

/-- Takes the members of an object. -/
def Reading.wholeMembers :
    (depth : Nat) → List (Reading × Reading) → Except Problem (List (String × Json))
  | _, [] => .ok []
  | depth, (.str key, r) :: rest => do
    let j ← Reading.whole depth r
    let js ← Reading.wholeMembers depth rest
    return (key, j) :: js
  | _, (key, _) :: _ => .error key.noText

end

mutual

/-- A value whose objects all have their members in the order of keys. -/
def sortedDeep : Json → Json
  | .arr items => .arr (sortedItems items)
  | .obj members => .obj (sortMembers (sortedMembers members))
  | .null => .null
  | .bool b => .bool b
  | .num n => .num n
  | .str s => .str s

/-- Orders the items of an array inside. -/
def sortedItems : List Json → List Json
  | [] => []
  | j :: rest => sortedDeep j :: sortedItems rest

/-- Orders the members of an object inside. -/
def sortedMembers : List (String × Json) → List (String × Json)
  | [] => []
  | (key, j) :: rest => (key, sortedDeep j) :: sortedMembers rest

end

/-- How many brackets may be opened inside one another, and one more. -/
def maxDepth : Nat := 128

/-! ## Plain shapes -/

namespace Decoder

/-- A value of any shape, with the members of objects in the order of their keys. -/
def any (depth : Nat) : Decoder Json := fun r => (r.whole depth).map sortedDeep

/-- A text. -/
def str : Decoder String
  | .str s => .ok s
  | r => .error r.other

/-- A truth value. -/
def bool : Decoder Bool
  | .bool b => .ok b
  | r => .error r.other

/-- A whole number from `low` to below `high`. -/
def int (low high : Int) : Decoder Int
  | .num (.int n) => if low ≤ n ∧ n < high then .ok n else .error .wrongShape
  | r => .error r.other

/-- A whole number that fits into so many bits, without a sign. -/
def nat (bits : Nat) : Decoder Nat
  | .num (.int n) => if 0 ≤ n ∧ n < (1 <<< bits : Nat) then .ok n.toNat else .error .wrongShape
  | r => .error r.other

/-- Any number, as a double. -/
def float : Decoder Float
  | .num (.int n) =>
    .ok (if 0 ≤ n then (UInt64.ofNat n.toNat).toFloat else -(UInt64.ofNat (-n).toNat).toFloat)
  | .num (.float x) => .ok x
  | r => .error r.other

/-- Null, or a value. -/
def option {α : Type} (decode : Decoder α) : Decoder (Option α)
  | .null => .ok none
  | r => (decode r).map some

/-- An array whose items all have one shape. -/
def list {α : Type} (decode : Decoder α) : Decoder (List α)
  | .arr items stop => do
    let values ← items.mapM decode
    report stop
    return values
  | r => .error r.other

/-- An object whose members can be of any shape, in the order of their keys; `depth` counts the
bracket of the object itself. -/
def members (depth : Nat) : Decoder (List (String × Json))
  | .obj members stop => do
    match ← (Reading.obj members stop).whole depth with
    | .obj members => return sortMembers (sortedMembers members)
    | _ => throw .wrongShape
  | r => .error r.other

/-- One of several names: the text itself, or an object with the name as the only key and null as
its value. -/
def choice {α : Type} (names : List (String × α)) : Decoder α := fun r =>
  let named (s : String) : Except Problem α :=
    match names.lookup s with
    | some a => .ok a
    | none => .error .wrongShape
  match r with
  | .str s => named s
  | .obj ((.str key, value) :: rest) stop => do
    let a ← named key
    match value with
    | .null => pure ()
    | other => throw other.other
    match rest with
    | [] =>
      report stop
      return a
    | _ :: _ => throw .malformed
  | .obj ((key, _) :: _) _ => .error key.other
  | .obj [] (some flaw) => .error flaw.problem
  | r => .error r.noText

end Decoder

/-! ## Records -/

/-- The fields found for a record, by name. -/
abbrev Fields := List (String × Reading)

/-- A check that a value has the shape looked for, without keeping it. -/
def checked {α : Type} (decode : Decoder α) : Reading → Except Problem Unit :=
  fun r => (decode r).map fun _ => ()

/-- Goes through the members of an object: the values of the fields among them, each checked where
it stands. A field that comes twice is refused before its value is looked at; members that are no
fields are passed over. -/
def collect (shape : List (String × (Reading → Except Problem Unit))) :
    (found : Fields) → List (Reading × Reading) → Except Problem Fields
  | found, [] => .ok found
  | found, (.str key, r) :: rest =>
    match shape.lookup key with
    | none => do
      r.pass
      collect shape found rest
    | some check =>
      if (found.lookup key).isSome then .error .wrongShape
      else do
        check r
        collect shape (found ++ [(key, r)]) rest
  | _, (key, _) :: _ => .error key.noText

/-- Goes through the items of an array as the fields in their order. -/
def collectItems : (shape : List (String × (Reading → Except Problem Unit))) → List Reading →
    Option Flaw → Except Problem Fields
  | [], [], stop => (report stop).map fun _ => []
  | [], _ :: _, _ => .error .malformed
  | _ :: _, [], some flaw => .error flaw.problem
  | _ :: _, [], none => .error .wrongShape
  | (name, check) :: shape, r :: items, stop => do
    check r
    let rest ← collectItems shape items stop
    return (name, r) :: rest

/-- The fields of a record: named in an object, or in their order in an array. -/
def Reading.record (shape : List (String × (Reading → Except Problem Unit))) : Decoder Fields
  | .obj members stop => do
    let found ← collect shape [] members
    report stop
    return found
  | .arr items stop => collectItems shape items stop
  | r => .error r.other

/-- The value of a field that has to be there. -/
def Fields.required {α : Type} (fields : Fields) (name : String) (decode : Decoder α) :
    Except Problem α :=
  match fields.lookup name with
  | some r => decode r
  | none => .error .wrongShape

/-- The value of a field that may be missing or null. -/
def Fields.optional {α : Type} (fields : Fields) (name : String) (decode : Decoder α) :
    Except Problem (Option α) :=
  match fields.lookup name with
  | some r => Decoder.option decode r
  | none => .ok none

/-- The value of a field that may be missing; a default stands in for it. -/
def Fields.withDefault {α : Type} (fields : Fields) (name : String) (decode : Decoder α)
    (default : α) : Except Problem α :=
  match fields.lookup name with
  | some r => decode r
  | none => .ok default

/-! ## Values that name their kind -/

/-- Looks up the kind that a value names. Inside a value that was taken whole a kind can also go by
its number. -/
def kindOf {κ : Type} (kinds : List (String × κ)) (numbered : Bool) : Decoder κ
  | .str s =>
    match kinds.lookup s with
    | some kind => .ok kind
    | none => .error .wrongShape
  | .num (.int n) =>
    match kinds[n.toNat]? with
    | some (_, kind) => if numbered ∧ 0 ≤ n then .ok kind else .error .wrongShape
    | none => .error .wrongShape
  | r => .error r.other

/-- Goes through the members of an object whose kind stands under `tag`: the kind, if it was met,
and the other members, taken whole. -/
def collectTagged {κ : Type} (tag : String) (kind : Decoder κ) (depth : Nat) :
    (found : Option κ) → List (Reading × Reading) →
    Except Problem (Option κ × List (String × Json))
  | found, [] => .ok (found, [])
  | found, (.str key, r) :: rest =>
    if key = tag then
      if found.isSome then .error .wrongShape
      else do
        let k ← kind r
        collectTagged tag kind depth (some k) rest
    else do
      let j ← r.whole depth
      let (found, members) ← collectTagged tag kind depth found rest
      return (found, (key, j) :: members)
  | _, (key, _) :: _ => .error key.noText

/-- A value that names its kind: in an object under `tag`, or as the first item of an array.
Everything else in it is taken whole before its shape is looked at. -/
def Reading.tagged {κ : Type} (tag : String) (kind : Decoder κ) (depth : Nat) :
    Reading → Except Problem (κ × Reading)
  | .obj members stop => do
    let (found, rest) ← collectTagged tag kind (depth - 1) none members
    report stop
    match found with
    | some kind => return (kind, .ofJson (.obj rest))
    | none => throw .wrongShape
  | .arr [] stop => do
    report stop
    throw .wrongShape
  | .arr (first :: items) stop => do
    let kind ← kind first
    let items ← Reading.wholeItems (depth - 1) items
    report stop
    return (kind, .ofJson (.arr items))
  | r => .error r.other

/-- Decodes a value that was taken whole: every problem left in it is one of shape. -/
def withinWhole {α : Type} (result : Except Problem α) : Except Problem α :=
  match result with
  | .ok a => .ok a
  | .error _ => .error .wrongShape

/-- A value of a kind that has no fields: an object with any members, or an array without further
items. -/
def noFields : Decoder Unit
  | .arr (_ :: _) _ => .error .wrongShape
  | _ => .ok ()

/-! ## Whole texts -/

/-- What a whole text holds. -/
structure Document where
  /-- The value at its start. -/
  reading : Reading
  /-- Whether only blanks follow the value. -/
  isAll : Bool
  deriving Inhabited

namespace Document

/-- What a text holds. -/
def ofText (text : String) : Document :=
  let (reading, rest) := readText text
  ⟨reading, (skip rest).isEmpty⟩

/-- A document that holds just a value. -/
def ofJson (j : Json) : Document := ⟨.ofJson j, true⟩

/-- Decodes a document. Only blanks may follow the value. -/
def decode {α : Type} (decode : Decoder α) (d : Document) : Except Problem α := do
  let value ← decode d.reading
  if d.isAll then return value else throw .malformed

end Document

/-- Decodes a whole text. -/
def decodeText {α : Type} (decode : Decoder α) (text : String) : Except Problem α :=
  (Document.ofText text).decode decode

/-- A whole text as a value, with the members of objects in the order of their keys. -/
def parse (text : String) : Except Problem Json := decodeText (Decoder.any maxDepth) text

end TokenAudit.Json
