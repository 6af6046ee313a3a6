import TokenAudit.Decimal.Shortest
import TokenAudit.Text.Hex

/-! # JSON values

A JSON value keeps the order of the members of its objects. Whole numbers from `-2 ^ 63` to
`2 ^ 64 - 1` are kept exact, every other number is a double.

* `Json` — the values, with `Json.get?` for the member of an object;
* `Json.sorted` — an object whose members are in the order of their keys, each key once;
* `Json.compress`, `Json.pretty` — the text on one line and on many. -/

namespace TokenAudit

/-- A JSON number. -/
inductive Json.Number
  /-- A whole number. -/
  | int (n : Int)
  /-- Any other number. -/
  | float (x : Float)
  deriving Inhabited

/-- A JSON value. -/
inductive Json
  | null
  | bool (b : Bool)
  | num (n : Json.Number)
  | str (s : String)
  | arr (items : List Json)
  | obj (members : List (String × Json))
  deriving Inhabited

namespace Json

/-- A number that is not negative. -/
def nat (n : Nat) : Json := .num (.int n)

/-- A double. -/
def float (x : Float) : Json := .num (.float x)

/-- A list of texts. -/
def strs (texts : List String) : Json := .arr (texts.map .str)

/-- A value, or null in its place. -/
def option {α : Type} (encode : α → Json) : Option α → Json
  | none => .null
  | some a => encode a

/-- What is not there is encoded as null. -/
@[simp] theorem option_none {α : Type} (encode : α → Json) : option encode none = .null := rfl

/-- What is there is encoded as it is by itself. -/
@[simp] theorem option_some {α : Type} (encode : α → Json) (a : α) :
    option encode (some a) = encode a := rfl

/-- The member of an object with a given key; the first one, if there are several. -/
def get? (j : Json) (key : String) : Option Json :=
  match j with
  | .obj members => members.lookup key
  | _ => none

/-- Puts a member in the order of keys into a list that is ordered already. An older member with the
same key gives way. -/
def insertSorted (key : String) (value : Json) : List (String × Json) → List (String × Json)
  | [] => [(key, value)]
  | (k, v) :: rest =>
    if key < k then (key, value) :: (k, v) :: rest
    else if key = k then (key, value) :: rest
    else (k, v) :: insertSorted key value rest

/-- The members in the order of their keys; of several with one key the last one stays. -/
def sortMembers (members : List (String × Json)) : List (String × Json) :=
  members.foldl (fun acc (key, value) => insertSorted key value acc) []

/-- An object whose members are in the order of their keys. -/
def sorted (members : List (String × Json)) : Json := .obj (sortMembers members)

/-! ## Writing -/

/-- Doubles are written without an exponent while the point stands among the first sixteen digits or
at most four zeros before them. -/
def numberLayout : Decimal.Layout := ⟨-4, 16⟩

/-- The text of a number. A double that is no finite number is written as null. -/
def Number.text : Number → String
  | .int n => toString n
  | .float x => (Decimal.render numberLayout x).getD "null"

/-- How a character stands inside a quoted text: the quote, the backslash and the control characters
are escaped, all others stand for themselves. -/
def escape (c : Char) : List Char :=
  if c = '"' then ['\\', '"']
  else if c = '\\' then ['\\', '\\']
  else if c = '\n' then ['\\', 'n']
  else if c = '\r' then ['\\', 'r']
  else if c = '\t' then ['\\', 't']
  else if c = '\x08' then ['\\', 'b']
  else if c = '\x0c' then ['\\', 'f']
  else if c.toNat < 0x20 then
    ['\\', 'u', '0', '0', Hex.digit (c.toNat / 16), Hex.digit (c.toNat % 16)]
  else [c]

/-- A text between quotes. -/
def quote (s : String) : String :=
  String.ofList ('"' :: s.toList.flatMap escape ++ ['"'])

mutual

/-- The text of a value on one line, without blanks. -/
def compress : Json → String
  | .null => "null"
  | .bool b => if b then "true" else "false"
  | .num n => n.text
  | .str s => quote s
  | .arr items => "[" ++ ",".intercalate (compressItems items) ++ "]"
  | .obj members => "\x7b" ++ ",".intercalate (compressMembers members) ++ "\x7d"

/-- The texts of the items of an array. -/
def compressItems : List Json → List String
  | [] => []
  | j :: rest => compress j :: compressItems rest

/-- The texts of the members of an object. -/
def compressMembers : List (String × Json) → List String
  | [] => []
  | (key, j) :: rest => (quote key ++ ":" ++ compress j) :: compressMembers rest

end

/-- A new line with `depth` steps of two blanks. -/
def newline (depth : Nat) : String := String.ofList ('\n' :: List.replicate (2 * depth) ' ')

/-- Texts between an opening and a closing bracket, each on a line of its own; nothing between the
brackets if there is no text. -/
def bracket (depth : Nat) (opening closing : String) (texts : List String) : String :=
  if texts.isEmpty then opening ++ closing
  else
    opening ++ newline (depth + 1) ++ ("," ++ newline (depth + 1)).intercalate texts ++
      newline depth ++ closing

mutual

/-- The text of a value on many lines, inside `depth` brackets. -/
def prettyAt (depth : Nat) : Json → String
  | .arr items => bracket depth "[" "]" (prettyItems (depth + 1) items)
  | .obj members => bracket depth "\x7b" "\x7d" (prettyMembers (depth + 1) members)
  | .null => "null"
  | .bool b => if b then "true" else "false"
  | .num n => n.text
  | .str s => quote s

/-- The texts of the items of an array. -/
def prettyItems (depth : Nat) : List Json → List String
  | [] => []
  | j :: rest => prettyAt depth j :: prettyItems depth rest

/-- The texts of the members of an object. -/
def prettyMembers (depth : Nat) : List (String × Json) → List String
  | [] => []
  | (key, j) :: rest => (quote key ++ ": " ++ prettyAt depth j) :: prettyMembers depth rest

end

/-- The text of a value on many lines, two blanks for each step. -/
def pretty (j : Json) : String := prettyAt 0 j

end Json

end TokenAudit
