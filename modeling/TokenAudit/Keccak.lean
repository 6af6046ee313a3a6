/-! # Keccak-256

The hash function of the ledger: the Keccak sponge with a rate of 136 bytes, the padding
`0x01 … 0x80` and an output of 32 bytes. The state is twenty-five words of 64 bits; the word in
column `x` and row `y` has the index `x + 5 * y`.

* `Keccak.permute` — the permutation of the state, twenty-four rounds;
* `Keccak.hash` — the digest of a byte string. -/

namespace TokenAudit.Keccak

/-- The state of the sponge. -/
abbrev State := Vector UInt64 25

/-- The constants that break the symmetry of the rounds. -/
def roundConstants : List UInt64 :=
  [0x0000000000000001, 0x0000000000008082, 0x800000000000808A, 0x8000000080008000,
   0x000000000000808B, 0x0000000080000001, 0x8000000080008081, 0x8000000000008009,
   0x000000000000008A, 0x0000000000000088, 0x0000000080008009, 0x000000008000000A,
   0x000000008000808B, 0x800000000000008B, 0x8000000000008089, 0x8000000000008003,
   0x8000000000008002, 0x8000000000000080, 0x000000000000800A, 0x800000008000000A,
   0x8000000080008081, 0x8000000000008080, 0x0000000080000001, 0x8000000080008008]

/-- How far each word is rotated. -/
def rotations : Vector UInt64 25 :=
  #v[0, 1, 62, 28, 27, 36, 44, 6, 55, 20, 3, 10, 43, 25, 39, 41, 45, 15, 21, 8, 18, 2, 61, 56, 14]

/-- A word rotated to the left by fewer than 64 places. -/
def rotate (w k : UInt64) : UInt64 := if k = 0 then w else (w <<< k) ||| (w >>> (64 - k))

/-- The parity of a column. -/
def parity (s : State) (x : Nat) : UInt64 :=
  s[x % 5] ^^^ s[x % 5 + 5] ^^^ s[x % 5 + 10] ^^^ s[x % 5 + 15] ^^^ s[x % 5 + 20]

/-- Mixes the parities of the two neighbouring columns into every word. -/
def mixColumns (s : State) : State :=
  let parities : Vector UInt64 5 := Vector.ofFn fun x => parity s x
  Vector.ofFn fun i =>
    s[i] ^^^ parities[(i.val + 4) % 5] ^^^ rotate parities[(i.val + 1) % 5] 1

/-- Rotates the words and moves each to its new place. -/
def scatter (s : State) : State :=
  Vector.ofFn fun i =>
    let column := i.val % 5
    let row := i.val / 5
    let source := (column + 3 * row) % 5 + 5 * column
    have h : source < 25 := by omega
    rotate s[source] rotations[source]

/-- Combines each word with the next two of its row. -/
def mixRows (s : State) : State :=
  Vector.ofFn fun i =>
    let row := i.val / 5 * 5
    s[i] ^^^ (~~~(s[row + (i.val + 1) % 5]) &&& s[row + (i.val + 2) % 5])

/-- One round. -/
def round (s : State) (constant : UInt64) : State :=
  let mixed := mixRows (scatter (mixColumns s))
  mixed.set 0 (mixed[0] ^^^ constant)

/-- The permutation of the sponge. -/
def permute (s : State) : State := roundConstants.foldl round s

/-- The number of bytes taken in between two permutations. -/
def rate : Nat := 136

/-- The message filled up to a multiple of the rate. -/
def pad (message : List UInt8) : List UInt8 :=
  let missing := rate - message.length % rate
  if missing = 1 then message ++ [0x81]
  else message ++ 0x01 :: (List.replicate (missing - 2) 0x00 ++ [0x80])

/-- The word spelled by eight bytes, the least significant first. -/
def word (bytes : List UInt8) : UInt64 := bytes.foldr (fun b acc => (acc <<< 8) ||| b.toUInt64) 0

/-- The eight bytes of a word, the least significant first. -/
def wordBytes (w : UInt64) : List UInt8 :=
  (List.range 8).map fun i => (w >>> (8 * UInt64.ofNat i)).toUInt8

/-- Takes one block of `rate` bytes into the state. -/
def absorb (s : State) (block : Array UInt8) : State :=
  permute (Vector.ofFn fun i =>
    if i.val < 17 then s[i] ^^^ word (block.extract (8 * i.val) (8 * i.val + 8)).toList else s[i])

/-- Takes `count` blocks of a padded message into the state, from the byte `start` on. -/
def absorbBlocks (bytes : Array UInt8) : (count start : Nat) → State → State
  | 0, _, s => s
  | count + 1, start, s =>
    absorbBlocks bytes count (start + rate) (absorb s (bytes.extract start (start + rate)))

/-- The digest of a message: 32 bytes. -/
def hash (message : List UInt8) : List UInt8 :=
  let padded := (pad message).toArray
  let final := absorbBlocks padded (padded.size / rate) 0 (Vector.replicate 25 0)
  wordBytes final[0] ++ wordBytes final[1] ++ wordBytes final[2] ++ wordBytes final[3]

end TokenAudit.Keccak
