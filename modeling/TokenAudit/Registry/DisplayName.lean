import TokenAudit.Text.Hex

/-! # Display names

A holder that is found on the ledger has no name of its own and gets one to show: an adjective, a
scientist and five hexadecimal digits. Names are not keys, and two holders may share one.

* `displayName` — the name for a number;
* `isDisplayName` — whether a name could be one. -/

namespace TokenAudit

/-- The adjectives of names. -/
def adjectives : List String :=
  ["silent", "fuzzy", "tiny", "wild", "sleepy", "noisy", "brave", "elegant", "mighty", "zesty",
   "shiny", "weird", "bright", "slow", "quick", "lazy", "funny", "grumpy", "loopy", "snappy",
   "cranky", "fancy", "nimble", "silly", "charming", "bouncy", "quirky", "jazzy", "dreamy",
   "witty", "zany", "crafty", "dizzy", "jolly", "plucky", "spunky", "wobbly", "spicy", "clumsy",
   "frisky"]

/-- The scientists of names. -/
def scientists : List String :=
  ["turing", "curie", "lovelace", "einstein", "fermat", "newton", "hopper", "bohr", "planck",
   "darwin", "pasteur", "tesla", "gauss", "galilei", "archimedes", "feynman", "kepler", "dirac",
   "leonardo", "copernicus", "berners", "torvalds", "godel", "bernoulli", "noether",
   "mandelbrot", "heisenberg", "babbage", "knuth", "von_neumann", "da_vinci", "ada", "euclid",
   "euler", "marconi", "volta", "ohm", "boole"]

/-- The item of a list that a number falls on when the list is gone through again and again. -/
def pickFrom (items : List String) (n : Nat) (fallback : String) : String :=
  (items[n % items.length]?).getD fallback

/-- The name for a number. -/
def displayName (n : Nat) : String :=
  let digits := String.ofList (Hex.padded 5 (n * 7919 % 0x100000))
  pickFrom adjectives (n * 31) "anonymous" ++ "_" ++ pickFrom scientists (n * 17) "holder" ++ "_" ++
    digits

/-- Whether a name has the form of those that are thought up: two words at least and five digits. -/
def isDisplayName (name : String) : Bool :=
  match (name.splitOn "_").reverse with
  | digits :: words =>
    2 ≤ words.length && digits.length == 5 &&
      digits.all fun c => ('0' ≤ c && c ≤ '9') || ('a' ≤ c && c ≤ 'f')
  | [] => false

end TokenAudit
