/-! # Settings

The thresholds and limits that an audit works with, each with its usual value. Times are in
milliseconds, shares in percent.

* `LinkPolicy` — what becomes of a balance that is observed again;
* `Settings`, whose default value holds the usual settings. -/

namespace TokenAudit

/-- What becomes of the balance linked to an address and a token when it is observed again. -/
inductive LinkPolicy
  /-- The balance observed first is kept. -/
  | firstWins
  /-- The balance observed last is kept. -/
  | latestWins
  deriving DecidableEq, Repr

/-- The thresholds and limits of an audit. -/
structure Settings where
  /-- Code with more bits of entropy for each byte counts as obfuscated. -/
  entropyThreshold : Float := 7.5
  /-- The points that each flag costs. -/
  flagPenalty : Nat := 15
  /-- How many mnemonics a report keeps. -/
  opcodeTraceLimit : Nat := 100
  /-- How many blocks back from the head a scan starts when no start is given. -/
  lookbackBlocks : Nat := 100000
  /-- How many blocks one request for logs covers. -/
  chunkSize : Nat := 5000
  /-- The pause after each request for logs. -/
  chunkPacing : Nat := 100
  /-- The time that one call to the ledger may take. -/
  callTimeout : Nat := 10000
  /-- How often a failed request for logs is repeated. -/
  chunkRetries : Nat := 2
  /-- How many requests for logs run at once. -/
  maxConcurrentChunks : Nat := 1
  /-- How many holders a snapshot lists when the caller does not say. -/
  topN : Nat := 10
  /-- Above this share, the listed holders together are whales. -/
  whaleThreshold : Float := 80.0
  /-- Above this share, one holder owns the majority. -/
  majorityThreshold : Float := 50.0
  /-- Up to this number of holders the distribution is low. -/
  lowDistributionFloor : Nat := 50
  /-- What becomes of a balance that is observed again. -/
  linkPolicy : LinkPolicy := .firstWins
  /-- Below this score the advice is to stay away. -/
  noGoBelow : Nat := 30
  /-- Below this score the advice is to look closer. -/
  eddBelow : Nat := 70

instance : Inhabited Settings := ⟨{}⟩

end TokenAudit
