import TokenAudit.Ledger.Quantity

/-! # Logs

What contracts leave behind on the ledger. The topics and the data are kept as the texts they came
in, since not every contract keeps to the forms.

* `Log` — one record;
* `LogQuery` — which records are asked for. -/

namespace TokenAudit

/-- One record of the ledger. -/
structure Log where
  /-- Words by which records are found, the first one naming the event. -/
  topics : List String
  /-- The payload. -/
  data : String
  /-- The block it stands in, if it is in one yet. -/
  blockNumber : Option Nat
  deriving DecidableEq, Repr, Inhabited

/-- Asks for the records of one contract with one first topic in a range of blocks, both ends
counted. -/
structure LogQuery where
  /-- The contract. -/
  address : Address
  /-- The first topic, in any letter case. -/
  topic : String
  /-- The first block. -/
  first : Nat
  /-- The last block. -/
  last : Nat
  deriving DecidableEq, Repr

end TokenAudit
