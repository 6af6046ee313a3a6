import TokenAudit.Code.Report
import TokenAudit.Registry.Uid
import TokenAudit.Scan.Snapshot
import TokenAudit.Time.Moment

/-! # Entries of the registry

The registry keeps what was found out about accounts over time. An account belongs to a **holder**,
a holder's account has for each token a **link** with its balance, and every analysis of a token is
kept.

* `Holder`, `AddressRecord`, `Link` — who holds what;
* `LinkOutcome`, `LinkReport` — what linking did;
* `ContractAnalysis`, `HolderAnalysis` — the analyses. -/

namespace TokenAudit

/-- Somebody who owns accounts. -/
structure Holder where
  id : Uid
  /-- A name to show, not a key. -/
  name : String
  createdAt : Moment
  deriving DecidableEq, Repr

/-- An account and the holder that it belongs to. -/
structure AddressRecord where
  id : Uid
  /-- The holder. -/
  holderId : Uid
  /-- The account. -/
  address : Address
  createdAt : Moment
  deriving DecidableEq, Repr

/-- The balance of an account in a token. -/
structure Link where
  id : Uid
  /-- The record of the account. -/
  addressId : Uid
  /-- The token. -/
  token : Address
  /-- The balance. -/
  balance : Nat
  createdAt : Moment
  updatedAt : Moment
  deriving DecidableEq, Repr

/-- What became of a link. -/
inductive LinkOutcome
  | created
  | unchanged
  | updated
  deriving DecidableEq, Repr

/-- Every outcome once. -/
def LinkOutcome.all : List LinkOutcome := [.created, .unchanged, .updated]

/-- The name of an outcome. -/
def LinkOutcome.name : LinkOutcome → String
  | .created => "created"
  | .unchanged => "unchanged"
  | .updated => "updated"

/-- What linking a holder did. -/
structure LinkReport where
  /-- The holder. -/
  holderId : Uid
  /-- The record of the account. -/
  addressId : Uid
  /-- Whether the holder is new. -/
  newIdentity : Bool
  /-- What became of the link. -/
  link : LinkOutcome
  deriving DecidableEq, Repr

/-- An analysis of a token's code. -/
structure ContractAnalysis where
  id : Uid
  token : Address
  report : Code.Report
  /-- The rules by which it was made. -/
  engineVersion : String
  analyzedAt : Moment

/-- An analysis of a token's holders. -/
structure HolderAnalysis where
  id : Uid
  token : Address
  snapshot : Snapshot
  /-- The rules by which it was made. -/
  engineVersion : String
  createdAt : Moment

end TokenAudit
