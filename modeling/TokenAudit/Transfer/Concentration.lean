import TokenAudit.Decimal.Shortest
import TokenAudit.Settings
import TokenAudit.Transfer.Replay
import TokenAudit.Word

/-! # Holders and concentration

An account with a balance above zero is a **holder**. Holders are ranked by balance, the greatest
first; of two with one balance the lower address comes first.

* `HolderBalance` and `rankHolders` — the ranking;
* `Concentration` and `concentrate` — the share of the listed holders, and of the first, in all;
* `Anomaly` and `findAnomalies` — what stands out. -/

namespace TokenAudit

/-- A holder and what it holds. -/
structure HolderBalance where
  /-- The account. -/
  address : Address
  /-- How much it holds. -/
  balance : Nat
  deriving DecidableEq, Repr

/-- Whether the first of two holders ranks no lower than the second. -/
def HolderBalance.outranks (a b : HolderBalance) : Bool :=
  b.balance < a.balance || (a.balance == b.balance && decide (a.address ≤ b.address))

/-- The holders among the accounts with their balances, ranked. -/
def rankHolders (balances : List (Address × Int)) : List HolderBalance :=
  ((balances.filter fun (_, b) => 0 < b).map fun (a, b) => ⟨a, b.toNat⟩).mergeSort
    HolderBalance.outranks

/-- The ranked holders of a replay. -/
def Replay.holders (r : Replay) : List HolderBalance := rankHolders r.balances.entries

/-! ## Shares -/

/-- What holders hold together, as far as 256 bits can say. -/
def sumBalances (holders : List HolderBalance) : Nat :=
  holders.foldl (fun sum h => min Word.last (sum + h.balance)) 0

/-- A number of 256 bits as a double, put together from four parts of 64 bits, the greatest
first. -/
def toDouble (n : Nat) : Float :=
  [3, 2, 1, 0].foldl
    (fun acc part => acc * 18446744073709551616.0 + (UInt64.ofNat (n >>> (64 * part))).toFloat) 0.0

/-- A share in percent, rounded to two places. -/
def percent (part whole : Nat) : Float :=
  Decimal.roundToCents (toDouble part / toDouble whole * 100.0)

/-- How much is in few hands. -/
structure Concentration where
  /-- What all holders hold together, or one if that is nothing. -/
  totalSupply : Nat
  /-- The share of the listed holders in percent. -/
  centralizationScore : Float
  /-- The share of the first holder in percent. -/
  topHolderShare : Float

/-- The concentration of ranked holders of whom the first ones, `top`, are listed. -/
def concentrate (ranked top : List HolderBalance) : Concentration :=
  let total := max 1 (sumBalances ranked)
  { totalSupply := total
    centralizationScore := percent (sumBalances top) total
    topHolderShare :=
      match ranked with
      | [] => 0.0
      | first :: _ => percent first.balance total }

/-! ## Anomalies -/

/-- What can stand out in a distribution. -/
inductive Anomaly
  /-- The listed holders own nearly all. -/
  | whaleOwned
  /-- There are few holders. -/
  | lowDistribution
  /-- One holder owns more than the rest. -/
  | majorityOwnedByOneWallet
  deriving DecidableEq, Repr

/-- Every anomaly once, in order. -/
def Anomaly.all : List Anomaly := [.whaleOwned, .lowDistribution, .majorityOwnedByOneWallet]

/-- The name of an anomaly. -/
def Anomaly.name : Anomaly → String
  | .whaleOwned => "whale_owned"
  | .lowDistribution => "low_distribution"
  | .majorityOwnedByOneWallet => "majority_owned_by_one_wallet"

/-- The anomalies of a distribution among a number of holders. -/
def findAnomalies (figures : Concentration) (holders : Nat) (settings : Settings) : List Anomaly :=
  (if settings.whaleThreshold < figures.centralizationScore then [.whaleOwned] else []) ++
  (if holders ≤ settings.lowDistributionFloor then [.lowDistribution] else []) ++
  (if settings.majorityThreshold < figures.topHolderShare then [.majorityOwnedByOneWallet] else [])

end TokenAudit
