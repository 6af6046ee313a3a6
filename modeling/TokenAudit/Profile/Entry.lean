import TokenAudit.Json.Value
import TokenAudit.Time.Moment
import TokenAudit.Transfer.Concentration

/-! # Profiles

What is said about a token as a whole: its names, the score of its code, what was flagged, and a
**recommendation**.

* `TokenMetadata` — what a token says about itself;
* `Recommendation` and `recommend` — the advice;
* `Profile` — all of it. -/

namespace TokenAudit

/-- What a token says about itself, as far as it does. -/
structure TokenMetadata where
  name : Option String := none
  symbol : Option String := none
  decimals : Option Nat := none
  deriving DecidableEq, Repr, Inhabited

/-- The advice on a token. -/
inductive Recommendation
  /-- Nothing speaks against it. -/
  | go
  /-- Stay away. -/
  | noGo
  /-- Look closer. -/
  | enhancedDueDiligence
  /-- There is none yet. -/
  | pending
  deriving DecidableEq, Repr

instance : Inhabited Recommendation := ⟨.pending⟩

namespace Recommendation

/-- Every recommendation once. -/
def all : List Recommendation := [.go, .noGo, .enhancedDueDiligence, .pending]

/-- The name in records. -/
def name : Recommendation → String
  | .go => "go"
  | .noGo => "no_go"
  | .enhancedDueDiligence => "enhanced_due_diligence"
  | .pending => "pending"

/-- The name for people. -/
def title : Recommendation → String
  | .go => "GO"
  | .noGo => "NO GO"
  | .enhancedDueDiligence => "Enhanced Due Diligence"
  | .pending => "Pending"

end Recommendation

/-- The advice for a score of the code and what stands out among the holders. If nothing is known
about the holders, the advice is as if one of them owned the majority. -/
def recommend (score : Nat) (anomalies : Option (List Anomaly)) (settings : Settings) :
    Recommendation :=
  if score < settings.noGoBelow then .noGo
  else
    let majorityOwned :=
      match anomalies with
      | some anomalies => anomalies.contains .majorityOwnedByOneWallet
      | none => true
    if score < settings.eddBelow || majorityOwned then .enhancedDueDiligence else .go

/-- What is said about a token as a whole. -/
structure Profile where
  /-- The token. -/
  token : Address
  /-- What it says about itself. -/
  metadata : TokenMetadata
  /-- The points of its code out of a hundred. -/
  riskScore : Nat
  /-- The advice. -/
  recommendation : Recommendation
  /-- The names of what was flagged. -/
  flags : List String
  /-- The findings by area, in the order of the areas' names. -/
  modules : List (String × Json)
  /-- When this was last said. -/
  updatedAt : Moment

namespace Profile

/-- The profile of a token about which nothing is known. -/
def pending (token : Address) (now : Moment) : Profile where
  token
  metadata := {}
  riskScore := 0
  recommendation := .pending
  flags := []
  modules := []
  updatedAt := now

end Profile

end TokenAudit
