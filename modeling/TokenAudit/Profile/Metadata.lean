import TokenAudit.Ledger.Abi
import TokenAudit.Ledger.Basic
import TokenAudit.Profile.Entry

/-! # Metadata

A token is asked for its name, its symbol and its decimals, one after the other. What it does not
answer, or not in the proper form, stays unknown.

* `fetchMetadata` — asks all three. -/

namespace TokenAudit

variable {σ : Type}

/-- The functions that a token is asked. -/
inductive Getter
  | name | symbol | decimals
  deriving DecidableEq, Repr

/-- The call of a function without arguments: its selector. -/
def Getter.selector : Getter → List UInt8
  | .name => [0x06, 0xFD, 0xDE, 0x03]
  | .symbol => [0x95, 0xD8, 0x9B, 0x41]
  | .decimals => [0x31, 0x3C, 0xE5, 0x67]

/-- Asks a token for one thing: the answer, if there is one in the proper form. -/
def askToken {α : Type} (ledger : Ledger σ) (token : Address) (getter : Getter)
    (decode : List UInt8 → Option α) : StateM (Clocked σ) (Option α) := do
  match ← (Ledger.ask (ledger.call token getter.selector)).run with
  | .ok result => return decode result
  | .error _ => return none

/-- What a token says about itself. -/
def fetchMetadata (ledger : Ledger σ) (token : Address) : StateM (Clocked σ) TokenMetadata := do
  let name ← askToken ledger token .name Abi.decodeText?
  let symbol ← askToken ledger token .symbol Abi.decodeText?
  let decimals ← askToken ledger token .decimals Abi.decodeByte?
  return { name, symbol, decimals }

end TokenAudit
