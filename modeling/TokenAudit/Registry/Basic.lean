import TokenAudit.Ledger.Basic
import TokenAudit.Profile.Entry
import TokenAudit.Registry.Entry

/-! # Registries

A registry keeps holders with their accounts, the links of accounts to tokens, analyses and
profiles. Any of its operations can fail, except that a new holder can always be thought up.

* `Binding` — what binding an account to a holder did;
* `Registry` — the operations, on a state of type `ρ`. -/

namespace TokenAudit

/-- What binding an account to a holder did. -/
inductive Binding
  /-- The account is bound to the new holder. -/
  | created (record : AddressRecord)
  /-- The account was bound already, and nothing was written. -/
  | existing (record : AddressRecord)
  deriving DecidableEq, Repr

/-- The record of the account, new or old. -/
def Binding.record : Binding → AddressRecord
  | .created record => record
  | .existing record => record

/-- Whether the account was bound by this. -/
def Binding.isNew : Binding → Bool
  | .created _ => true
  | .existing _ => false

/-- The operations of a registry. -/
structure Registry (ρ : Type) where
  /-- The record of an account. -/
  findAddress : Address → Action ρ (Option AddressRecord)
  /-- A holder that is not in the registry yet. -/
  newHolder : StateM ρ Holder
  /-- Binds an account to a new holder, unless it is bound. -/
  bind : Holder → Address → Action ρ Binding
  /-- A holder by its identifier. -/
  findHolder : Uid → Action ρ (Option Holder)
  /-- Notes the balance of an account, given by its record, in a token. -/
  linkToken : Uid → Address → Nat → LinkPolicy → Action ρ LinkOutcome
  /-- The link of an account, given by its record, to a token. -/
  findLink : Uid → Address → Action ρ (Option Link)
  /-- How many holders there are. -/
  holderCount : Action ρ Nat
  /-- How many accounts are bound. -/
  addressCount : Action ρ Nat
  /-- How many links there are. -/
  linkCount : Action ρ Nat
  /-- Adds an analysis of a token's code. -/
  appendContract : Address → Code.Report → Action ρ ContractAnalysis
  /-- Adds an analysis of a token's holders. -/
  appendHolders : Address → Snapshot → Action ρ HolderAnalysis
  /-- The analyses of a token's code, the oldest first. -/
  contractAnalyses : Address → Action ρ (List ContractAnalysis)
  /-- The analyses of a token's holders, the oldest first. -/
  holderAnalyses : Address → Action ρ (List HolderAnalysis)
  /-- Puts a profile in the place of the token's old one. -/
  saveProfile : Profile → Action ρ Unit
  /-- The profile of a token. -/
  findProfile : Address → Action ρ (Option Profile)

end TokenAudit
