import TokenAudit.Identity
import TokenAudit.Registry.Basic
import TokenAudit.Registry.DisplayName
import TokenAudit.Table

/-! # Registries in memory

A registry whose state is held in tables. Identifiers are given out in turn, so that each is new.

* `Memory` — the tables;
* `Memory.registry` — the registry on them, of which no operation fails. -/

namespace TokenAudit

/-- The state of a registry in memory. -/
structure Memory where
  /-- Holders by their identifiers. -/
  holders : Table Uid Holder := .empty
  /-- The records of accounts. -/
  addresses : Table Address AddressRecord := .empty
  /-- Links by the record of the account and the token. -/
  links : Table (Uid × Address) Link := .empty
  /-- The analyses of code by token. -/
  contracts : Table Address (List ContractAnalysis) := .empty
  /-- The analyses of holders by token. -/
  snapshots : Table Address (List HolderAnalysis) := .empty
  /-- The profiles by token. -/
  profiles : Table Address Profile := .empty
  /-- How many identifiers were given out. -/
  issued : Nat := 0
  /-- The time that new entries are stamped with. -/
  now : Moment := ⟨0, 0⟩

namespace Memory

instance : Inhabited Memory := ⟨{}⟩

/-- The identifier to be given out next. -/
def nextId (m : Memory) : Uid := ⟨m.issued⟩

/-- The state after the next identifier was given out. -/
def issue (m : Memory) : Memory := { m with issued := m.issued + 1 }

/-- A new holder with a name thought up for it. It is not entered yet. -/
def newHolder (m : Memory) : Holder × Memory :=
  (⟨m.nextId, displayName m.issued, m.now⟩, m.issue)

/-- Binds an account to a holder, which is entered with it, unless the account is bound already. -/
def bind (holder : Holder) (address : Address) (m : Memory) : Binding × Memory :=
  match m.addresses.get? address with
  | some record => (.existing record, m)
  | none =>
    let record : AddressRecord := ⟨m.nextId, holder.id, address, m.now⟩
    (.created record,
      { m.issue with
        holders := m.holders.set holder.id holder
        addresses := m.addresses.set address record })

/-- Notes the balance of an account in a token. -/
def linkToken (addressId : Uid) (token : Address) (balance : Nat) (policy : LinkPolicy)
    (m : Memory) : LinkOutcome × Memory :=
  match m.links.get? (addressId, token) with
  | none =>
    (.created,
      { m.issue with
        links := m.links.set (addressId, token)
          ⟨m.nextId, addressId, token, balance, m.now, m.now⟩ })
  | some link =>
    if policy = .firstWins ∨ link.balance = balance then (.unchanged, m)
    else
      (.updated,
        { m with
          links := m.links.set (addressId, token) { link with balance, updatedAt := m.now } })

/-- The analyses of a token's code, the oldest first. -/
def contractAnalyses (m : Memory) (token : Address) : List ContractAnalysis :=
  (m.contracts.get? token).getD []

/-- The analyses of a token's holders, the oldest first. -/
def holderAnalyses (m : Memory) (token : Address) : List HolderAnalysis :=
  (m.snapshots.get? token).getD []

/-- Adds an analysis of a token's code. -/
def appendContract (token : Address) (report : Code.Report) (m : Memory) :
    ContractAnalysis × Memory :=
  let analysis : ContractAnalysis := ⟨m.nextId, token, report, Identity.engine, m.now⟩
  (analysis,
    { m.issue with contracts := m.contracts.set token (m.contractAnalyses token ++ [analysis]) })

/-- Adds an analysis of a token's holders. -/
def appendHolders (token : Address) (snapshot : Snapshot) (m : Memory) : HolderAnalysis × Memory :=
  let analysis : HolderAnalysis := ⟨m.nextId, token, snapshot, Identity.engine, m.now⟩
  (analysis,
    { m.issue with snapshots := m.snapshots.set token (m.holderAnalyses token ++ [analysis]) })

/-- Puts a profile in the place of the token's old one. -/
def saveProfile (profile : Profile) (m : Memory) : Memory :=
  { m with profiles := m.profiles.set profile.token profile }

/-- A question that changes nothing. -/
def answering {α : Type} (question : Memory → α) : Action Memory α := fun m => (.ok (question m), m)

/-- A change that has a result. -/
def changing {α : Type} (change : Memory → α × Memory) : Action Memory α := fun m =>
  let (a, m) := change m
  (.ok a, m)

/-- The registry in memory. -/
def registry : Registry Memory where
  findAddress address := answering fun m => m.addresses.get? address
  newHolder := newHolder
  bind holder address := changing (bind holder address)
  findHolder id := answering fun m => m.holders.get? id
  linkToken addressId token balance policy := changing (linkToken addressId token balance policy)
  findLink addressId token := answering fun m => m.links.get? (addressId, token)
  holderCount := answering fun m => m.holders.size
  addressCount := answering fun m => m.addresses.size
  linkCount := answering fun m => m.links.size
  appendContract token report := changing (appendContract token report)
  appendHolders token snapshot := changing (appendHolders token snapshot)
  contractAnalyses token := answering fun m => m.contractAnalyses token
  holderAnalyses token := answering fun m => m.holderAnalyses token
  saveProfile profile := changing fun m => ((), m.saveProfile profile)
  findProfile token := answering fun m => m.profiles.get? token

end Memory

end TokenAudit
