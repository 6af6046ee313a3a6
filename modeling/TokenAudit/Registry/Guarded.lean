import TokenAudit.Registry.Basic

/-! # Guarded registries

A registry some of whose operations are out of order.

* `Registry.Method` — the operations that can be out of order;
* `Guard` — which ones are, and how looking up accounts goes wrong;
* `Registry.guarded` — a registry behind a guard. -/

namespace TokenAudit

/-- The operations of a registry that can fail. -/
inductive Registry.Method
  | findAddress | bind | findHolder | linkToken | findLink
  | holderCount | addressCount | linkCount
  | appendContract | appendHolders | contractAnalyses | holderAnalyses
  | saveProfile | findProfile
  deriving DecidableEq, Repr

/-- The operations by the names that they go by outside. -/
def Registry.Method.names : List (String × Registry.Method) :=
  [("find_address", .findAddress), ("create_holder_with_address", .bind),
   ("find_holder", .findHolder), ("link_token", .linkToken), ("find_link", .findLink),
   ("holder_count", .holderCount), ("address_count", .addressCount), ("link_count", .linkCount),
   ("append_contract_analysis", .appendContract), ("append_holder_analysis", .appendHolders),
   ("contract_analyses", .contractAnalyses), ("holder_analyses", .holderAnalyses),
   ("upsert_profile", .saveProfile), ("get_profile", .findProfile)]

/-- What is out of order in a registry. -/
structure Guard where
  /-- The operations that fail. -/
  offline : List Registry.Method := []
  /-- The accounts that cannot be looked up. -/
  locked : List Address := []
  /-- Whether looking up an account finds nothing, although it may be bound. -/
  isBlind : Bool := false
  deriving DecidableEq, Repr, Inhabited

namespace Guard

variable {ρ α : Type}

/-- An operation behind a guard. -/
def pass (guard : Guard) (method : Registry.Method) (action : Action ρ α) : Action ρ α :=
  if guard.offline.contains method then throw ⟨.storeError, "store offline"⟩ else action

/-- Looking up an account behind a guard. -/
def lookUp (guard : Guard) (address : Address) (action : Action ρ (Option AddressRecord)) :
    Action ρ (Option AddressRecord) :=
  guard.pass .findAddress <|
    if guard.locked.contains address then throw ⟨.storeError, "address locked"⟩
    else if guard.isBlind then return none
    else action

end Guard

/-- A registry behind a guard. -/
def Registry.guarded {ρ : Type} (r : Registry ρ) (guard : Guard) : Registry ρ where
  findAddress address := guard.lookUp address (r.findAddress address)
  newHolder := r.newHolder
  bind holder address := guard.pass .bind (r.bind holder address)
  findHolder id := guard.pass .findHolder (r.findHolder id)
  linkToken addressId token balance policy :=
    guard.pass .linkToken (r.linkToken addressId token balance policy)
  findLink addressId token := guard.pass .findLink (r.findLink addressId token)
  holderCount := guard.pass .holderCount r.holderCount
  addressCount := guard.pass .addressCount r.addressCount
  linkCount := guard.pass .linkCount r.linkCount
  appendContract token report := guard.pass .appendContract (r.appendContract token report)
  appendHolders token snapshot := guard.pass .appendHolders (r.appendHolders token snapshot)
  contractAnalyses token := guard.pass .contractAnalyses (r.contractAnalyses token)
  holderAnalyses token := guard.pass .holderAnalyses (r.holderAnalyses token)
  saveProfile profile := guard.pass .saveProfile (r.saveProfile profile)
  findProfile token := guard.pass .findProfile (r.findProfile token)

end TokenAudit
