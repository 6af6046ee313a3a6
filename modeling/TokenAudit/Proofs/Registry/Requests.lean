import TokenAudit.Proofs.Table
import TokenAudit.Registry.Memory

/-! # Requests to a registry in memory

Nothing but requests changes a registry, and each of them does one of a few things to its entries.
So what all of these keep holds of every registry that came from an empty one, whatever was asked of
it.

Which identifiers are given out, and when, is left open: before a request the next identifier and
the time may be any. Identifiers only have to be new where one is entered.

* `Registry.Request`, `Registry.Response`, `Registry.Request.ask` — a request to any registry, and
  its answer;
* `Memory.Change` — what a request can do to a registry in memory, and `Memory.ask_change`, that
  each does it;
* `Memory.Admits` — whether the identifiers that a request enters are new;
* `Memory.Ran` — requests served one after the other. -/

namespace TokenAudit

namespace Registry

/-- A request to a registry. -/
inductive Request
  | findAddress (address : Address)
  | bind (holder : Holder) (address : Address)
  | findHolder (id : Uid)
  | linkToken (addressId : Uid) (token : Address) (balance : Nat) (policy : LinkPolicy)
  | findLink (addressId : Uid) (token : Address)
  | holderCount
  | addressCount
  | linkCount
  | appendContract (token : Address) (report : Code.Report)
  | appendHolders (token : Address) (snapshot : Snapshot)
  | contractAnalyses (token : Address)
  | holderAnalyses (token : Address)
  | saveProfile (profile : Profile)
  | findProfile (token : Address)

/-- The answer to a request. -/
inductive Response
  | record (found : Option AddressRecord)
  | binding (binding : Binding)
  | holder (found : Option Holder)
  | outcome (outcome : LinkOutcome)
  | link (found : Option Link)
  | count (n : Nat)
  | contract (analysis : ContractAnalysis)
  | snapshot (analysis : HolderAnalysis)
  | contracts (analyses : List ContractAnalysis)
  | snapshots (analyses : List HolderAnalysis)
  | saved
  | profile (found : Option Profile)

namespace Request

/-- Makes a request. -/
def ask {ρ : Type} (registry : Registry ρ) : Request → Action ρ Response
  | .findAddress address => .record <$> registry.findAddress address
  | .bind holder address => .binding <$> registry.bind holder address
  | .findHolder id => .holder <$> registry.findHolder id
  | .linkToken addressId token balance policy =>
    .outcome <$> registry.linkToken addressId token balance policy
  | .findLink addressId token => .link <$> registry.findLink addressId token
  | .holderCount => .count <$> registry.holderCount
  | .addressCount => .count <$> registry.addressCount
  | .linkCount => .count <$> registry.linkCount
  | .appendContract token report => .contract <$> registry.appendContract token report
  | .appendHolders token snapshot => .snapshot <$> registry.appendHolders token snapshot
  | .contractAnalyses token => .contracts <$> registry.contractAnalyses token
  | .holderAnalyses token => .snapshots <$> registry.holderAnalyses token
  | .saveProfile profile => (fun _ => .saved) <$> registry.saveProfile profile
  | .findProfile token => .profile <$> registry.findProfile token

/-- Whether a request only asks for what is there. -/
def IsQuestion : Request → Prop
  | .findAddress _ | .findHolder _ | .findLink .. | .holderCount | .addressCount | .linkCount
  | .contractAnalyses _ | .holderAnalyses _ | .findProfile _ => True
  | .bind .. | .linkToken .. | .appendContract .. | .appendHolders .. | .saveProfile _ => False

end Request

end Registry

open Registry (Request Response)

namespace Memory

/-! ## One request -/

/-- What a request can do to a registry in memory. -/
inductive Change (m : Memory) : Request → Response → Memory → Prop
  /-- A question changes nothing. -/
  | asked {request : Request} (response : Response) (hquestion : request.IsQuestion) :
    Change m request response m
  /-- An account that is not bound is bound to the holder, which is entered with it. -/
  | bound (holder : Holder) {address : Address} (hfree : m.addresses.get? address = none) :
    Change m (.bind holder address) (.binding (.created ⟨m.nextId, holder.id, address, m.now⟩))
      { m.issue with
        holders := m.holders.set holder.id holder
        addresses := m.addresses.set address ⟨m.nextId, holder.id, address, m.now⟩ }
  /-- An account that is bound stays as it is. -/
  | found (holder : Holder) {address : Address} {record : AddressRecord}
    (hbound : m.addresses.get? address = some record) :
    Change m (.bind holder address) (.binding (.existing record)) m
  /-- A link that is not there is made. -/
  | linked {addressId : Uid} {token : Address} (balance : Nat) (policy : LinkPolicy)
    (hnew : m.links.get? (addressId, token) = none) :
    Change m (.linkToken addressId token balance policy) (.outcome .created)
      { m.issue with
        links := m.links.set (addressId, token)
          ⟨m.nextId, addressId, token, balance, m.now, m.now⟩ }
  /-- A link that is there keeps its balance. -/
  | kept {addressId : Uid} {token : Address} {balance : Nat} {policy : LinkPolicy} {link : Link}
    (hlink : m.links.get? (addressId, token) = some link)
    (hkeep : policy = .firstWins ∨ link.balance = balance) :
    Change m (.linkToken addressId token balance policy) (.outcome .unchanged) m
  /-- A link that is there gets a new balance. -/
  | relinked {addressId : Uid} {token : Address} {balance : Nat} {policy : LinkPolicy} {link : Link}
    (hlink : m.links.get? (addressId, token) = some link)
    (hchange : ¬ (policy = .firstWins ∨ link.balance = balance)) :
    Change m (.linkToken addressId token balance policy) (.outcome .updated)
      { m with
        links := m.links.set (addressId, token) { link with balance, updatedAt := m.now } }
  /-- An analysis of code comes after the others of its token. -/
  | contract {token : Address} {report : Code.Report} {analysis : ContractAnalysis}
    (htoken : analysis.token = token) (hreport : analysis.report = report) :
    Change m (.appendContract token report) (.contract analysis)
      { m.issue with contracts := m.contracts.set token (m.contractAnalyses token ++ [analysis]) }
  /-- An analysis of holders comes after the others of its token. -/
  | snapshot {token : Address} {found : Snapshot} {analysis : HolderAnalysis}
    (htoken : analysis.token = token) (hfound : analysis.snapshot = found) :
    Change m (.appendHolders token found) (.snapshot analysis)
      { m.issue with snapshots := m.snapshots.set token (m.holderAnalyses token ++ [analysis]) }
  /-- A profile takes the place of the token's old one. -/
  | saved (profile : Profile) : Change m (.saveProfile profile) .saved (m.saveProfile profile)

/-- An account that is not bound gets a record, and its holder is entered with it. -/
theorem bind_of_free (holder : Holder) {address : Address} {m : Memory}
    (hfree : m.addresses.get? address = none) :
    bind holder address m =
      (.created ⟨m.nextId, holder.id, address, m.now⟩,
        { m.issue with
          holders := m.holders.set holder.id holder
          addresses := m.addresses.set address ⟨m.nextId, holder.id, address, m.now⟩ }) := by
  rw [bind, hfree]

/-- An account that is bound keeps its record, and nothing is entered. -/
theorem bind_of_bound (holder : Holder) {address : Address} {m : Memory} {record : AddressRecord}
    (hbound : m.addresses.get? address = some record) :
    bind holder address m = (.existing record, m) := by
  rw [bind, hbound]

/-- In memory no binding fails. -/
theorem registry_bind (holder : Holder) (address : Address) (m : Memory) :
    registry.bind holder address m =
      (.ok (bind holder address m).1, (bind holder address m).2) :=
  rfl

/-- Binding an account is one of the changes that requests make. -/
theorem change_bind (holder : Holder) (address : Address) (m : Memory) :
    m.Change (.bind holder address) (.binding (bind holder address m).1)
      (bind holder address m).2 := by
  cases haddress : m.addresses.get? address with
  | none =>
    rw [bind_of_free holder haddress]
    exact .bound holder haddress
  | some record =>
    rw [bind_of_bound holder haddress]
    exact .found holder haddress

/-- Noting a balance is one of the changes that requests make. -/
theorem change_linkToken (addressId : Uid) (token : Address) (balance : Nat) (policy : LinkPolicy)
    (m : Memory) :
    m.Change (.linkToken addressId token balance policy)
      (.outcome (linkToken addressId token balance policy m).1)
      (linkToken addressId token balance policy m).2 := by
  rw [linkToken]
  cases hlink : m.links.get? (addressId, token) with
  | none => exact .linked balance policy hlink
  | some link =>
    dsimp only
    by_cases hkeep : policy = .firstWins ∨ link.balance = balance
    · rw [if_pos hkeep]
      exact .kept hlink hkeep
    · rw [if_neg hkeep]
      exact .relinked hlink hkeep

/-- **Every request is answered, and does one of these things.** -/
theorem ask_change (request : Request) (m : Memory) :
    ∃ response m', request.ask registry m = (.ok response, m') ∧ m.Change request response m' := by
  cases request with
  | bind holder address => exact ⟨_, _, rfl, change_bind holder address m⟩
  | linkToken addressId token balance policy =>
    exact ⟨_, _, rfl, change_linkToken addressId token balance policy m⟩
  | appendContract token report => exact ⟨_, _, rfl, .contract rfl rfl⟩
  | appendHolders token found => exact ⟨_, _, rfl, .snapshot rfl rfl⟩
  | saveProfile profile => exact ⟨_, _, rfl, .saved profile⟩
  | findAddress address => exact ⟨_, _, rfl, .asked _ trivial⟩
  | findHolder id => exact ⟨_, _, rfl, .asked _ trivial⟩
  | findLink addressId token => exact ⟨_, _, rfl, .asked _ trivial⟩
  | holderCount => exact ⟨_, _, rfl, .asked _ trivial⟩
  | addressCount => exact ⟨_, _, rfl, .asked _ trivial⟩
  | linkCount => exact ⟨_, _, rfl, .asked _ trivial⟩
  | contractAnalyses token => exact ⟨_, _, rfl, .asked _ trivial⟩
  | holderAnalyses token => exact ⟨_, _, rfl, .asked _ trivial⟩
  | findProfile token => exact ⟨_, _, rfl, .asked _ trivial⟩

/-! ## Requests one after the other -/

/-- Whether an identifier is that of a bound account, or one under which a link stands. -/
def Uses (m : Memory) (id : Uid) : Prop :=
  (∃ record ∈ m.addresses.values, record.id = id) ∨ ∃ key ∈ m.links.keys, key.1 = id

instance (m : Memory) (id : Uid) : Decidable (m.Uses id) := inferInstanceAs (Decidable (_ ∨ _))

/-- Whether the identifiers that a request enters are new: when an account is bound, that of the
holder and that of the account's record. -/
def Admits (m : Memory) : Request → Prop
  | .bind holder address =>
    m.addresses.get? address = none → m.holders.get? holder.id = none ∧ ¬ m.Uses m.nextId
  | _ => True

/-- The same entries, when another identifier is to be given out next, and at another time. -/
def supplied (m : Memory) (issued : Nat) (now : Moment) : Memory := { m with issued, now }

/-- Requests that are served one after the other, with their answers, lead from one registry to
another. -/
inductive Ran (m : Memory) : List (Request × Response) → Memory → Prop
  | start : Ran m [] m
  | serve {events : List (Request × Response)} {m₁ m₂ : Memory} {request : Request}
    {response : Response} (hran : Ran m events m₁) (issued : Nat) (now : Moment)
    (hadmits : (m₁.supplied issued now).Admits request)
    (hask : request.ask registry (m₁.supplied issued now) = (.ok response, m₂)) :
    Ran m (events ++ [(request, response)]) m₂

/-- What an answered request has done. -/
theorem change_of_ask {request : Request} {response : Response} {m m' : Memory}
    (h : request.ask registry m = (.ok response, m')) : m.Change request response m' := by
  obtain ⟨response', m'', hask, hchange⟩ := ask_change request m
  rw [hask] at h
  cases h
  exact hchange

/-- **What every request keeps, a run keeps.** What holds of a registry and of no requests, holds
after a run if neither the next identifier nor the time matters to it, and every request that may be
served keeps it. -/
theorem ran_induction {I : List (Request × Response) → Memory → Prop} {m m' : Memory}
    {events : List (Request × Response)} (hstart : I [] m)
    (hsupplied : ∀ events m issued now, I events m → I events (m.supplied issued now))
    (hchange : ∀ events m request response m', m.Admits request → m.Change request response m' →
      I events m → I (events ++ [(request, response)]) m')
    (hran : m.Ran events m') : I events m' := by
  induction hran with
  | start => exact hstart
  | serve _ issued now hadmits hask ih =>
    exact hchange _ _ _ _ _ hadmits (change_of_ask hask) (hsupplied _ _ issued now ih)

end Memory

end TokenAudit
