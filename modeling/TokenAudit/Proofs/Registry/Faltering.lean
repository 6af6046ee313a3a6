import TokenAudit.Proofs.Registry.Consistency
import TokenAudit.Registry.Guarded
import TokenAudit.Registry.Linking

/-! # Registries that falter

Any operation of a registry can fail, at any time. An operation that fails changes no entry, and one
that does not fail does what it does in memory, except that a lookup can miss an account. So what a
run of requests to a registry in memory keeps is kept here too.

Linking holders is such a run: it thinks up holders, binds accounts to them and notes balances in
one token. It touches no other token and no analysis or profile.

* `Registry.Falters` — a registry that falters, and `guarded_falters`: a guarded one does;
* `Memory.HasSupply` — whether the identifiers that are still to be given out are new;
* `Memory.KeptByLinking` — what each step of linking keeps, and `linkHolders_keeps`, that linking
  then keeps it;
* `Memory.OnlyLinked` — one registry is another one with more holders and other balances in a
  token. -/

namespace TokenAudit

open Registry (Request Response)

variable {ρ : Type}

/-! ## Operations that can fail -/

/-- A registry that holds its entries in memory and falters. Besides the entries, which `entries`
gives, its state can hold what decides on the failures to come. -/
structure Registry.Falters (registry : Registry ρ) (entries : ρ → Memory) : Prop where
  /-- An operation that fails changes no entry. -/
  failed : ∀ (request : Request) {s s' : ρ} {fault : Fault},
    request.ask registry s = (.error fault, s') → entries s' = entries s
  /-- An operation that does not fail does what it does in memory, or it is a lookup that misses. -/
  served : ∀ (request : Request) {s s' : ρ} {response : Response},
    request.ask registry s = (.ok response, s') →
      request.ask Memory.registry (entries s) = (.ok response, entries s') ∨
        (∃ address, request = .findAddress address) ∧ response = .record none ∧
          entries s' = entries s
  /-- Thinking up a holder does not fail. -/
  newHolder : ∀ s : ρ,
    (entries s).newHolder = ((registry.newHolder s).1, entries (registry.newHolder s).2)

/-- An operation behind a guard fails without doing anything, or is what it is without the guard. -/
theorem Guard.pass_cases {α : Type} (guard : Guard) (method : Registry.Method) (action : Action ρ α)
    (s : ρ) :
    (∃ fault, guard.pass method action s = (.error fault, s)) ∨
      guard.pass method action s = action s := by
  rw [Guard.pass]
  by_cases hoffline : guard.offline.contains method = true
  · rw [if_pos hoffline]
    exact Or.inl ⟨_, rfl⟩
  · rw [if_neg hoffline]
    exact Or.inr rfl

/-- Looking up an account behind a guard can miss it besides. -/
theorem Guard.lookUp_cases (guard : Guard) (address : Address)
    (action : Action ρ (Option AddressRecord)) (s : ρ) :
    (∃ fault, guard.lookUp address action s = (.error fault, s)) ∨
      guard.lookUp address action s = (.ok none, s) ∨
        guard.lookUp address action s = action s := by
  rw [Guard.lookUp]
  rcases guard.pass_cases .findAddress _ s with hfailed | hpassed
  · exact Or.inl hfailed
  · rw [hpassed]
    by_cases hlocked : guard.locked.contains address = true
    · rw [if_pos hlocked]
      exact Or.inl ⟨_, rfl⟩
    · rw [if_neg hlocked]
      cases guard.isBlind with
      | true => exact Or.inr (Or.inl rfl)
      | false => exact Or.inr (Or.inr rfl)

/-- A request to a guarded registry fails, or is a lookup that misses, or is answered without the
guard. -/
theorem Registry.Request.ask_guarded_cases (r : Registry ρ) (guard : Guard) (request : Request)
    (s : ρ) :
    (∃ fault, request.ask (r.guarded guard) s = (.error fault, s)) ∨
      (∃ address, request = .findAddress address) ∧
        request.ask (r.guarded guard) s = (.ok (.record none), s) ∨
      request.ask (r.guarded guard) s = request.ask r s := by
  have hmap : ∀ {α : Type} (method : Registry.Method) (action : Action ρ α) (wrap : α → Response),
      (∃ fault, (wrap <$> guard.pass method action : Action ρ Response) s = (.error fault, s)) ∨
        (wrap <$> guard.pass method action : Action ρ Response) s = (wrap <$> action) s := by
    intro α method action wrap
    rcases guard.pass_cases method action s with ⟨fault, hfailed⟩ | hpassed
    · exact Or.inl ⟨fault, Action.map_of_error hfailed wrap⟩
    · exact Or.inr (Action.map_congr hpassed wrap)
  cases request with
  | findAddress address =>
    rcases guard.lookUp_cases address (r.findAddress address) s
      with ⟨fault, hfailed⟩ | hmissed | hfound
    · exact Or.inl ⟨fault, Action.map_of_error hfailed _⟩
    · exact Or.inr (Or.inl ⟨⟨address, rfl⟩, Action.map_of_ok hmissed _⟩)
    · exact Or.inr (Or.inr (Action.map_congr hfound _))
  | _ => exact (hmap _ _ _).imp_right Or.inr

/-- **A guarded registry in memory falters**, whatever is out of order in it. -/
theorem guarded_falters (guard : Guard) : (Memory.registry.guarded guard).Falters id where
  failed request s s' fault h := by
    rcases request.ask_guarded_cases Memory.registry guard s
      with ⟨fault', hfailed⟩ | ⟨-, hmissed⟩ | hpassed
    · rw [hfailed] at h
      exact (congrArg Prod.snd h).symm
    · rw [hmissed] at h
      cases h
    · -- in memory no request fails
      obtain ⟨response, m', hserved, -⟩ := Memory.ask_change request s
      rw [hpassed, hserved] at h
      cases h
  served request s s' response h := by
    rcases request.ask_guarded_cases Memory.registry guard s
      with ⟨fault', hfailed⟩ | ⟨haddress, hmissed⟩ | hpassed
    · rw [hfailed] at h
      cases h
    · rw [hmissed] at h
      cases h
      exact Or.inr ⟨haddress, rfl, rfl⟩
    · exact Or.inl (hpassed ▸ h)
  newHolder _ := rfl

namespace Registry.Falters

variable {registry : Registry ρ} {entries : ρ → Memory} {s s' : ρ}

/-- What an answered request has done. -/
theorem change (h : registry.Falters entries) (request : Request) {response : Response}
    (hask : request.ask registry s = (.ok response, s')) :
    (entries s).Change request response (entries s') := by
  rcases h.served request hask with hserved | ⟨⟨address, rfl⟩, rfl, heq⟩
  · exact Memory.change_of_ask hserved
  · rw [heq]
    exact .asked _ trivial

/-- A request that is answered, and is no lookup of an account, does what it does in memory. -/
theorem served_exactly (h : registry.Falters entries) (request : Request) {response : Response}
    (hlookup : ∀ address, request ≠ .findAddress address)
    (hask : request.ask registry s = (.ok response, s')) :
    request.ask Memory.registry (entries s) = (.ok response, entries s') :=
  (h.served request hask).resolve_right fun ⟨⟨address, heq⟩, _⟩ => hlookup address heq

/-- A holder that is thought up is the one thought up in memory. -/
theorem newHolder_ok (h : registry.Falters entries) (s : ρ) :
    ∃ s', (liftM registry.newHolder : Action ρ Holder) s = (.ok (entries s).newHolder.1, s') ∧
      entries s' = (entries s).issue := by
  have hnew := h.newHolder s
  refine ⟨(registry.newHolder s).2, ?_, (congrArg Prod.snd hnew).symm⟩
  rw [show (entries s).newHolder.1 = (registry.newHolder s).1 from congrArg Prod.fst hnew]
  rfl

/-- A profile that is found is the one that is kept. -/
theorem findProfile_ok (h : registry.Falters entries) {token : Address} {known : Option Profile}
    (hrun : registry.findProfile token s = (.ok known, s')) :
    entries s' = entries s ∧ known = (entries s).profiles.get? token := by
  have hserved := h.served_exactly (.findProfile token)
    (fun _ heq => by cases heq) (Action.map_of_ok hrun _)
  injection hserved with hresponse hentries
  cases hresponse
  exact ⟨hentries.symm, rfl⟩

/-- An account that is found has the record that is kept. -/
theorem findAddress_ok (h : registry.Falters entries) {address : Address}
    {found : Option AddressRecord} (hrun : registry.findAddress address s = (.ok found, s')) :
    entries s' = entries s ∧ ∀ record ∈ found,
      (entries s).addresses.get? address = some record := by
  rcases h.served (.findAddress address) (Action.map_of_ok hrun _) with
    hserved | ⟨-, hmissed, heq⟩
  · injection hserved with hresponse hentries
    cases hresponse
    exact ⟨hentries.symm, fun record hrecord => hrecord⟩
  · cases hmissed
    exact ⟨heq, fun record hrecord => by cases hrecord⟩

/-- A binding that is made is the one made in memory. -/
theorem bind_ok (h : registry.Falters entries) {holder : Holder} {address : Address}
    {binding : Binding} (hrun : registry.bind holder address s = (.ok binding, s')) :
    (entries s).bind holder address = (binding, entries s') := by
  have hserved := h.served_exactly (.bind holder address)
    (fun _ heq => by cases heq) (Action.map_of_ok hrun _)
  injection hserved with hresponse hentries
  cases hresponse
  exact Prod.ext rfl hentries

/-- A balance that is noted is noted as in memory. -/
theorem linkToken_ok (h : registry.Falters entries) {addressId : Uid} {token : Address}
    {balance : Nat} {policy : LinkPolicy} {outcome : LinkOutcome}
    (hrun : registry.linkToken addressId token balance policy s = (.ok outcome, s')) :
    (entries s).linkToken addressId token balance policy = (outcome, entries s') := by
  have hserved := h.served_exactly (.linkToken addressId token balance policy)
    (fun _ heq => by cases heq) (Action.map_of_ok hrun _)
  injection hserved with hresponse hentries
  cases hresponse
  exact Prod.ext rfl hentries

/-- An analysis of code that is taken comes after the others of its token. -/
theorem appendContract_ok (h : registry.Falters entries) {token : Address} {report : Code.Report}
    {analysis : ContractAnalysis}
    (hrun : registry.appendContract token report s = (.ok analysis, s')) :
    (entries s).appendContract token report = (analysis, entries s') := by
  have hserved := h.served_exactly (.appendContract token report)
    (fun _ heq => by cases heq) (Action.map_of_ok hrun _)
  injection hserved with hresponse hentries
  cases hresponse
  exact Prod.ext rfl hentries

/-- An analysis of holders that is taken comes after the others of its token. -/
theorem appendHolders_ok (h : registry.Falters entries) {token : Address} {snapshot : Snapshot}
    {analysis : HolderAnalysis}
    (hrun : registry.appendHolders token snapshot s = (.ok analysis, s')) :
    (entries s).appendHolders token snapshot = (analysis, entries s') := by
  have hserved := h.served_exactly (.appendHolders token snapshot)
    (fun _ heq => by cases heq) (Action.map_of_ok hrun _)
  injection hserved with hresponse hentries
  cases hresponse
  exact Prod.ext rfl hentries

/-- A profile that is taken is kept. -/
theorem saveProfile_ok (h : registry.Falters entries) {profile : Profile} {u : Unit}
    (hrun : registry.saveProfile profile s = (.ok u, s')) :
    entries s' = (entries s).saveProfile profile := by
  have hserved := h.served_exactly (.saveProfile profile)
    (fun _ heq => by cases heq) (Action.map_of_ok hrun _)
  exact (congrArg Prod.snd hserved).symm

end Registry.Falters

/-! ## Linking -/

/-- Where there are no holders, nothing is done to link them. -/
theorem linkHolders_nil (registry : Registry ρ) (policy : LinkPolicy) (token : Address) (s : ρ) :
    linkHolders registry policy token [] s = ([], s) := rfl

/-- Holders are linked one after the other, whatever became of those before. -/
theorem linkHolders_cons_snd (registry : Registry ρ) (policy : LinkPolicy) (token : Address)
    (holder : HolderBalance) (rest : List HolderBalance) (s : ρ) :
    (linkHolders registry policy token (holder :: rest) s).2 =
      (linkHolders registry policy token rest
        (linkHolder registry policy token holder.address holder.balance s).2).2 := by
  rw [linkHolders]
  simp only [bind, StateT.bind]
  rcases hrun : (linkHolder registry policy token holder.address holder.balance).run s with
    ⟨fault | report, s'⟩
  · rw [show linkHolder registry policy token holder.address holder.balance s = _ from hrun]
    rfl
  · rw [show linkHolder registry policy token holder.address holder.balance s = _ from hrun]
    rfl

namespace Memory

/-- What each step of linking holders to a token keeps. -/
structure KeptByLinking (token : Address) (I : Memory → Prop) : Prop where
  /-- A holder is thought up. -/
  issue : ∀ m, I m → I m.issue
  /-- A holder that was just thought up is to get an account. -/
  bind : ∀ m address binding m', I m →
    m.issue.Change (.bind m.newHolder.1 address) (.binding binding) m' → I m'
  /-- The balance of an account that is bound is noted. -/
  link : ∀ m address record balance policy outcome m', I m →
    m.addresses.get? address = some record →
    m.Change (.linkToken record.id token balance policy) (.outcome outcome) m' → I m'

/-- The record that binding an account comes to is that of the account. -/
theorem Change.get?_of_bind {m m' : Memory} {holder : Holder} {address : Address}
    {binding : Binding} (h : m.Change (.bind holder address) (.binding binding) m') :
    m'.addresses.get? address = some binding.record := by
  cases h with
  | asked _ hquestion => cases hquestion
  | bound => exact Table.get?_set_self ..
  | found _ hbound => exact hbound

end Memory

open Memory (KeptByLinking)

namespace Registry.Falters

variable {registry : Registry ρ} {entries : ρ → Memory} {token : Address} {I : Memory → Prop}

/-- Coming to the record of an account keeps what each step of linking keeps, and the record is that
of the account. -/
theorem identify_keeps (h : registry.Falters entries) (hI : KeptByLinking token I)
    {address : Address} {found : Option AddressRecord} {s : ρ} (hs : I (entries s))
    (hfound : ∀ record ∈ found, (entries s).addresses.get? address = some record) :
    let (result, s') := identify registry address found s
    I (entries s') ∧ ∀ record isNew, result = .ok (record, isNew) →
      (entries s').addresses.get? address = some record := by
  cases found with
  | some record =>
    refine ⟨hs, fun record' isNew heq => ?_⟩
    cases heq
    exact hfound record rfl
  | none =>
    -- identifiers are given out even if the account cannot be bound then
    obtain ⟨s₁, hlifted, hissue⟩ := h.newHolder_ok s
    rw [identify, Action.bind_of_ok hlifted]
    rcases hbind : registry.bind (entries s).newHolder.1 address s₁ with ⟨fault | binding, s'⟩
    · rw [Action.bind_of_error hbind]
      have hkept := h.failed (.bind (entries s).newHolder.1 address) (Action.map_of_error hbind _)
      refine ⟨?_, fun record isNew heq => by cases heq⟩
      rw [hkept, hissue]
      exact hI.issue _ hs
    · rw [Action.bind_of_ok hbind]
      have hchange := h.change (.bind (entries s).newHolder.1 address)
        (Action.map_of_ok hbind _)
      rw [hissue] at hchange
      refine ⟨hI.bind _ _ _ _ hs hchange, fun record isNew heq => ?_⟩
      cases heq
      exact hchange.get?_of_bind

/-- **Linking a holder keeps what each of its steps keeps**, however it ends. -/
theorem linkHolder_keeps (h : registry.Falters entries) (hI : KeptByLinking token I)
    (policy : LinkPolicy) (address : Address) (balance : Nat) {s : ρ} (hs : I (entries s)) :
    I (entries (linkHolder registry policy token address balance s).2) := by
  rw [linkHolder]
  -- each of the three calls fails and changes nothing, or does as in memory
  rcases hfind : registry.findAddress address s with ⟨fault | found, s₁⟩
  · rw [Action.bind_of_error hfind, h.failed (.findAddress address) (Action.map_of_error hfind _)]
    exact hs
  rw [Action.bind_of_ok hfind]
  obtain ⟨hsame, hfound⟩ := h.findAddress_ok hfind
  rw [← hsame] at hs hfound
  have hidentify := h.identify_keeps hI hs hfound
  rcases hrun : identify registry address found s₁ with ⟨fault | ⟨record, isNew⟩, s₂⟩
  · rw [Action.bind_of_error hrun]
    rw [hrun] at hidentify
    exact hidentify.1
  rw [Action.bind_of_ok hrun]
  rw [hrun] at hidentify
  obtain ⟨hs₂, hrecord⟩ := hidentify
  dsimp only
  rcases hlink : registry.linkToken record.id token balance policy s₂ with ⟨fault | outcome, s₃⟩
  · rw [Action.bind_of_error hlink,
      h.failed (.linkToken record.id token balance policy) (Action.map_of_error hlink _)]
    exact hs₂
  · rw [Action.bind_of_ok hlink]
    exact hI.link _ _ _ _ _ _ _ hs₂ (hrecord record isNew rfl)
      (h.change (.linkToken record.id token balance policy) (Action.map_of_ok hlink _))

/-- **Linking holders keeps what each of its steps keeps.** -/
theorem linkHolders_keeps (h : registry.Falters entries) (hI : KeptByLinking token I)
    (policy : LinkPolicy) (holders : List HolderBalance) {s : ρ} (hs : I (entries s)) :
    I (entries (linkHolders registry policy token holders s).2) := by
  induction holders generalizing s with
  | nil => exact hs
  | cons holder rest ih =>
    rw [linkHolders_cons_snd]
    exact ih (h.linkHolder_keeps hI policy holder.address holder.balance hs)

end Registry.Falters

namespace Memory

/-- One registry is another one with more holders, and with other balances in a token. -/
structure OnlyLinked (token : Address) (m m' : Memory) : Prop where
  contracts : m'.contracts = m.contracts
  snapshots : m'.snapshots = m.snapshots
  profiles : m'.profiles = m.profiles
  /-- Links to other tokens are the same. -/
  links : ∀ id other, other ≠ token → m'.links.get? (id, other) = m.links.get? (id, other)

/-- A registry that is left alone has at most been linked in. -/
theorem OnlyLinked.refl (token : Address) (m : Memory) : m.OnlyLinked token m :=
  ⟨rfl, rfl, rfl, fun _ _ _ => rfl⟩

section OnlyLinked

variable {token : Address} {m m' : Memory}

/-- Linking leaves the analyses of codes alone. -/
theorem OnlyLinked.contractAnalyses_eq (h : m.OnlyLinked token m') (other : Address) :
    m'.contractAnalyses other = m.contractAnalyses other := by
  rw [contractAnalyses, h.contracts, contractAnalyses]

/-- Linking leaves the analyses of holders alone. -/
theorem OnlyLinked.holderAnalyses_eq (h : m.OnlyLinked token m') (other : Address) :
    m'.holderAnalyses other = m.holderAnalyses other := by
  rw [holderAnalyses, h.snapshots, holderAnalyses]

end OnlyLinked

/-- Linking does nothing but link. -/
theorem OnlyLinked.keptByLinking (token : Address) (start : Memory) :
    KeptByLinking token (start.OnlyLinked token) where
  issue m h := ⟨h.contracts, h.snapshots, h.profiles, h.links⟩
  bind m address binding m' h hchange := by
    cases hchange with
    | asked _ hquestion => cases hquestion
    | bound => exact ⟨h.contracts, h.snapshots, h.profiles, h.links⟩
    | found => exact ⟨h.contracts, h.snapshots, h.profiles, h.links⟩
  link m address record balance policy outcome m' h hrecord hchange := by
    -- a link that is noted stands under the token, so it is not one to another token
    have hother : ∀ (link : Link) id other, other ≠ token →
        (m.links.set (record.id, token) link).get? (id, other) = start.links.get? (id, other) := by
      intro link id other hne
      have hkey : (id, other) ≠ (record.id, token) := fun heq => hne (congrArg Prod.snd heq)
      rw [Table.get?_set, if_neg hkey, h.links id other hne]
    cases hchange with
    | asked _ hquestion => cases hquestion
    | linked => exact ⟨h.contracts, h.snapshots, h.profiles, hother _⟩
    | kept => exact h
    | relinked => exact ⟨h.contracts, h.snapshots, h.profiles, hother _⟩

/-! ### Identifiers that are new -/

/-- Whether the identifiers that are still to be given out are new: none is a holder's, an
account's, or one under which a link stands. -/
def HasSupply (m : Memory) : Prop := ∀ n, m.issued ≤ n → m.holders.get? ⟨n⟩ = none ∧ ¬ m.Uses ⟨n⟩

/-- In an empty registry every identifier is new. -/
theorem hasSupply_empty : HasSupply {} :=
  fun _ _ => ⟨rfl, by simp [Uses, Table.values, Table.keys, Table.empty]⟩

/-- The identifier of a bound account was given out. -/
theorem HasSupply.id_lt {m : Memory} (h : m.HasSupply) {address : Address} {record : AddressRecord}
    (hrecord : m.addresses.get? address = some record) : record.id.toNat < m.issued := by
  by_contra hnot
  exact (h record.id.toNat (Nat.not_lt.1 hnot)).2
    (Or.inl ⟨record, Table.mem_values_of_get? hrecord, rfl⟩)

/-- The other identifiers that are still to be given out are new too. -/
theorem HasSupply.issue {m : Memory} (h : m.HasSupply) : m.issue.HasSupply :=
  fun n hn => h n (Nat.le_of_succ_le hn)

/-- Binding an account to a holder uses no identifier that is still to be given out, if that of the
holder was given out. -/
theorem HasSupply.bound {m : Memory} (h : m.HasSupply) {holder : Holder}
    (hholder : holder.id.toNat < m.issued) (address : Address) :
    HasSupply { m.issue with
      holders := m.holders.set holder.id holder
      addresses := m.addresses.set address ⟨m.nextId, holder.id, address, m.now⟩ } := by
  intro n hn
  have hlt : m.issued < n := hn
  obtain ⟨hfree, hunused⟩ := h n (Nat.le_of_lt hlt)
  constructor
  · have hne : (⟨n⟩ : Uid) ≠ holder.id := by
      rintro heq
      rw [← heq] at hholder
      exact absurd hholder (Nat.not_lt.2 (Nat.le_of_lt hlt))
    show (m.holders.set holder.id holder).get? ⟨n⟩ = none
    rw [Table.get?_set, if_neg hne, hfree]
  · rintro (⟨record, hrecord, hid⟩ | hlink)
    · rcases Table.mem_values_set hrecord with rfl | hold
      · exact absurd (congrArg Uid.toNat hid) (Nat.ne_of_lt hlt)
      · exact hunused (Or.inl ⟨record, hold, hid⟩)
    · exact hunused (Or.inr hlink)

/-- Noting a balance uses no identifier that is still to be given out, if that of the account was
given out. -/
theorem HasSupply.noted {m m' : Memory} (h : m.HasSupply) {addressId : Uid} {token : Address}
    {balance : Nat} {policy : LinkPolicy} {outcome : LinkOutcome} (hid : addressId.toNat < m.issued)
    (hchange : m.Change (.linkToken addressId token balance policy) (.outcome outcome) m') :
    m'.HasSupply := by
  -- a link stands under an identifier that was given out, and uses none of those to come
  have hset : ∀ (link : Link) n, m.issued ≤ n → ¬ m.Uses ⟨n⟩ →
      ¬ ∃ key ∈ (m.links.set (addressId, token) link).keys, key.1 = ⟨n⟩ := by
    rintro link n hn hunused ⟨key, hkey, heq⟩
    rcases Table.mem_keys_set.1 hkey with rfl | hold
    · rw [show addressId = ⟨n⟩ from heq] at hid
      exact absurd hid (Nat.not_lt.2 hn)
    · exact hunused (Or.inr ⟨key, hold, heq⟩)
  cases hchange with
  | asked _ hquestion => cases hquestion
  | linked =>
    intro n hn
    obtain ⟨hfree, hunused⟩ := h n (Nat.le_of_succ_le hn)
    exact ⟨hfree, fun huses => huses.elim (fun hrecord => hunused (Or.inl hrecord))
      (hset _ n (Nat.le_of_succ_le hn) hunused)⟩
  | kept => exact h
  | relinked =>
    intro n hn
    obtain ⟨hfree, hunused⟩ := h n hn
    exact ⟨hfree, fun huses => huses.elim (fun hrecord => hunused (Or.inl hrecord))
      (hset _ n hn hunused)⟩

/-- **Linking takes nothing away**, and goes on giving out new identifiers. -/
theorem Persists.keptByLinking (token : Address) (start : Memory) :
    KeptByLinking token fun m => start.Persists m ∧ m.HasSupply where
  issue m := fun ⟨hpersists, hsupply⟩ => ⟨hpersists.supplied (m.issued + 1) m.now, hsupply.issue⟩
  bind m address binding m' := by
    rintro ⟨hpersists, hsupply⟩ hchange
    -- the holder has the identifier given out last, and its account will have the next one
    have hadmits : m.issue.Admits (.bind m.newHolder.1 address) :=
      fun _ => ⟨(hsupply m.issued le_rfl).1, (hsupply (m.issued + 1) (Nat.le_succ _)).2⟩
    refine ⟨(hpersists.supplied (m.issued + 1) m.now).trans (.of_change hchange hadmits), ?_⟩
    cases hchange with
    | asked _ hquestion => cases hquestion
    | bound => exact hsupply.issue.bound (Nat.lt_succ_self m.issued) address
    | found => exact hsupply.issue
  link m address record balance policy outcome m' := by
    rintro ⟨hpersists, hsupply⟩ hrecord hchange
    exact ⟨hpersists.trans (.of_change hchange trivial),
      hsupply.noted (hsupply.id_lt hrecord) hchange⟩

end Memory

end TokenAudit
