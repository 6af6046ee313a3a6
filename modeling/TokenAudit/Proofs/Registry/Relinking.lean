import TokenAudit.Proofs.Registry.Faltering

/-! # Linking again

Linking holders in memory gives each of them a record and a link to the token, and touches nothing
else. Which balance is noted then is for the policy to say. What is linked already, and with a
balance that the policy lets stand, is not touched when it is linked again: the second time nothing
is written at all.

* `Memory.balanceOf?` — the balance that is noted for an account, and `LinkPolicy.settle`, which one
  is to be;
* `Memory.Relinked` — what linking holders has made of a registry, with `Relinked.single` for one
  holder and `Relinked.trans` for one after the other;
* `Memory.Settled` — linking a holder again would change nothing.

Main statements: `relinked_linkHolders` and `linkHolders_of_settled`. -/

namespace TokenAudit

open Registry (Response)

/-- The balance that is to be noted for an account, if one may be noted already and another one is
reported. -/
def LinkPolicy.settle : LinkPolicy → (noted : Option Nat) → (reported : Nat) → Nat
  | .latestWins, _, reported => reported
  | .firstWins, noted, reported => noted.getD reported

namespace Memory

/-! ## Noted balances -/

/-- The balance that is noted for an account in a token. -/
def balanceOf? (m : Memory) (token address : Address) : Option Nat :=
  (m.addresses.get? address).bind fun record => (m.links.get? (record.id, token)).map Link.balance

section

variable {m : Memory} {token address : Address} {record : AddressRecord}

/-- No balance is noted for an account that is not bound. -/
theorem balanceOf?_of_free (h : m.addresses.get? address = none) :
    m.balanceOf? token address = none := by
  rw [balanceOf?, h, Option.bind_none]

/-- The balance of a bound account is that of its link. -/
theorem balanceOf?_of_bound (h : m.addresses.get? address = some record) :
    m.balanceOf? token address = (m.links.get? (record.id, token)).map Link.balance := by
  rw [balanceOf?, h, Option.bind_some]

/-- An account has a noted balance just if it is bound and linked. -/
theorem balanceOf?_eq_some_iff {balance : Nat} :
    m.balanceOf? token address = some balance ↔ ∃ record link,
      m.addresses.get? address = some record ∧ m.links.get? (record.id, token) = some link ∧
        link.balance = balance := by
  constructor
  · intro h
    obtain ⟨record, hrecord, hlink⟩ := Option.bind_eq_some_iff.1 h
    obtain ⟨link, hlink, hbalance⟩ := Option.map_eq_some_iff.1 hlink
    exact ⟨record, link, hrecord, hlink, hbalance⟩
  · rintro ⟨record, link, hrecord, hlink, rfl⟩
    rw [balanceOf?_of_bound hrecord, hlink, Option.map_some]

end

/-- Noting a balance settles which one stands, and changes no other link and no account. -/
theorem Change.of_linkToken {addressId : Uid} {token : Address} {balance : Nat}
    {policy : LinkPolicy} {response : Response} {m m' : Memory}
    (h : m.Change (.linkToken addressId token balance policy) response m') :
    m'.addresses = m.addresses ∧
      (m'.links.get? (addressId, token)).map Link.balance =
        some (policy.settle ((m.links.get? (addressId, token)).map Link.balance) balance) ∧
      ∀ key, key ≠ (addressId, token) → m'.links.get? key = m.links.get? key := by
  have hother : ∀ link key, key ≠ (addressId, token) →
      (m.links.set (addressId, token) link).get? key = m.links.get? key := by
    intro link key hkey
    rw [Table.get?_set, if_neg hkey]
  cases h with
  | asked _ hquestion => cases hquestion
  | linked _ _ hnew =>
    refine ⟨rfl, ?_, hother _⟩
    rw [Table.get?_set_self, hnew]
    cases policy <;> rfl
  | kept hlink hkeep =>
    -- the link stays; if the newest balance wins, that is because it is the noted one
    refine ⟨rfl, ?_, fun _ _ => rfl⟩
    rw [hlink]
    cases policy with
    | firstWins => rfl
    | latestWins => exact congrArg some (hkeep.resolve_left (by decide))
  | relinked hlink hchange =>
    refine ⟨rfl, ?_, hother _⟩
    rw [Table.get?_set_self]
    cases policy with
    | firstWins => exact absurd (Or.inl rfl) hchange
    | latestWins => rfl

/-- So does the operation itself. -/
theorem linkToken_spec (addressId : Uid) (token : Address) (balance : Nat) (policy : LinkPolicy)
    (m : Memory) :
    let m' := (linkToken addressId token balance policy m).2
    m'.addresses = m.addresses ∧
      (m'.links.get? (addressId, token)).map Link.balance =
        some (policy.settle ((m.links.get? (addressId, token)).map Link.balance) balance) ∧
      ∀ key, key ≠ (addressId, token) → m'.links.get? key = m.links.get? key :=
  (change_linkToken addressId token balance policy m).of_linkToken

/-! ## Linking one holder -/

/-- A registry in memory does not falter. -/
theorem falters : registry.Falters id where
  failed request s s' fault h := by
    obtain ⟨response, m', hserved, -⟩ := ask_change request s
    rw [hserved] at h
    cases h
  served _ _ _ _ h := Or.inl h
  newHolder _ := rfl

/-- Linking a holder whose account is bound notes its balance. -/
theorem linkHolder_of_bound {m : Memory} {address : Address} {record : AddressRecord}
    (h : m.addresses.get? address = some record) (policy : LinkPolicy) (token : Address)
    (balance : Nat) :
    linkHolder registry policy token address balance m =
      let noted := linkToken record.id token balance policy m
      (.ok ⟨record.holderId, record.id, false, noted.1⟩, noted.2) := by
  have hfind : registry.findAddress address m = (.ok (some record), m) := by
    rw [← h]
    rfl
  rw [linkHolder, Action.bind_of_ok hfind]
  rfl

/-- The record that an account gets with a holder who was just thought up. -/
def newRecord (m : Memory) (address : Address) : AddressRecord :=
  ⟨m.issue.nextId, m.nextId, address, m.now⟩

/-- The registry after an account got that record. -/
def bindNew (m : Memory) (address : Address) : Memory :=
  { m.issue.issue with
    holders := m.holders.set m.nextId m.newHolder.1
    addresses := m.addresses.set address (m.newRecord address) }

/-- An account that was not found is bound to a holder that is thought up for it. -/
theorem identify_none {m m' : Memory} {address : Address} {binding : Binding}
    (hbind : bind m.newHolder.1 address m.issue = (binding, m')) :
    identify registry address none m = (.ok (binding.record, binding.isNew), m') := by
  show (registry.bind m.newHolder.1 address >>= fun binding =>
    return (binding.record, binding.isNew)) m.issue = _
  rw [Action.bind_of_ok (registry_bind m.newHolder.1 address m.issue), hbind]
  rfl

/-- Linking a holder whose account is not bound binds it to a new holder and notes its balance. -/
theorem linkHolder_of_free {m : Memory} {address : Address}
    (h : m.addresses.get? address = none) (policy : LinkPolicy) (token : Address) (balance : Nat) :
    linkHolder registry policy token address balance m =
      let record := m.newRecord address
      let noted := linkToken record.id token balance policy (m.bindNew address)
      (.ok ⟨record.holderId, record.id, true, noted.1⟩, noted.2) := by
  have hfind : registry.findAddress address m = (.ok none, m) := by
    rw [← h]
    rfl
  have hfree : bind m.newHolder.1 address m.issue =
      (.created (m.newRecord address), m.bindNew address) := bind_of_free m.newHolder.1 h
  rw [linkHolder, Action.bind_of_ok hfind, Action.bind_of_ok (identify_none hfree)]
  rfl

/-- In memory every holder can be linked. -/
theorem linkHolder_fst (policy : LinkPolicy) (token address : Address) (balance : Nat)
    (m : Memory) :
    ∃ report, (linkHolder registry policy token address balance m).1 = .ok report := by
  cases h : m.addresses.get? address with
  | some record => exact ⟨_, congrArg Prod.fst (linkHolder_of_bound h policy token balance)⟩
  | none => exact ⟨_, congrArg Prod.fst (linkHolder_of_free h policy token balance)⟩

/-- So no holder is noted as one that could not be. -/
theorem linkHolders_fst_eq_nil (policy : LinkPolicy) (token : Address)
    (holders : List HolderBalance) (m : Memory) :
    (linkHolders registry policy token holders m).1 = [] := by
  induction holders generalizing m with
  | nil => rfl
  | cons holder rest ih =>
    obtain ⟨report, hreport⟩ := linkHolder_fst policy token holder.address holder.balance m
    rw [linkHolders]
    simp only [Bind.bind, StateT.bind]
    rcases hlink : (linkHolder registry policy token holder.address holder.balance).run m with
      ⟨result, m'⟩
    have hresult : result = .ok report := (congrArg Prod.fst hlink).symm.trans hreport
    rw [hresult]
    exact ih m'

/-! ## What linking holders makes of a registry -/

/-- Linking keeps the tables together, and goes on giving out new identifiers. -/
theorem Consistent.keptByLinking (token : Address) :
    KeptByLinking token fun m => m.Consistent ∧ m.HasSupply where
  issue m :=
    fun ⟨hconsistent, hsupply⟩ => ⟨hconsistent.supplied (m.issued + 1) m.now, hsupply.issue⟩
  bind m address binding m' := by
    rintro ⟨hconsistent, hsupply⟩ hchange
    -- both the holder and its record get identifiers that are not given out yet
    have hadmits : m.issue.Admits (.bind m.newHolder.1 address) :=
      fun _ => ⟨(hsupply m.issued le_rfl).1, (hsupply (m.issued + 1) (Nat.le_succ _)).2⟩
    exact ⟨(hconsistent.supplied (m.issued + 1) m.now).of_change hchange hadmits,
      ((Persists.keptByLinking token m).bind m address binding m' ⟨.refl m, hsupply⟩ hchange).2⟩
  link m address record balance policy outcome m' := by
    rintro ⟨hconsistent, hsupply⟩ hrecord hchange
    exact ⟨hconsistent.of_change hchange trivial, hsupply.noted (hsupply.id_lt hrecord) hchange⟩

/-- Linking a holder is linking the record of its account. By then the account has a record, no
other account and no link was touched, and the balance that was noted for the account is the one at
its record. -/
theorem linkHolder_of_record (policy : LinkPolicy) (token : Address) (holder : HolderBalance)
    {m : Memory} (hsupply : m.HasSupply) :
    ∃ record m₁,
      (linkHolder registry policy token holder.address holder.balance m).2 =
        (linkToken record.id token holder.balance policy m₁).2 ∧
      m₁.addresses.get? holder.address = some record ∧
      (∀ address, address ≠ holder.address → m₁.addresses.get? address = m.addresses.get? address) ∧
      m₁.links = m.links ∧
      m.balanceOf? token holder.address = (m.links.get? (record.id, token)).map Link.balance := by
  cases hbound : m.addresses.get? holder.address with
  | some record =>
    refine ⟨record, m, ?_, hbound, fun _ _ => rfl, rfl, balanceOf?_of_bound hbound⟩
    rw [linkHolder_of_bound hbound]
  | none =>
    refine ⟨m.newRecord holder.address, m.bindNew holder.address, ?_, Table.get?_set_self ..,
      fun address hne => ?_, rfl, ?_⟩
    · rw [linkHolder_of_free hbound]
    · show (m.addresses.set holder.address _).get? address = _
      rw [Table.get?_set, if_neg hne]
    · -- no link stands under the identifier of a new record
      have hfree := (not_uses_iff.1 (hsupply (m.issued + 1) (Nat.le_succ _)).2).2 token
      rw [balanceOf?_of_free hbound]
      exact (congrArg (Option.map Link.balance) hfree).symm

/-- What linking holders to a token has made of a registry. -/
structure Relinked (policy : LinkPolicy) (token : Address) (holders : List HolderBalance)
    (m m' : Memory) : Prop where
  /-- For each holder the balance is noted that the policy settles on. -/
  balances : ∀ holder ∈ holders, m'.balanceOf? token holder.address =
    some (policy.settle (m.balanceOf? token holder.address) holder.balance)
  /-- Other accounts have the records that they had. -/
  addresses : ∀ address, address ∉ holders.map HolderBalance.address →
    m'.addresses.get? address = m.addresses.get? address
  /-- Links to other tokens, and those of other records, are the same. -/
  links : ∀ id other,
    (other = token → ∀ holder ∈ holders, ∀ record,
      m'.addresses.get? holder.address = some record → record.id ≠ id) →
    m'.links.get? (id, other) = m.links.get? (id, other)
  persists : m.Persists m'
  consistent : m'.Consistent
  supply : m'.HasSupply

namespace Relinked

variable {policy : LinkPolicy} {token : Address} {holders more : List HolderBalance}
  {m m₁ m' : Memory}

/-- Linking no holders changes nothing. -/
theorem nil (policy : LinkPolicy) (token : Address) (hconsistent : m.Consistent)
    (hsupply : m.HasSupply) : Relinked policy token [] m m where
  balances _ h := absurd h List.not_mem_nil
  addresses _ _ := rfl
  links _ _ _ := rfl
  persists := .refl m
  consistent := hconsistent
  supply := hsupply

/-- The links of other accounts are the same: no two accounts have one record. -/
theorem links_of_not_mem (h : Relinked policy token holders m m') {address : Address}
    (haddress : address ∉ holders.map HolderBalance.address) {record : AddressRecord}
    (hrecord : m'.addresses.get? address = some record) (other : Address) :
    m'.links.get? (record.id, other) = m.links.get? (record.id, other) := by
  refine h.links record.id other fun _ holder hholder record' hrecord' hid => haddress ?_
  -- a listed holder with this record would be the account itself
  rw [← h.consistent.ids_apart _ _ _ _ hrecord' hrecord hid]
  exact List.mem_map_of_mem hholder

/-- The balance noted for another account is the same. -/
theorem balanceOf?_of_not_mem (h : Relinked policy token holders m m') {address : Address}
    (haddress : address ∉ holders.map HolderBalance.address) (other : Address) :
    m'.balanceOf? other address = m.balanceOf? other address := by
  have hsame := h.addresses address haddress
  cases hrecord : m.addresses.get? address with
  | none =>
    rw [hrecord] at hsame
    rw [balanceOf?_of_free hsame, balanceOf?_of_free hrecord]
  | some record =>
    rw [hrecord] at hsame
    rw [balanceOf?_of_bound hsame, balanceOf?_of_bound hrecord, h.links_of_not_mem haddress hsame]

/-- Each holder has one record and one link to the token, with the balance that the policy settles
on. -/
theorem entries_of_holder (h : Relinked policy token holders m m') {holder : HolderBalance}
    (hmem : holder ∈ holders) :
    ∃ record link,
      m'.addresses.values.filter (fun other => other.address = holder.address) = [record] ∧
      m'.links.values.filter (fun other => (other.addressId, other.token) = (record.id, token)) =
        [link] ∧
      link.balance = policy.settle (m.balanceOf? token holder.address) holder.balance := by
  obtain ⟨record, link, hrecord, hlink, hbalance⟩ :=
    balanceOf?_eq_some_iff.1 (h.balances holder hmem)
  exact ⟨record, link, h.consistent.addresses_keyed.filter_values hrecord,
    h.consistent.links_keyed.filter_values hlink, hbalance⟩

/-- **Linking one holder.** -/
theorem single (policy : LinkPolicy) (token : Address) (holder : HolderBalance)
    (hconsistent : m.Consistent) (hsupply : m.HasSupply) :
    Relinked policy token [holder] m
      (linkHolder registry policy token holder.address holder.balance m).2 := by
  have hkept := falters.linkHolder_keeps (Consistent.keptByLinking token) policy holder.address
    holder.balance ⟨hconsistent, hsupply⟩
  have hpersists := falters.linkHolder_keeps (Persists.keptByLinking token m) policy holder.address
    holder.balance ⟨.refl m, hsupply⟩
  simp only [id_eq] at hkept hpersists
  obtain ⟨record, m₁, hrun, hrecord, haddresses, hlinks, hnoted⟩ :=
    linkHolder_of_record policy token holder hsupply
  obtain ⟨haddresses', hbalance, hothers⟩ := linkToken_spec record.id token holder.balance policy m₁
  rw [hrun] at hkept hpersists ⊢
  -- noting the balance leaves the accounts as they were before it
  rw [← haddresses'] at hrecord haddresses
  refine ⟨?_, ?_, ?_, hpersists.1, hkept.1, hkept.2⟩
  · rintro holder' hmem
    rw [List.mem_singleton.1 hmem, balanceOf?_of_bound hrecord, hbalance, hlinks, hnoted]
  · intro address haddress
    exact haddresses address fun heq => haddress (by rw [heq]; simp)
  · intro id other hother
    have hkey : (id, other) ≠ (record.id, token) := by
      rintro heq
      injection heq with hid htoken
      exact hother htoken holder (List.mem_singleton_self _) record hrecord hid.symm
    rw [hothers _ hkey, hlinks]

/-- **Linking some holders after others**, of other accounts. -/
theorem trans (h : Relinked policy token holders m m₁) (h' : Relinked policy token more m₁ m')
    (hapart : ∀ holder ∈ holders, holder.address ∉ more.map HolderBalance.address)
    (hapart' : ∀ holder ∈ more, holder.address ∉ holders.map HolderBalance.address) :
    Relinked policy token (holders ++ more) m m' where
  balances holder hmem := by
    rcases List.mem_append.1 hmem with hmem | hmem
    · rw [h'.balanceOf?_of_not_mem (hapart holder hmem), h.balances holder hmem]
    · rw [h'.balances holder hmem, h.balanceOf?_of_not_mem (hapart' holder hmem)]
  addresses address haddress := by
    rw [List.map_append, List.mem_append, not_or] at haddress
    rw [h'.addresses address haddress.2, h.addresses address haddress.1]
  links id other hother := by
    -- a record that was there in between is still the one of its account
    rw [h'.links id other fun htoken holder hmem =>
        hother htoken holder (List.mem_append_right _ hmem),
      h.links id other fun htoken holder hmem record hrecord =>
        hother htoken holder (List.mem_append_left _ hmem) record
          (h'.persists.addresses _ _ hrecord)]
  persists := h.persists.trans h'.persists
  consistent := h'.consistent
  supply := h'.supply

end Relinked

/-- **Linking holders of different accounts** settles the balance of each and touches nothing
else. -/
theorem relinked_linkHolders (policy : LinkPolicy) (token : Address) {holders : List HolderBalance}
    (hnodup : (holders.map HolderBalance.address).Nodup) {m : Memory} (hconsistent : m.Consistent)
    (hsupply : m.HasSupply) :
    Relinked policy token holders m (linkHolders registry policy token holders m).2 := by
  induction holders generalizing m with
  | nil => exact .nil policy token hconsistent hsupply
  | cons holder rest ih =>
    rw [List.map_cons, List.nodup_cons] at hnodup
    have hfirst := Relinked.single policy token holder hconsistent hsupply
    have hrest := ih hnodup.2 hfirst.consistent hfirst.supply
    rw [linkHolders_cons_snd]
    refine hfirst.trans hrest ?_ ?_
    · rintro holder' hmem
      rw [List.mem_singleton.1 hmem]
      exact hnodup.1
    · rintro holder' hmem hsame
      rw [List.map_singleton, List.mem_singleton] at hsame
      exact hnodup.1 (hsame ▸ List.mem_map_of_mem hmem)

/-! ## Linking holders again -/

/-- Whether linking a holder again would change nothing: a balance is noted that the policy lets
stand. -/
def Settled (policy : LinkPolicy) (token : Address) (m : Memory) (holder : HolderBalance) : Prop :=
  ∃ balance, m.balanceOf? token holder.address = some balance ∧
    (policy = .firstWins ∨ balance = holder.balance)

/-- A holder that was linked is settled. -/
theorem Relinked.settled {policy : LinkPolicy} {token : Address} {holders : List HolderBalance}
    {m m' : Memory} (h : Relinked policy token holders m m') {holder : HolderBalance}
    (hmem : holder ∈ holders) : m'.Settled policy token holder := by
  refine ⟨_, h.balances holder hmem, ?_⟩
  cases policy with
  | firstWins => exact Or.inl rfl
  | latestWins => exact Or.inr rfl

/-- Linking a settled holder finds its record and its link, and changes nothing. -/
theorem linkHolder_of_settled {policy : LinkPolicy} {token : Address} {m : Memory}
    {holder : HolderBalance} (h : m.Settled policy token holder) :
    ∃ report : LinkReport, report.newIdentity = false ∧ report.link = .unchanged ∧
      linkHolder registry policy token holder.address holder.balance m = (.ok report, m) := by
  obtain ⟨balance, hnoted, hstands⟩ := h
  obtain ⟨record, link, hrecord, hlink, rfl⟩ := balanceOf?_eq_some_iff.1 hnoted
  have hunchanged : linkToken record.id token holder.balance policy m = (.unchanged, m) := by
    rw [linkToken, hlink]
    exact if_pos hstands
  refine ⟨⟨record.holderId, record.id, false, .unchanged⟩, rfl, rfl, ?_⟩
  rw [linkHolder_of_bound hrecord, hunchanged]

/-- **Linking settled holders changes nothing.** -/
theorem linkHolders_of_settled {policy : LinkPolicy} {token : Address}
    {holders : List HolderBalance} {m : Memory}
    (h : ∀ holder ∈ holders, m.Settled policy token holder) :
    (linkHolders registry policy token holders m).2 = m := by
  induction holders with
  | nil => rfl
  | cons holder rest ih =>
    rw [List.forall_mem_cons] at h
    obtain ⟨report, -, -, hlink⟩ := linkHolder_of_settled h.1
    rw [linkHolders_cons_snd, hlink]
    exact ih h.2

end Memory

end TokenAudit
