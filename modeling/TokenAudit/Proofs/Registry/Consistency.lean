import TokenAudit.Proofs.Registry.Requests

/-! # Consistency of a registry in memory

The tables of a registry in memory go together: every entry stands under the key that it names
itself, every bound account belongs to a holder that is there, and no two accounts share one. What
is counted is what was asked for, and what is once entered stays.

* `Memory.Consistent` — the tables go together;
* `Memory.Tallies` — the entries are those that requests have entered;
* `Memory.Persists` — what one registry has entered, another one still has.

Each is kept by one request (`of_change`), and so by a run (`of_ran`).

Main statement: `consistent_of_ran`. -/

namespace TokenAudit

open Registry (Request Response)

/-! ## What requests enter -/

/-- The accounts that requests bind, or find bound. -/
def boundAddresses (events : List (Request × Response)) : List Address :=
  events.filterMap fun
    | (.bind _ address, _) => some address
    | _ => none

/-- The records of accounts with the tokens that requests link them to. -/
def linkedPairs (events : List (Request × Response)) : List (Uid × Address) :=
  events.filterMap fun
    | (.linkToken addressId token _ _, _) => some (addressId, token)
    | _ => none

/-- The analyses of a token's code that requests add. -/
def addedContracts (token : Address) (events : List (Request × Response)) : List ContractAnalysis :=
  events.filterMap fun
    | (.appendContract t _, .contract analysis) => if t = token then some analysis else none
    | _ => none

/-- The analyses of a token's holders that requests add. -/
def addedSnapshots (token : Address) (events : List (Request × Response)) : List HolderAnalysis :=
  events.filterMap fun
    | (.appendHolders t _, .snapshot analysis) => if t = token then some analysis else none
    | _ => none

/-- The reports on a token's code that are to be added. -/
def contractReports (token : Address) (events : List (Request × Response)) : List Code.Report :=
  events.filterMap fun
    | (.appendContract t report, _) => if t = token then some report else none
    | _ => none

/-- The snapshots of a token's holders that are to be added. -/
def holderSnapshots (token : Address) (events : List (Request × Response)) : List Snapshot :=
  events.filterMap fun
    | (.appendHolders t snapshot, _) => if t = token then some snapshot else none
    | _ => none

namespace Memory

/-- An identifier that is not in use is no account's, and no link stands under it. -/
theorem not_uses_iff {m : Memory} {id : Uid} :
    ¬ m.Uses id ↔
      (∀ {address record}, m.addresses.get? address = some record → record.id ≠ id) ∧
        ∀ token, m.links.get? (id, token) = none := by
  rw [Uses, not_or]
  constructor
  · rintro ⟨hrecord, hlink⟩
    refine ⟨fun {address record} h heq => hrecord ⟨record, Table.mem_values_of_get? h, heq⟩, ?_⟩
    intro token
    exact Table.get?_eq_none_iff.2 fun hmem => hlink ⟨_, hmem, rfl⟩
  · rintro ⟨hrecord, hlink⟩
    refine ⟨fun ⟨record, hmem, heq⟩ => ?_, fun ⟨⟨i, token⟩, hmem, heq⟩ => ?_⟩
    · obtain ⟨address, h⟩ := Table.mem_values_iff.1 hmem
      exact hrecord h heq
    · dsimp only at heq
      rw [heq] at hmem
      exact Table.get?_eq_none_iff.1 (hlink token) hmem

/-! ## What one request enters -/

/-- A question enters nothing. -/
theorem entries_of_isQuestion {request : Request} (h : request.IsQuestion) (response : Response) :
    boundAddresses [(request, response)] = [] ∧ linkedPairs [(request, response)] = [] ∧
      ∀ token, addedContracts token [(request, response)] = [] ∧
        contractReports token [(request, response)] = [] ∧
        addedSnapshots token [(request, response)] = [] ∧
        holderSnapshots token [(request, response)] = [] := by
  cases request <;> first | exact ⟨rfl, rfl, fun _ => ⟨rfl, rfl, rfl, rfl⟩⟩ | cases h

namespace Change

variable {m m' : Memory} {request : Request} {response : Response}

/-- The accounts that are bound after a request. -/
theorem mem_addresses_keys (h : m.Change request response m') {address : Address} :
    address ∈ m'.addresses.keys ↔
      address ∈ m.addresses.keys ∨ address ∈ boundAddresses [(request, response)] := by
  cases h with
  | asked response hquestion => simp [(entries_of_isQuestion hquestion response).1]
  | bound holder hfree =>
    rw [Table.mem_keys_set, or_comm]
    exact or_congr_right (List.mem_singleton).symm
  | @found holder a record hbound =>
    refine ⟨Or.inl, fun hmem => hmem.elim id fun hthis => ?_⟩
    rw [List.mem_singleton.1 hthis]
    exact Table.mem_keys_of_get? hbound
  | _ => exact (or_iff_left List.not_mem_nil).symm

/-- What is linked after a request. -/
theorem mem_links_keys (h : m.Change request response m') {key : Uid × Address} :
    key ∈ m'.links.keys ↔ key ∈ m.links.keys ∨ key ∈ linkedPairs [(request, response)] := by
  have hset : ∀ {i t link}, key ∈ (m.links.set (i, t) link).keys ↔
      key ∈ m.links.keys ∨ key ∈ [(i, t)] := by
    intro i t link
    rw [Table.mem_keys_set, or_comm, List.mem_singleton]
  cases h with
  | asked response hquestion => simp [(entries_of_isQuestion hquestion response).2.1]
  | linked => exact hset
  | @kept i t balance policy link hlink =>
    refine ⟨Or.inl, fun hmem => hmem.elim id fun hthis => ?_⟩
    rw [List.mem_singleton.1 hthis]
    exact Table.mem_keys_of_get? hlink
  | relinked => exact hset
  | _ => exact (or_iff_left List.not_mem_nil).symm

/-- The analyses of code after a request. -/
theorem contractAnalyses_eq (h : m.Change request response m') (token : Address) :
    m'.contractAnalyses token =
      m.contractAnalyses token ++ addedContracts token [(request, response)] ∧
      (addedContracts token [(request, response)]).map ContractAnalysis.report =
        contractReports token [(request, response)] ∧
      ∀ analysis ∈ addedContracts token [(request, response)], analysis.token = token := by
  cases h with
  | asked response hquestion =>
    obtain ⟨hadded, hreports, -⟩ := (entries_of_isQuestion hquestion response).2.2 token
    simp [hadded, hreports]
  | @contract t report analysis htoken hreport =>
    have hset : Memory.contractAnalyses { m.issue with
        contracts := m.contracts.set t (m.contractAnalyses t ++ [analysis]) } token =
          if token = t then m.contractAnalyses t ++ [analysis] else m.contractAnalyses token :=
      Table.getD_get?_set ..
    by_cases ht : t = token
    · subst ht
      simp [hset, addedContracts, contractReports, htoken, hreport]
    · simp [hset, addedContracts, contractReports, ht, Ne.symm ht]
  | _ => exact ⟨(List.append_nil _).symm, rfl, fun _ hmem => absurd hmem List.not_mem_nil⟩

/-- The analyses of holders after a request. -/
theorem holderAnalyses_eq (h : m.Change request response m') (token : Address) :
    m'.holderAnalyses token = m.holderAnalyses token ++ addedSnapshots token [(request, response)] ∧
      (addedSnapshots token [(request, response)]).map HolderAnalysis.snapshot =
        holderSnapshots token [(request, response)] ∧
      ∀ analysis ∈ addedSnapshots token [(request, response)], analysis.token = token := by
  cases h with
  | asked response hquestion =>
    obtain ⟨-, -, hadded, hsnapshots⟩ := (entries_of_isQuestion hquestion response).2.2 token
    simp [hadded, hsnapshots]
  | @snapshot t found analysis htoken hfound =>
    have hset : Memory.holderAnalyses { m.issue with
        snapshots := m.snapshots.set t (m.holderAnalyses t ++ [analysis]) } token =
          if token = t then m.holderAnalyses t ++ [analysis] else m.holderAnalyses token :=
      Table.getD_get?_set ..
    by_cases ht : t = token
    · subst ht
      simp [hset, addedSnapshots, holderSnapshots, htoken, hfound]
    · simp [hset, addedSnapshots, holderSnapshots, ht, Ne.symm ht]
  | _ => exact ⟨(List.append_nil _).symm, rfl, fun _ hmem => absurd hmem List.not_mem_nil⟩

end Change

/-! ## Tables that go together -/

/-- The tables of a registry go together. -/
structure Consistent (m : Memory) : Prop where
  holders_keyed : m.holders.KeyedBy Holder.id
  addresses_keyed : m.addresses.KeyedBy AddressRecord.address
  links_keyed : m.links.KeyedBy fun link => (link.addressId, link.token)
  profiles_keyed : m.profiles.KeyedBy Profile.token
  contract_token : ∀ {token analysis}, analysis ∈ m.contractAnalyses token → analysis.token = token
  snapshot_token : ∀ {token analysis}, analysis ∈ m.holderAnalyses token → analysis.token = token
  /-- Every account belongs to a holder that is there. -/
  exists_holder : ∀ {address record}, m.addresses.get? address = some record →
    ∃ holder, m.holders.get? record.holderId = some holder
  /-- No two accounts have one record. -/
  ids_apart : m.addresses.Separates AddressRecord.id
  /-- No two accounts belong to one holder. -/
  holders_apart : m.addresses.Separates AddressRecord.holderId
  size_holders : m.holders.size = m.addresses.size

/-- In an empty registry the tables go together. -/
theorem consistent_empty : Consistent {} where
  holders_keyed _ _ h := by cases h
  addresses_keyed _ _ h := by cases h
  links_keyed _ _ h := by cases h
  profiles_keyed _ _ h := by cases h
  contract_token h := by cases h
  snapshot_token h := by cases h
  exists_holder h := by cases h
  ids_apart _ _ _ _ h := by cases h
  holders_apart _ _ _ _ h := by cases h
  size_holders := rfl

namespace Consistent

variable {m m' : Memory}

/-- The identifier to be given out next, and the time, say nothing about the entries. -/
theorem supplied (h : m.Consistent) (issued : Nat) (now : Moment) :
    (m.supplied issued now).Consistent :=
  ⟨h.holders_keyed, h.addresses_keyed, h.links_keyed, h.profiles_keyed, h.contract_token,
    h.snapshot_token, h.exists_holder, h.ids_apart, h.holders_apart, h.size_holders⟩

/-- A holder that is not there yet has no account. -/
theorem holderId_ne (h : m.Consistent) {id : Uid} (hholder : m.holders.get? id = none)
    {address : Address} {record : AddressRecord}
    (hrecord : m.addresses.get? address = some record) : record.holderId ≠ id := by
  rintro rfl
  obtain ⟨holder, hthere⟩ := h.exists_holder hrecord
  rw [hholder] at hthere
  cases hthere

/-- Binding an account to a new holder keeps the tables together. -/
theorem bound (h : m.Consistent) {holder : Holder} {address : Address}
    (hfree : m.addresses.get? address = none) (hholder : m.holders.get? holder.id = none)
    (hid : ¬ m.Uses m.nextId) :
    Consistent { m.issue with
      holders := m.holders.set holder.id holder
      addresses := m.addresses.set address ⟨m.nextId, holder.id, address, m.now⟩ } where
  holders_keyed := h.holders_keyed.set rfl
  addresses_keyed := h.addresses_keyed.set rfl
  links_keyed := h.links_keyed
  profiles_keyed := h.profiles_keyed
  contract_token := h.contract_token
  snapshot_token := h.snapshot_token
  exists_holder := by
    intro a record hrecord
    rcases Table.get?_set_eq_some.1 hrecord with ⟨-, rfl⟩ | ⟨-, hrecord⟩
    · exact ⟨holder, Table.get?_set_self ..⟩
    · -- an account that was bound before has a holder that was there before
      obtain ⟨other, hother⟩ := h.exists_holder hrecord
      exact ⟨other, Table.get?_set_eq_some.2 (Or.inr ⟨h.holderId_ne hholder hrecord, hother⟩)⟩
  ids_apart := h.ids_apart.set fun _ _ hrecord => (not_uses_iff.1 hid).1 hrecord
  holders_apart := h.holders_apart.set fun _ _ hrecord => h.holderId_ne hholder hrecord
  size_holders := by
    show (m.holders.set holder.id holder).size = (m.addresses.set address _).size
    rw [Table.size_set_of_none hholder, Table.size_set_of_none hfree, h.size_holders]

/-- **One request keeps the tables together.** -/
theorem of_change {request : Request} {response : Response} (h : m.Consistent)
    (hchange : m.Change request response m') (hadmits : m.Admits request) : m'.Consistent := by
  cases hchange with
  | asked => exact h
  | bound holder hfree =>
    obtain ⟨hholder, hid⟩ := hadmits hfree
    exact h.bound hfree hholder hid
  | found => exact h
  | linked => exact { h with links_keyed := h.links_keyed.set rfl }
  | kept => exact h
  | relinked hlink =>
    -- a link that is noted anew keeps its account and token, and so its key
    have hname := h.links_keyed _ _ hlink
    exact { h with links_keyed := h.links_keyed.set hname }
  | contract htoken hreport =>
    refine { h with contract_token := fun {token a} ha => ?_ }
    obtain ⟨heq, -, hadded⟩ := (Change.contract (m := m) htoken hreport).contractAnalyses_eq token
    rw [heq, List.mem_append] at ha
    exact ha.elim h.contract_token (hadded a)
  | snapshot htoken hfound =>
    refine { h with snapshot_token := fun {token a} ha => ?_ }
    obtain ⟨heq, -, hadded⟩ := (Change.snapshot (m := m) htoken hfound).holderAnalyses_eq token
    rw [heq, List.mem_append] at ha
    exact ha.elim h.snapshot_token (hadded a)
  | saved profile => exact { h with profiles_keyed := h.profiles_keyed.set rfl }

/-- **A run keeps the tables together.** -/
theorem of_ran {events : List (Request × Response)} (h : m.Consistent) (hran : m.Ran events m') :
    m'.Consistent :=
  ran_induction (I := fun _ m => m.Consistent) h (fun _ _ issued now ih => ih.supplied issued now)
    (fun _ _ _ _ _ hadmits hchange ih => ih.of_change hchange hadmits) hran

end Consistent

/-! ## Entries that requests have made -/

/-- The entries of a registry are those that requests have made. -/
structure Tallies (events : List (Request × Response)) (m : Memory) : Prop where
  addresses : ∀ address, address ∈ m.addresses.keys ↔ address ∈ boundAddresses events
  links : ∀ key, key ∈ m.links.keys ↔ key ∈ linkedPairs events
  contracts : ∀ token, m.contractAnalyses token = addedContracts token events
  contract_reports : ∀ token,
    (m.contractAnalyses token).map ContractAnalysis.report = contractReports token events
  snapshots : ∀ token, m.holderAnalyses token = addedSnapshots token events
  holder_snapshots : ∀ token,
    (m.holderAnalyses token).map HolderAnalysis.snapshot = holderSnapshots token events

namespace Tallies

variable {m m' : Memory} {events : List (Request × Response)}

/-- Without requests nothing is entered. -/
theorem nil : Tallies [] {} :=
  ⟨fun _ => Iff.rfl, fun _ => Iff.rfl, fun _ => rfl, fun _ => rfl, fun _ => rfl, fun _ => rfl⟩

/-- A new supply of identifiers and another time change no entry. -/
theorem supplied (h : Tallies events m) (issued : Nat) (now : Moment) :
    Tallies events (m.supplied issued now) :=
  ⟨h.addresses, h.links, h.contracts, h.contract_reports, h.snapshots, h.holder_snapshots⟩

/-- **One request enters what it says.** -/
theorem of_change {request : Request} {response : Response} (h : Tallies events m)
    (hchange : m.Change request response m') : Tallies (events ++ [(request, response)]) m' where
  addresses address := by
    -- each table grows by what the last request and its answer stand for
    rw [hchange.mem_addresses_keys, h.addresses]
    simp only [boundAddresses, List.filterMap_append, List.mem_append]
  links key := by
    rw [hchange.mem_links_keys, h.links]
    simp only [linkedPairs, List.filterMap_append, List.mem_append]
  contracts token := by
    rw [(hchange.contractAnalyses_eq token).1, h.contracts]
    exact List.filterMap_append.symm
  contract_reports token := by
    obtain ⟨heq, hreports, -⟩ := hchange.contractAnalyses_eq token
    rw [heq, List.map_append, h.contract_reports, hreports]
    exact List.filterMap_append.symm
  snapshots token := by
    rw [(hchange.holderAnalyses_eq token).1, h.snapshots]
    exact List.filterMap_append.symm
  holder_snapshots token := by
    obtain ⟨heq, hsnapshots, -⟩ := hchange.holderAnalyses_eq token
    rw [heq, List.map_append, h.holder_snapshots, hsnapshots]
    exact List.filterMap_append.symm

/-- **A run enters what its requests say.** -/
theorem of_ran (hran : Ran {} events m) : Tallies events m :=
  ran_induction .nil (fun _ _ issued now ih => ih.supplied issued now)
    (fun _ _ _ _ _ _ hchange ih => ih.of_change hchange) hran

end Tallies

/-! ## Entries that stay -/

/-- What one registry has entered, another one still has. -/
structure Persists (m m' : Memory) : Prop where
  holders : ∀ id holder, m.holders.get? id = some holder → m'.holders.get? id = some holder
  addresses : ∀ address record,
    m.addresses.get? address = some record → m'.addresses.get? address = some record
  /-- A link may get another balance, but it is the same link. -/
  links : ∀ key link, m.links.get? key = some link →
    ∃ link', m'.links.get? key = some link' ∧ link'.id = link.id ∧ link'.createdAt = link.createdAt
  /-- Later analyses come after those that are there. -/
  contracts : ∀ token, m.contractAnalyses token <+: m'.contractAnalyses token
  snapshots : ∀ token, m.holderAnalyses token <+: m'.holderAnalyses token

namespace Persists

variable {m m₁ m' : Memory}

/-- Every registry still has what it has. -/
theorem refl (m : Memory) : m.Persists m :=
  ⟨fun _ _ => id, fun _ _ => id, fun _ link h => ⟨link, h, rfl, rfl⟩, fun _ => List.prefix_rfl,
    fun _ => List.prefix_rfl⟩

/-- A new supply of identifiers and another time take no entry away. -/
theorem supplied (h : m.Persists m') (issued : Nat) (now : Moment) :
    m.Persists (m'.supplied issued now) :=
  ⟨h.holders, h.addresses, h.links, h.contracts, h.snapshots⟩

/-- What is still there later was there in between. -/
theorem trans (h : m.Persists m₁) (h' : m₁.Persists m') : m.Persists m' where
  holders id holder hholder := h'.holders id holder (h.holders id holder hholder)
  addresses address record hrecord :=
    h'.addresses address record (h.addresses address record hrecord)
  links key link hlink := by
    obtain ⟨link₁, hlink₁, hid₁, hcreated₁⟩ := h.links key link hlink
    obtain ⟨link', hlink', hid', hcreated'⟩ := h'.links key link₁ hlink₁
    exact ⟨link', hlink', hid'.trans hid₁, hcreated'.trans hcreated₁⟩
  contracts token := (h.contracts token).trans (h'.contracts token)
  snapshots token := (h.snapshots token).trans (h'.snapshots token)

/-- **One request takes nothing away.** -/
theorem of_change {request : Request} {response : Response} (hchange : m.Change request response m')
    (hadmits : m.Admits request) : m.Persists m' where
  holders id holder hholder := by
    cases hchange with
    | bound newcomer hfree =>
      -- a newcomer is entered under an identifier that no holder has
      refine Table.get?_set_eq_some.2 (Or.inr ⟨?_, hholder⟩)
      rintro rfl
      rw [(hadmits hfree).1] at hholder
      cases hholder
    | _ => exact hholder
  addresses address record hrecord := by
    cases hchange with
    | bound newcomer hfree =>
      -- and for an account that was free
      refine Table.get?_set_eq_some.2 (Or.inr ⟨?_, hrecord⟩)
      rintro rfl
      rw [hfree] at hrecord
      cases hrecord
    | _ => exact hrecord
  links key link hlink := by
    cases hchange with
    | @linked addressId token _ _ hnew =>
      refine ⟨link, Table.get?_set_eq_some.2 (Or.inr ⟨?_, hlink⟩), rfl, rfl⟩
      rintro rfl
      rw [hnew] at hlink
      cases hlink
    | @relinked addressId token _ _ old hold =>
      -- a link that is there gets another balance and another stamp, no more
      by_cases hkey : key = (addressId, token)
      · subst hkey
        rw [hold] at hlink
        cases hlink
        exact ⟨_, Table.get?_set_self .., rfl, rfl⟩
      · exact ⟨link, Table.get?_set_eq_some.2 (Or.inr ⟨hkey, hlink⟩), rfl, rfl⟩
    | _ => exact ⟨link, hlink, rfl, rfl⟩
  contracts token := ⟨_, (hchange.contractAnalyses_eq token).1.symm⟩
  snapshots token := ⟨_, (hchange.holderAnalyses_eq token).1.symm⟩

/-- **A run takes nothing away.** -/
theorem of_ran {events : List (Request × Response)} (hran : m.Ran events m') : m.Persists m' :=
  ran_induction (I := fun _ m' => m.Persists m') (.refl m)
    (fun _ _ issued now ih => ih.supplied issued now)
    (fun _ _ _ _ _ hadmits hchange ih => ih.trans (.of_change hchange hadmits)) hran

end Persists

/-! ## A whole run -/

/-- **A registry that requests were served with.** Its tables go together and hold what requests
have entered: as many holders as accounts, one for each account that was to be bound, a link for
each pair that was to be linked, and the analyses of a token in the order in which they came.
Binding an account again finds its record and changes nothing, and no later request takes an entry
away. -/
theorem consistent_of_ran {events : List (Request × Response)} {m : Memory}
    (hran : Ran {} events m) :
    m.Consistent ∧ Tallies events m ∧
      registry.holderCount m = (.ok (boundAddresses events).dedup.length, m) ∧
      registry.addressCount m = (.ok (boundAddresses events).dedup.length, m) ∧
      registry.linkCount m = (.ok (linkedPairs events).dedup.length, m) ∧
      (∀ token, registry.contractAnalyses token m = (.ok (addedContracts token events), m)) ∧
      (∀ token, registry.holderAnalyses token m = (.ok (addedSnapshots token events), m)) ∧
      (∀ holder address, address ∈ boundAddresses events → ∃ record,
        registry.findAddress address m = (.ok (some record), m) ∧
          registry.bind holder address m = (.ok (.existing record), m)) ∧
      ∀ later m', m.Ran later m' → m.Persists m' := by
  have hconsistent : m.Consistent := consistent_empty.of_ran hran
  have htallies : Tallies events m := .of_ran hran
  -- a table has as many entries as different keys were entered
  have haddresses : m.addresses.size = (boundAddresses events).dedup.length :=
    Table.size_eq_length_dedup htallies.addresses
  have hlinks : m.links.size = (linkedPairs events).dedup.length :=
    Table.size_eq_length_dedup htallies.links
  refine ⟨hconsistent, htallies, ?_, ?_, ?_, fun token => ?_, fun token => ?_,
    fun holder address hmem => ?_, fun later m' => .of_ran⟩
  · rw [← haddresses, ← hconsistent.size_holders]
    rfl
  · rw [← haddresses]
    rfl
  · rw [← hlinks]
    rfl
  · rw [← htallies.contracts]
    rfl
  · rw [← htallies.snapshots]
    rfl
  · obtain ⟨record, hrecord⟩ := Table.exists_get?_of_mem_keys ((htallies.addresses address).2 hmem)
    refine ⟨record, ?_, ?_⟩
    · rw [← hrecord]
      rfl
    · rw [registry_bind, bind_of_bound holder hrecord]

/-- Two holders for one account, of which the first one gets it, and a balance noted twice. -/
def rivalBinds : List (Request × Response) :=
  [(.bind ⟨⟨100⟩, "Ada", ⟨1, 0⟩⟩ default, .binding (.created ⟨⟨7⟩, ⟨100⟩, default, ⟨2, 0⟩⟩)),
    (.bind ⟨⟨101⟩, "Eve", ⟨1, 0⟩⟩ default, .binding (.existing ⟨⟨7⟩, ⟨100⟩, default, ⟨2, 0⟩⟩)),
    (.linkToken ⟨7⟩ default 5 .latestWins, .outcome .created),
    (.linkToken ⟨7⟩ default 6 .latestWins, .outcome .updated)]

/-- The account has one record with the first holder, the tables count one of each kind, and a third
holder does not get the account either. -/
theorem consistent_of_rivalBinds :
    ∃ m, Ran {} rivalBinds m ∧ m.Consistent ∧ Tallies rivalBinds m ∧
      registry.holderCount m = (.ok 1, m) ∧ registry.addressCount m = (.ok 1, m) ∧
      registry.linkCount m = (.ok 1, m) ∧
      (∃ record, registry.findAddress default m = (.ok (some record), m) ∧
        registry.bind ⟨⟨102⟩, "Eve", ⟨6, 0⟩⟩ default m = (.ok (.existing record), m)) := by
  have hada := @Ran.serve {} [] _ _ (.bind ⟨⟨100⟩, "Ada", ⟨1, 0⟩⟩ default) _ .start
    7 ⟨2, 0⟩ (fun _ => ⟨rfl, by decide⟩) rfl
  have heve := @Ran.serve {} _ _ _ (.bind ⟨⟨101⟩, "Eve", ⟨1, 0⟩⟩ default) _ hada
    8 ⟨3, 0⟩ (fun _ => ⟨rfl, by decide⟩) rfl
  have hnoted := @Ran.serve {} _ _ _ (.linkToken ⟨7⟩ default 5 .latestWins) _ heve
    8 ⟨4, 0⟩ trivial rfl
  have hrun := @Ran.serve {} _ _ _ (.linkToken ⟨7⟩ default 6 .latestWins) _ hnoted
    9 ⟨5, 0⟩ trivial rfl
  obtain ⟨hconsistent, htallies, hholders, haddresses, hlinks, -, -, hbound, -⟩ :=
    consistent_of_ran hrun
  exact ⟨_, hrun, hconsistent, htallies, hholders, haddresses, hlinks,
    hbound _ default (List.mem_cons_self ..)⟩

end Memory

end TokenAudit
