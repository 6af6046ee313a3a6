import Mathlib.Data.Prod.Basic
import Mathlib.Logic.Equiv.Basic
import TokenAudit.Proofs.Registry.Relinking

/-! # Registries up to identifiers

Identifiers of new entries are whatever is given out, and new entries get names and stamps of their
own. Two registries are the same for all purposes if the one becomes the other when identifiers are
exchanged, those of older entries being left as they are.

* `Memory.Knows` — whether an identifier is in use, and `Memory.IsStocked`, whether those to be
  given out are not;
* `Memory.IsRenamed` — one registry is another one under other identifiers;
* `Memory.IsRerun` — one run of linking comes to the same as another one;
* `exists_perm_map` — identifiers can be exchanged for any others, and `IsStocked.exists_shift`, for
  later ones.

The lemmas on `Option.Rel` say what entries under exchanged keys have to do with each other. Main
statements: `IsRenamed.linkHolder`, that linking does the same under other identifiers, and
`IsRerun.trans`. -/

namespace TokenAudit

/-! ## Entries under other identifiers -/

/-- A holder under another identifier. One that is not known may have another name. -/
structure Holder.IsRenamed (σ : Equiv.Perm Uid) (known : Uid → Prop)
    (stamps : Moment → Moment → Prop) (holder holder' : Holder) : Prop where
  id : holder'.id = σ holder.id
  name : known holder.id → holder'.name = holder.name
  createdAt : stamps holder.createdAt holder'.createdAt

/-- The record of the same account under other identifiers. -/
structure AddressRecord.IsRenamed (σ : Equiv.Perm Uid) (stamps : Moment → Moment → Prop)
    (record record' : AddressRecord) : Prop where
  id : record'.id = σ record.id
  holderId : record'.holderId = σ record.holderId
  address : record'.address = record.address
  createdAt : stamps record.createdAt record'.createdAt

/-- A link to the same token, with the same balance, under other identifiers. -/
structure Link.IsRenamed (σ : Equiv.Perm Uid) (stamps : Moment → Moment → Prop)
    (link link' : Link) : Prop where
  id : link'.id = σ link.id
  addressId : link'.addressId = σ link.addressId
  token : link'.token = link.token
  balance : link'.balance = link.balance
  createdAt : stamps link.createdAt link'.createdAt
  updatedAt : stamps link.updatedAt link'.updatedAt

/-- A report on the same holder and the same account under other identifiers. -/
structure LinkReport.IsRenamed (σ : Equiv.Perm Uid) (report report' : LinkReport) : Prop where
  holderId : report'.holderId = σ report.holderId
  addressId : report'.addressId = σ report.addressId

namespace Memory

/-- Whether an identifier is that of a holder, an account or a link, or one under which a link
stands. -/
def Knows (m : Memory) (id : Uid) : Prop :=
  (∃ holder, m.holders.get? id = some holder) ∨ m.Uses id ∨ ∃ link ∈ m.links.values, link.id = id

/-- Whether the identifiers that are still to be given out are all new. -/
def IsStocked (m : Memory) : Prop := ∀ n, m.issued ≤ n → ¬ m.Knows ⟨n⟩

/-- One registry is another one under other identifiers, with the names that `known` holders have
and with stamps that are as good as the others. -/
structure IsRenamed (σ : Equiv.Perm Uid) (known : Uid → Prop) (stamps : Moment → Moment → Prop)
    (m m' : Memory) : Prop where
  holders : ∀ id, Option.Rel (Holder.IsRenamed σ known stamps) (m.holders.get? id)
    (m'.holders.get? (σ id))
  addresses : ∀ address,
    Option.Rel (AddressRecord.IsRenamed σ stamps) (m.addresses.get? address)
      (m'.addresses.get? address)
  links : ∀ id token,
    Option.Rel (Link.IsRenamed σ stamps) (m.links.get? (id, token)) (m'.links.get? (σ id, token))
  contracts : m'.contracts = m.contracts
  snapshots : m'.snapshots = m.snapshots
  profiles : m'.profiles = m.profiles

/-- Two runs of linking that both end in a report, and come to the same under other identifiers. -/
structure IsRerun (σ : Equiv.Perm Uid) (known : Uid → Prop) (stamps : Moment → Moment → Prop)
    (run run' : Except Fault LinkReport × Memory) : Prop where
  report : ∃ report report', run.1 = .ok report ∧ run'.1 = .ok report' ∧ report.IsRenamed σ report'
  registry : run.2.IsRenamed σ known stamps run'.2

section

variable {m : Memory}

/-- An empty registry knows no identifier, so all are new. -/
theorem isStocked_empty : IsStocked {} := by
  rintro n - (⟨holder, hholder⟩ | huses | ⟨link, hlink, -⟩)
  · cases hholder
  · exact (hasSupply_empty n (Nat.zero_le n)).2 huses
  · cases hlink

/-- The identifiers to be given out are new just if they are those of no holder and no account, and
the identifiers of links were given out. -/
theorem isStocked_iff :
    m.IsStocked ↔ m.HasSupply ∧ ∀ link ∈ m.links.values, link.id.toNat < m.issued := by
  constructor
  · intro h
    refine ⟨fun n hn => ⟨?_, fun huses => h n hn (Or.inr (Or.inl huses))⟩, fun link hlink => ?_⟩
    · exact Option.eq_none_iff_forall_ne_some.2 fun holder hholder =>
        h n hn (Or.inl ⟨holder, hholder⟩)
    · by_contra hnot
      exact h link.id.toNat (Nat.not_lt.1 hnot) (Or.inr (Or.inr ⟨link, hlink, rfl⟩))
  · rintro ⟨hsupply, hlinks⟩ n hn (⟨holder, hholder⟩ | huses | ⟨link, hlink, hid⟩)
    · rw [(hsupply n hn).1] at hholder
      cases hholder
    · exact (hsupply n hn).2 huses
    · have hlt := hlinks link hlink
      rw [hid] at hlt
      exact absurd hlt (Nat.not_lt.2 hn)

/-- If no identifier that is still to be given out is known, then none is used. -/
theorem IsStocked.hasSupply (h : m.IsStocked) : m.HasSupply := (isStocked_iff.1 h).1

/-- Giving out identifiers leaves those that are new. -/
theorem IsStocked.supplied (h : m.IsStocked) {issued : Nat} (hissued : m.issued ≤ issued)
    (now : Moment) : (m.supplied issued now).IsStocked :=
  fun n hn => h n (Nat.le_trans hissued hn)

/-- An identifier that is still to be given out is not known. -/
theorem IsStocked.not_knows (h : m.IsStocked) {id : Uid} (hid : m.issued ≤ id.toNat) :
    ¬ m.Knows id :=
  h id.toNat hid

/-- The identifier of a holder is known. -/
theorem knows_of_holder {id : Uid} {holder : Holder} (h : m.holders.get? id = some holder) :
    m.Knows id :=
  Or.inl ⟨holder, h⟩

/-- The identifier of an account is known. -/
theorem knows_of_record {address : Address} {record : AddressRecord}
    (h : m.addresses.get? address = some record) : m.Knows record.id :=
  Or.inr (Or.inl (Or.inl ⟨record, Table.mem_values_of_get? h, rfl⟩))

/-- Both the identifier of a link and the one under which it stands are known. -/
theorem knows_of_link {id : Uid} {token : Address} {link : Link}
    (h : m.links.get? (id, token) = some link) : m.Knows id ∧ m.Knows link.id :=
  ⟨Or.inr (Or.inl (Or.inr ⟨(id, token), Table.mem_keys_of_get? h, rfl⟩)),
    Or.inr (Or.inr ⟨link, Table.mem_values_of_get? h, rfl⟩)⟩

/-- What is known stays known. -/
theorem Persists.knows {m' : Memory} (h : m.Persists m') {id : Uid} (hid : m.Knows id) :
    m'.Knows id := by
  rcases hid with ⟨holder, hholder⟩ | (⟨record, hrecord, rfl⟩ | ⟨key, hkey, rfl⟩)
    | ⟨link, hlink, rfl⟩
  · exact knows_of_holder (h.holders _ _ hholder)
  · obtain ⟨address, hrecord⟩ := Table.mem_values_iff.1 hrecord
    exact knows_of_record (h.addresses _ _ hrecord)
  · obtain ⟨link, hlink⟩ := Table.exists_get?_of_mem_keys hkey
    obtain ⟨link', hlink', -⟩ := h.links _ _ hlink
    exact (knows_of_link hlink').1
  · obtain ⟨key, hlink⟩ := Table.mem_values_iff.1 hlink
    obtain ⟨link', hlink', hsame, -⟩ := h.links _ _ hlink
    exact hsame ▸ (knows_of_link hlink').2

/-- Linking gives out identifiers in turn, so that those to come are still new. -/
theorem IsStocked.keptByLinking (token : Address) :
    KeptByLinking token fun m => m.Consistent ∧ m.IsStocked where
  issue m := fun ⟨hconsistent, hstocked⟩ =>
    ⟨hconsistent.supplied (m.issued + 1) m.now, hstocked.supplied (Nat.le_succ _) m.now⟩
  bind m address binding m' := by
    rintro ⟨hconsistent, hstocked⟩ hchange
    obtain ⟨hconsistent', hsupply⟩ := (Consistent.keptByLinking token).bind m address binding m'
      ⟨hconsistent, hstocked.hasSupply⟩ hchange
    refine ⟨hconsistent', isStocked_iff.2 ⟨hsupply, fun link hlink => ?_⟩⟩
    have hlt := (isStocked_iff.1 hstocked).2
    -- no link is made, and one or two identifiers more were given out
    cases hchange with
    | asked _ hquestion => cases hquestion
    | bound => exact Nat.lt_succ_of_lt (Nat.lt_succ_of_lt (hlt link hlink))
    | found => exact Nat.lt_succ_of_lt (hlt link hlink)
  link m address record balance policy outcome m' := by
    rintro ⟨hconsistent, hstocked⟩ hrecord hchange
    obtain ⟨hconsistent', hsupply⟩ := (Consistent.keptByLinking token).link m address
      record balance policy outcome m' ⟨hconsistent, hstocked.hasSupply⟩ hrecord hchange
    refine ⟨hconsistent', isStocked_iff.2 ⟨hsupply, fun link hlink => ?_⟩⟩
    have hlt := (isStocked_iff.1 hstocked).2
    cases hchange with
    | asked _ hquestion => cases hquestion
    | linked =>
      rcases Table.mem_values_set hlink with rfl | hold
      · exact Nat.lt_succ_self _
      · exact Nat.lt_succ_of_lt (hlt link hold)
    | kept => exact hlt link hlink
    | @relinked _ _ _ _ found hfound =>
      rcases Table.mem_values_set hlink with rfl | hold
      · exact hlt found (Table.mem_values_of_get? hfound)
      · exact hlt link hold

end

end Memory

/-! ## Exchanging identifiers -/

/-- **Any things can be exchanged for any others of the same number**, without touching what is
neither. -/
theorem exists_perm_map {α : Type} [DecidableEq α] {xs ys : List α} (hxs : xs.Nodup)
    (hys : ys.Nodup) (hlength : xs.length = ys.length) :
    ∃ σ : Equiv.Perm α, xs.map σ = ys ∧ ∀ z, z ∉ xs → z ∉ ys → σ z = z := by
  induction xs generalizing ys with
  | nil => exact ⟨Equiv.refl α, (List.eq_nil_of_length_eq_zero hlength.symm).symm, fun _ _ _ => rfl⟩
  | cons x xs ih =>
    cases ys with
    | nil => cases hlength
    | cons y ys =>
      rw [List.nodup_cons] at hxs hys
      obtain ⟨σ, hmap, hfixed⟩ := ih hxs.2 hys.2 (Nat.succ.inj hlength)
      -- what the first one was exchanged for so far takes the place of the right one
      refine ⟨σ.trans (Equiv.swap (σ x) y), ?_, fun z hx hy => ?_⟩
      · rw [List.map_cons, Equiv.trans_apply, Equiv.swap_apply_left]
        refine congrArg (y :: ·) (Eq.trans (List.map_congr_left fun a ha => ?_) hmap)
        have hne : σ a ≠ σ x := fun heq => hxs.1 (σ.injective heq ▸ ha)
        have hney : σ a ≠ y := by
          rintro rfl
          exact hys.1 (hmap ▸ List.mem_map_of_mem ha)
        rw [Equiv.trans_apply, Equiv.swap_apply_of_ne_of_ne hne hney]
      · rw [List.mem_cons, not_or] at hx hy
        have hz : σ z = z := hfixed z hx.2 hy.2
        have hne : z ≠ σ x := fun heq => hx.1 (σ.injective (hz.trans heq))
        rw [Equiv.trans_apply, hz, Equiv.swap_apply_of_ne_of_ne hne hy.1]

section

variable {κ α : Type} {R : α → α → Prop} {f : κ → κ}

/-- Where keys with entries are left as they are, an entry has to do with itself. -/
theorem rel_of_fixed (hf : f.Injective) {g : κ → Option α} (hfixed : ∀ k a, g k = some a → f k = k)
    (hR : ∀ k a, g k = some a → R a a) (k : κ) : Option.Rel R (g k) (g (f k)) := by
  cases hk : g k with
  | some a =>
    rw [hfixed k a hk, hk]
    exact .some (hR k a hk)
  | none =>
    cases hfk : g (f k) with
    | none => exact .none
    | some a =>
      -- then the key itself would have been left as it is
      rw [hf (hfixed (f k) a hfk), hk] at hfk
      cases hfk

/-- Entries that have to do with each other can be put under exchanged keys. -/
theorem Table.rel_set [DecidableEq κ] (hf : f.Injective) {t t' : Table κ α} {a a' : α} (ha : R a a')
    (key : κ) (h : ∀ k, Option.Rel R (t.get? k) (t'.get? (f k))) (k : κ) :
    Option.Rel R ((t.set key a).get? k) ((t'.set (f key) a').get? (f k)) := by
  rw [Table.get?_set, Table.get?_set]
  by_cases hk : k = key
  · rw [if_pos hk, if_pos (congrArg f hk)]
    exact .some ha
  · rw [if_neg hk, if_neg fun heq => hk (hf heq)]
    exact h k

/-- What has to do with something in between has to do with what that has to do with. -/
theorem rel_trans {S T : α → α → Prop} {x y z : Option α} (hT : ∀ {a b c}, R a b → S b c → T a c)
    (h : Option.Rel R x y) (h' : Option.Rel S y z) : Option.Rel T x z := by
  cases h with
  | none =>
    cases h'
    exact .none
  | some hab =>
    cases h' with
    | some hbc => exact .some (hT hab hbc)

end

namespace Memory

/-- The identifiers that are to be given out next can be exchanged for later ones, without touching
those that are known. -/
theorem IsStocked.exists_shift {m : Memory} (h : m.IsStocked) {issued : Nat}
    (hissued : m.issued ≤ issued) (count : Nat) :
    ∃ σ : Equiv.Perm Uid, (∀ k < count, σ ⟨m.issued + k⟩ = ⟨issued + k⟩) ∧ ∀ id,
      m.Knows id → σ id = id := by
  have hnodup : ∀ first : Nat, ((List.range count).map fun k => (⟨first + k⟩ : Uid)).Nodup := by
    intro first
    refine (List.nodup_map_iff fun k l heq => ?_).2 List.nodup_range
    exact Nat.add_left_cancel (congrArg Uid.toNat heq)
  obtain ⟨σ, hmap, hfixed⟩ := exists_perm_map (hnodup m.issued) (hnodup issued) (by simp)
  -- an identifier that is known is neither among those to come nor among the later ones
  refine ⟨σ, fun k hk => ?_, fun id hid => hfixed id ?_ ?_⟩
  · have hat := congrArg (·[k]?) hmap
    simpa [List.getElem?_range hk] using hat
  · rintro hmem
    obtain ⟨k, -, rfl⟩ := List.mem_map.1 hmem
    exact h _ (Nat.le_add_right ..) hid
  · rintro hmem
    obtain ⟨k, -, rfl⟩ := List.mem_map.1 hmem
    exact h _ (Nat.le_trans hissued (Nat.le_add_right ..)) hid

section

variable {m : Memory} {σ : Equiv.Perm Uid} {stamps : Moment → Moment → Prop}

/-- The holders of a registry are left as they are when what is known is. -/
theorem Consistent.rel_holders (h : m.Consistent) (hσ : ∀ id, m.Knows id → σ id = id)
    (hstamps : ∀ t, stamps t t) (id : Uid) :
    Option.Rel (Holder.IsRenamed σ m.Knows stamps) (m.holders.get? id) (m.holders.get? (σ id)) := by
  refine rel_of_fixed σ.injective (fun id holder hholder => hσ id (knows_of_holder hholder)) ?_ id
  intro id holder hholder
  have hid : σ holder.id = holder.id := by
    rw [h.holders_keyed _ _ hholder]
    exact hσ id (knows_of_holder hholder)
  exact ⟨hid.symm, fun _ => rfl, hstamps _⟩

/-- So are the accounts. -/
theorem Consistent.rel_addresses (h : m.Consistent) (hσ : ∀ id, m.Knows id → σ id = id)
    (hstamps : ∀ t, stamps t t) (address : Address) :
    Option.Rel (AddressRecord.IsRenamed σ stamps) (m.addresses.get? address)
      (m.addresses.get? address) := by
  refine rel_of_fixed Function.injective_id (fun _ _ _ => rfl) ?_ address
  intro address record hrecord
  obtain ⟨holder, hholder⟩ := h.exists_holder hrecord
  exact ⟨(hσ _ (knows_of_record hrecord)).symm,
    (hσ _ (knows_of_holder hholder)).symm, rfl, hstamps _⟩

/-- And so are the links. -/
theorem Consistent.rel_links (h : m.Consistent) (hσ : ∀ id, m.Knows id → σ id = id)
    (hstamps : ∀ t, stamps t t) (id : Uid) (token : Address) :
    Option.Rel (Link.IsRenamed σ stamps) (m.links.get? (id, token))
      (m.links.get? (σ id, token)) := by
  refine rel_of_fixed (g := fun id => m.links.get? (id, token)) σ.injective
    (fun id link hlink => hσ id (knows_of_link hlink).1) ?_ id
  intro id link hlink
  obtain ⟨hid, hlinkId⟩ := knows_of_link hlink
  have hname : (link.addressId, link.token) = (id, token) := h.links_keyed _ _ hlink
  have haddressId : link.addressId = id := congrArg Prod.fst hname
  exact ⟨(hσ _ hlinkId).symm, haddressId ▸ (hσ _ hid).symm, rfl, rfl, hstamps _, hstamps _⟩

/-- Altogether, the registry is left as it is. -/
theorem Consistent.isRenamed (h : m.Consistent) (hσ : ∀ id, m.Knows id → σ id = id)
    (hstamps : ∀ t, stamps t t) (issued : Nat) (now : Moment) :
    m.IsRenamed σ m.Knows stamps (m.supplied issued now) :=
  ⟨h.rel_holders hσ hstamps, h.rel_addresses hσ hstamps, h.rel_links hσ hstamps, rfl, rfl, rfl⟩

end

/-! ## Linking under other identifiers -/

namespace IsRenamed

variable {m m' : Memory} {σ : Equiv.Perm Uid} {known : Uid → Prop} {stamps : Moment → Moment → Prop}

/-- Accounts that are bound under either identifiers stay the same under others. -/
theorem bindNew (h : m.IsRenamed σ known stamps m') (address : Address)
    (hholder : σ m.nextId = m'.nextId) (hrecord : σ m.issue.nextId = m'.issue.nextId)
    (hname : ¬ known m.nextId) (hnow : stamps m.now m'.now) :
    (m.bindNew address).IsRenamed σ known stamps (m'.bindNew address) where
  holders := by
    show ∀ id, Option.Rel _ ((m.holders.set m.nextId m.newHolder.1).get? id)
      ((m'.holders.set m'.nextId m'.newHolder.1).get? (σ id))
    rw [← hholder]
    exact Table.rel_set σ.injective ⟨hholder.symm, fun hknown => absurd hknown hname, hnow⟩
      _ h.holders
  addresses :=
    Table.rel_set (f := id) Function.injective_id ⟨hrecord.symm, hholder.symm, rfl, hnow⟩
      address h.addresses
  links := h.links
  contracts := h.contracts
  snapshots := h.snapshots
  profiles := h.profiles

/-- A link can be put under exchanged identifiers. -/
theorem rel_setLink (h : m.IsRenamed σ known stamps m') (id : Uid) (token : Address)
    {link link' : Link} (hlink : link.IsRenamed σ stamps link') (other : Uid)
    (otherToken : Address) :
    Option.Rel (Link.IsRenamed σ stamps) ((m.links.set (id, token) link).get? (other, otherToken))
      ((m'.links.set (σ id, token) link').get? (σ other, otherToken)) :=
  Table.rel_set (f := Prod.map σ fun token => token)
    (Function.Injective.prodMap σ.injective fun _ _ heq => heq) hlink (id, token)
    (fun key => h.links key.1 key.2) (other, otherToken)

/-- Noting a balance does the same under other identifiers. -/
theorem linkToken (h : m.IsRenamed σ known stamps m') (id : Uid) (token : Address) (balance : Nat)
    (policy : LinkPolicy) (hnew : σ m.nextId = m'.nextId) (hnow : stamps m.now m'.now) :
    (m'.linkToken (σ id) token balance policy).1 = (m.linkToken id token balance policy).1 ∧
      (m.linkToken id token balance policy).2.IsRenamed σ known stamps
        (m'.linkToken (σ id) token balance policy).2 := by
  have hlinks := h.links id token
  rw [Memory.linkToken, Memory.linkToken]
  -- both links are there, or neither is
  cases hlink : m.links.get? (id, token) <;> cases hlink' : m'.links.get? (σ id, token) <;>
    rw [hlink, hlink'] at hlinks <;> cases hlinks
  case none.none =>
    exact ⟨rfl, { h with links := h.rel_setLink id token ⟨hnew.symm, rfl, rfl, rfl, hnow, hnow⟩ }⟩
  case some.some link link' hsame =>
    dsimp only
    rw [hsame.balance]
    -- the balance decides, and it is the same
    by_cases hkeep : policy = .firstWins ∨ link.balance = balance
    · rw [if_pos hkeep, if_pos hkeep]
      exact ⟨rfl, h⟩
    · rw [if_neg hkeep, if_neg hkeep]
      refine ⟨rfl, { h with links := ?_ }⟩
      exact h.rel_setLink id token ⟨hsame.id, hsame.addressId, hsame.token, rfl,
        hsame.createdAt, hnow⟩

/-- So does completing linking by it. -/
theorem isRerun (h : m.IsRenamed σ known stamps m') {record record' : AddressRecord}
    (hrecord : record.IsRenamed σ stamps record') (hnew : σ m.nextId = m'.nextId)
    (hnow : stamps m.now m'.now) (isNew isNew' : Bool) (token : Address) (balance : Nat)
    (policy : LinkPolicy) :
    let noted := m.linkToken record.id token balance policy
    let noted' := m'.linkToken record'.id token balance policy
    IsRerun σ known stamps (.ok ⟨record.holderId, record.id, isNew, noted.1⟩, noted.2)
        (.ok ⟨record'.holderId, record'.id, isNew', noted'.1⟩, noted'.2) ∧
      noted'.1 = noted.1 := by
  obtain ⟨houtcome, hnoted⟩ := h.linkToken record.id token balance policy hnew hnow
  rw [← hrecord.id] at houtcome hnoted
  exact ⟨⟨⟨_, _, rfl, rfl, hrecord.holderId, hrecord.id⟩, hnoted⟩, houtcome⟩

/-- **Linking a holder does the same under other identifiers**, if those that it may need, three at
most, are given out under the other identifiers too. -/
theorem linkHolder (h : m.IsRenamed σ known stamps m')
    (hids : ∀ k < 3, σ ⟨m.issued + k⟩ = ⟨m'.issued + k⟩) (hname : ¬ known m.nextId)
    (hnow : stamps m.now m'.now) (policy : LinkPolicy) (token address : Address) (balance : Nat) :
    let run := linkHolder registry policy token address balance m
    let run' := linkHolder registry policy token address balance m'
    IsRerun σ known stamps run run' ∧ run'.1.map LinkReport.link = run.1.map LinkReport.link := by
  have haddresses := h.addresses address
  -- the first one is for the holder, the second one for the account and the third one for the link
  have hfirst : σ m.nextId = m'.nextId := hids 0 (by decide)
  have hsecond : σ m.issue.nextId = m'.issue.nextId := hids 1 (by decide)
  have hthird : σ m.issue.issue.nextId = m'.issue.issue.nextId := hids 2 (by decide)
  dsimp only
  -- both accounts are bound, or neither is
  cases hrecord : m.addresses.get? address <;> cases hrecord' : m'.addresses.get? address <;>
    rw [hrecord, hrecord'] at haddresses <;> cases haddresses
  case some.some hsame =>
    obtain ⟨hrerun, houtcome⟩ := h.isRerun hsame hfirst hnow false false token balance policy
    rw [linkHolder_of_bound hrecord, linkHolder_of_bound hrecord']
    exact ⟨hrerun, congrArg Except.ok houtcome⟩
  case none.none =>
    have hsame : (m.newRecord address).IsRenamed σ stamps (m'.newRecord address) :=
      ⟨hsecond.symm, hfirst.symm, rfl, hnow⟩
    have hbound := h.bindNew address hfirst hsecond hname hnow
    obtain ⟨hrerun, houtcome⟩ := hbound.isRerun hsame hthird hnow true true token balance policy
    rw [linkHolder_of_free hrecord, linkHolder_of_free hrecord']
    exact ⟨hrerun, congrArg Except.ok houtcome⟩

end IsRenamed

/-! ## One run after the other -/

section

variable {m m₁ m' : Memory} {σ σ₁ : Equiv.Perm Uid} {known known₁ : Uid → Prop}
  {stamps stamps₁ stamps' : Moment → Moment → Prop}

/-- Identifiers can be exchanged twice. -/
theorem IsRenamed.trans (h : m.IsRenamed σ known stamps m₁) (h₁ : m₁.IsRenamed σ₁ known₁ stamps₁ m')
    (hknown : ∀ id, known id → known₁ (σ id))
    (hstamps : ∀ {a b c}, stamps a b → stamps₁ b c → stamps' a c) :
    m.IsRenamed (σ.trans σ₁) known stamps' m' where
  holders id := by
    refine rel_trans (fun {a b c} hab hbc => ?_) (h.holders id) (h₁.holders (σ id))
    refine ⟨?_, fun hid => ?_, hstamps hab.createdAt hbc.createdAt⟩
    · rw [hbc.id, hab.id, Equiv.trans_apply]
    · -- a known holder keeps its name both times
      rw [hbc.name (hab.id ▸ hknown _ hid), hab.name hid]
  addresses address := by
    refine rel_trans (fun {a b c} hab hbc => ?_) (h.addresses address) (h₁.addresses address)
    refine ⟨?_, ?_, hbc.address.trans hab.address, hstamps hab.createdAt hbc.createdAt⟩
    · rw [hbc.id, hab.id, Equiv.trans_apply]
    · rw [hbc.holderId, hab.holderId, Equiv.trans_apply]
  links id token := by
    refine rel_trans (fun {a b c} hab hbc => ?_) (h.links id token) (h₁.links (σ id) token)
    refine ⟨?_, ?_, hbc.token.trans hab.token, hbc.balance.trans hab.balance,
      hstamps hab.createdAt hbc.createdAt, hstamps hab.updatedAt hbc.updatedAt⟩
    · rw [hbc.id, hab.id, Equiv.trans_apply]
    · rw [hbc.addressId, hab.addressId, Equiv.trans_apply]
  contracts := h₁.contracts.trans h.contracts
  snapshots := h₁.snapshots.trans h.snapshots
  profiles := h₁.profiles.trans h.profiles

/-- The identifiers to be given out, and the time, say nothing about the entries. -/
theorem IsRenamed.supplied (h : m.IsRenamed σ known stamps m') (issued : Nat) (now : Moment) :
    m.IsRenamed σ known stamps (m'.supplied issued now) :=
  ⟨h.holders, h.addresses, h.links, h.contracts, h.snapshots, h.profiles⟩

/-- What comes to the same as a run that comes to the same as another one comes to the same as that
one. -/
theorem IsRerun.trans {run run₁ run' : Except Fault LinkReport × Memory}
    (h : IsRerun σ known stamps run run₁) (h₁ : IsRerun σ₁ known₁ stamps₁ run₁ run')
    (hknown : ∀ id, known id → known₁ (σ id))
    (hstamps : ∀ {a b c}, stamps a b → stamps₁ b c → stamps' a c) :
    IsRerun (σ.trans σ₁) known stamps' run run' where
  report := by
    obtain ⟨report, report₁, hreport, hreport₁, hsame⟩ := h.report
    obtain ⟨report₁', report', hreport₁', hreport', hsame₁⟩ := h₁.report
    rw [hreport₁] at hreport₁'
    cases hreport₁'
    refine ⟨report, report', hreport, hreport', ?_, ?_⟩
    · rw [hsame₁.holderId, hsame.holderId, Equiv.trans_apply]
    · rw [hsame₁.addressId, hsame.addressId, Equiv.trans_apply]
  registry := h.registry.trans h₁.registry hknown hstamps

end

end Memory

end TokenAudit
