import Mathlib.Data.List.Dedup
import Mathlib.Data.List.Nodup
import Mathlib.Logic.Relation
import TokenAudit.Proofs.Registry.Consistency
import TokenAudit.Registry.Linking

/-! # Linking from several sides

Several holders can be linked in one registry at once. Each call goes its own way in steps, from its
lookup to the link, and between two of its steps any others can take any of theirs. What one call
has looked up may then be out of date when it goes on. Still all of them come to one record for each
account and one link for each pair of account and token.

* `LinkCall`, `LinkStage` and `LinkStage.advance` — a call, how far it is, and its next step;
* `LinkStage.advance_four` — a call that is alone does what `linkHolder` does;
* `Memory.Step` — what a step can do to a registry in memory;
* `Memory.Moves` — some call takes its next step;
* `Memory.Settling` — what all steps keep.

Main statement: `links_converge`. -/

namespace TokenAudit

/-- A balance that is to be entered. -/
structure LinkCall where
  token : Address
  address : Address
  balance : Nat
  deriving DecidableEq, Repr

/-- How far a call is. -/
inductive LinkStage
  /-- The account is to be looked up. -/
  | seeking
  /-- It was not bound, and a holder is to be thought up. -/
  | naming
  /-- The account is to be bound to this holder. -/
  | binding (holder : Holder)
  /-- The account has this record, and its balance is to be noted. -/
  | noting (record : AddressRecord) (isNew : Bool)
  /-- All is done. -/
  | done (report : LinkReport)
  deriving DecidableEq, Repr

namespace LinkStage

/-- The next step of a call, with at most one request to the registry. -/
def advance {ρ : Type} (registry : Registry ρ) (policy : LinkPolicy) (call : LinkCall) :
    LinkStage → Action ρ LinkStage
  | seeking => do
    match ← registry.findAddress call.address with
    | some record => return noting record false
    | none => return naming
  | naming => return binding (← registry.newHolder)
  | binding holder => do
    let binding ← registry.bind holder call.address
    return noting binding.record binding.isNew
  | noting record isNew => do
    let link ← registry.linkToken record.id call.token call.balance policy
    return done ⟨record.holderId, record.id, isNew, link⟩
  | done report => return done report

/-- **A call that is alone.** Its steps one after the other, of which there are four at most, do
what `linkHolder` does, in any registry. -/
theorem advance_four {ρ : Type} (registry : Registry ρ) (policy : LinkPolicy) (call : LinkCall) :
    (do
      let stage ← advance registry policy call seeking
      let stage ← advance registry policy call stage
      let stage ← advance registry policy call stage
      advance registry policy call stage) =
      done <$> linkHolder registry policy call.token call.address call.balance := by
  rw [linkHolder]
  simp only [advance, bind_assoc, map_bind]
  congr 1
  funext found
  cases found with
  | none => simp [identify]
  | some record => simp [identify]

/-- The identifier of the holder that a call has thought up but not entered yet. -/
def held : LinkStage → Option Uid
  | binding holder => some holder.id
  | _ => none

/-- The account of a call, if the call has bound it. -/
def bound (call : LinkCall) : LinkStage → Option Address
  | noting _ isNew => if isNew then some call.address else none
  | done report => if report.newIdentity then some call.address else none
  | _ => none

/-- The account that a call has bound is its own. -/
theorem address_of_bound {call : LinkCall} {stage : LinkStage} {address : Address}
    (h : stage.bound call = some address) : call.address = address := by
  cases stage with
  | noting record isNew => exact Option.some.inj (Option.ite_none_right_eq_some.1 h).2
  | done report => exact Option.some.inj (Option.ite_none_right_eq_some.1 h).2
  | _ => cases h

/-- What stands in the table for the link of a call, if the call has made it. -/
def linked (call : LinkCall) : LinkStage → Option (Uid × Address)
  | done report => if report.link = .created then some (report.addressId, call.token) else none
  | _ => none

end LinkStage

open LinkStage

namespace Memory

/-! ## One step -/

/-- What the next step of a call can do to a registry in memory. -/
inductive Step (policy : LinkPolicy) (m : Memory) (call : LinkCall) :
    LinkStage → LinkStage → Memory → Prop
  /-- The account is bound. -/
  | found {record : AddressRecord} (hrecord : m.addresses.get? call.address = some record) :
    Step policy m call seeking (noting record false) m
  /-- The account is not bound yet. -/
  | missed (hfree : m.addresses.get? call.address = none) : Step policy m call seeking naming m
  /-- A holder is thought up, which nobody else knows of. -/
  | named : Step policy m call naming (binding m.newHolder.1) m.newHolder.2
  /-- The account is bound to the holder, or it turns out to be bound by now. -/
  | settled {holder : Holder} {result : Binding} {m' : Memory}
    (hchange : m.Change (.bind holder call.address) (.binding result) m') :
    Step policy m call (binding holder) (noting result.record result.isNew) m'
  /-- The balance is noted. -/
  | noted {record : AddressRecord} (isNew : Bool) {outcome : LinkOutcome} {m' : Memory}
    (hchange : m.Change (.linkToken record.id call.token call.balance policy)
      (.outcome outcome) m') :
    Step policy m call (noting record isNew)
      (done ⟨record.holderId, record.id, isNew, outcome⟩) m'
  /-- A call that is done stays so. -/
  | rested (report : LinkReport) : Step policy m call (done report) (done report) m

/-- **Every call can take its next step, and this does one of these things.** -/
theorem advance_step (policy : LinkPolicy) (m : Memory) (call : LinkCall) (stage : LinkStage) :
    ∃ stage' m', stage.advance registry policy call m = (.ok stage', m') ∧
      m.Step policy call stage stage' m' := by
  cases stage with
  | seeking =>
    -- looking up asks for nothing else, so the answer alone says where the call goes on
    have hstep : advance registry policy call seeking m =
        (match m.addresses.get? call.address with
          | some record => (return noting record false : Action Memory LinkStage)
          | none => return naming) m := rfl
    cases hfound : m.addresses.get? call.address with
    | none => exact ⟨_, _, by rw [hstep, hfound]; rfl, .missed hfound⟩
    | some record => exact ⟨_, _, by rw [hstep, hfound]; rfl, .found hfound⟩
  | naming => exact ⟨_, _, rfl, .named⟩
  | binding holder => exact ⟨_, _, rfl, .settled (change_bind holder call.address m)⟩
  | noting record isNew =>
    exact ⟨_, _, rfl, .noted isNew (change_linkToken record.id call.token call.balance policy m)⟩
  | done report => exact ⟨_, _, rfl, .rested report⟩

/-- What a step has done. -/
theorem step_of_advance {policy : LinkPolicy} {m m' : Memory} {call : LinkCall}
    {stage stage' : LinkStage} (h : stage.advance registry policy call m = (.ok stage', m')) :
    m.Step policy call stage stage' m' := by
  obtain ⟨stage₁, m₁, hadvance, hstep⟩ := advance_step policy m call stage
  rw [hadvance] at h
  cases h
  exact hstep

/-! ## What a call relies on -/

/-- What a call has found out is still so. -/
def Sound (m : Memory) (call : LinkCall) : LinkStage → Prop
  | seeking | naming => True
  | binding holder => m.holders.get? holder.id = none
  | noting record _ => m.addresses.get? call.address = some record
  | done report => ∃ record, m.addresses.get? call.address = some record ∧
      report.holderId = record.holderId ∧ report.addressId = record.id ∧
      (record.id, call.token) ∈ m.links.keys

/-- What a call has found out stays so as long as nothing is taken away, and nobody else enters the
holder that it has thought up. -/
theorem Sound.of_persists {m m' : Memory} {call : LinkCall} {stage : LinkStage}
    (h : m.Sound call stage) (hpersists : m.Persists m')
    (hheld : ∀ id, stage.held = some id → m'.holders.get? id = none) : m'.Sound call stage := by
  cases stage with
  | seeking => trivial
  | naming => trivial
  | binding holder => exact hheld holder.id rfl
  | noting record isNew => exact hpersists.addresses _ _ h
  | done report =>
    obtain ⟨record, hrecord, hholder, haddress, hlink⟩ := h
    obtain ⟨link, hlink⟩ := Table.exists_get?_of_mem_keys hlink
    obtain ⟨link', hlink', -⟩ := hpersists.links _ _ hlink
    exact ⟨record, hpersists.addresses _ _ hrecord, hholder, haddress,
      Table.mem_keys_of_get? hlink'⟩

/-- The holder that a call has thought up is not entered yet. -/
theorem Sound.free_of_held {m : Memory} {call : LinkCall} {stage : LinkStage} {id : Uid}
    (h : m.Sound call stage) (hid : stage.held = some id) : m.holders.get? id = none := by
  cases stage with
  | binding holder =>
    cases hid
    exact h
  | _ => cases hid

namespace Step

variable {policy : LinkPolicy} {m m' : Memory} {call : LinkCall} {stage stage' : LinkStage}

/-- A holder is thought up with the identifier that is to be given out. -/
theorem held (h : m.Step policy call stage stage' m') :
    stage'.held = none ∨ stage'.held = some m.nextId := by
  cases h with
  | named => exact Or.inr rfl
  | _ => exact Or.inl rfl

/-- A step keeps the tables together. -/
theorem consistent (h : m.Step policy call stage stage' m') (hsound : m.Sound call stage)
    (hid : ¬ m.Uses m.nextId) (hm : m.Consistent) : m'.Consistent := by
  cases h with
  | found => exact hm
  | missed => exact hm
  | named => exact hm.supplied (m.issued + 1) m.now
  | settled hchange => exact hm.of_change hchange fun _ => ⟨hsound, hid⟩
  | noted isNew hchange => exact hm.of_change hchange trivial
  | rested => exact hm

/-- A step takes nothing away. -/
theorem persists (h : m.Step policy call stage stage' m') (hsound : m.Sound call stage)
    (hid : ¬ m.Uses m.nextId) : m.Persists m' := by
  cases h with
  | found => exact .refl m
  | missed => exact .refl m
  | named => exact (Persists.refl m).supplied (m.issued + 1) m.now
  | settled hchange => exact .of_change hchange fun _ => ⟨hsound, hid⟩
  | noted isNew hchange => exact .of_change hchange trivial
  | rested => exact .refl m

/-- What a call finds out by a step is so. -/
theorem sound (h : m.Step policy call stage stage' m') (hsound : m.Sound call stage)
    (hid : m.holders.get? m.nextId = none) : m'.Sound call stage' := by
  cases h with
  | found hrecord => exact hrecord
  | missed => trivial
  | named => exact hid
  | settled hchange =>
    cases hchange with
    | asked _ hquestion => cases hquestion
    | bound holder hfree => exact Table.get?_set_self ..
    | found holder hbound => exact hbound
  | noted isNew hchange =>
    -- noting a balance leaves the account's record as it is
    have hpersists : m.Persists m' := .of_change hchange trivial
    exact ⟨_, hpersists.addresses _ _ hsound, rfl, rfl,
      hchange.mem_links_keys.2 (Or.inr (List.mem_cons_self ..))⟩
  | rested => exact hsound

/-- A step enters no holder but the one that its call has thought up. -/
theorem holders_free (h : m.Step policy call stage stage' m') {id : Uid}
    (hid : m.holders.get? id = none) (hheld : stage.held ≠ some id) :
    m'.holders.get? id = none := by
  cases h with
  | found => exact hid
  | missed => exact hid
  | named => exact hid
  | @settled holder _ _ hchange =>
    cases hchange with
    | asked _ hquestion => cases hquestion
    | bound _ hfree =>
      have hne : id ≠ holder.id := fun heq => hheld (congrArg some heq.symm)
      show (m.holders.set holder.id holder).get? id = none
      rw [Table.get?_set, if_neg hne, hid]
    | found => exact hid
  | noted isNew hchange => cases hchange <;> exact hid
  | rested => exact hid

/-- The record of an account after a step was there before, or has the identifier that was to be
given out. -/
theorem record_of (h : m.Step policy call stage stage' m') {address : Address}
    {record : AddressRecord} (hrecord : m'.addresses.get? address = some record) :
    m.addresses.get? address = some record ∨ record.id = m.nextId := by
  cases h with
  | found => exact Or.inl hrecord
  | missed => exact Or.inl hrecord
  | named => exact Or.inl hrecord
  | settled hchange =>
    cases hchange with
    | asked _ hquestion => cases hquestion
    | bound holder hfree =>
      rcases Table.get?_set_eq_some.1 hrecord with ⟨-, rfl⟩ | ⟨-, hold⟩
      · exact Or.inr rfl
      · exact Or.inl hold
    | found => exact Or.inl hrecord
  | noted isNew hchange => cases hchange <;> exact Or.inl hrecord
  | rested => exact Or.inl hrecord

end Step

/-! ## Who entered what -/

/-- A step of a call enters nothing in a table, or one new key, and then the call says so. -/
def Enters {κ : Type} (claim claim' : Option κ) (keys keys' : List κ) : Prop :=
  claim' = claim ∧ (∀ k, k ∈ keys' ↔ k ∈ keys) ∨
    ∃ key, claim = none ∧ claim' = some key ∧ key ∉ keys ∧ ∀ k, k ∈ keys' ↔ k ∈ keys ∨ k = key

/-- If each new key is claimed by exactly one call, it is so after a step too. -/
theorem Enters.count {κ : Type} [BEq κ] [LawfulBEq κ] {claim claim' : Option κ}
    {start keys keys' : List κ} (h : Enters claim claim' keys keys') (hstart : start ⊆ keys)
    {before after : List (Option κ)} {k : κ}
    (hcount : (before ++ claim :: after).count (some k) = if k ∈ keys ∧ k ∉ start then 1 else 0) :
    (before ++ claim' :: after).count (some k) = if k ∈ keys' ∧ k ∉ start then 1 else 0 := by
  rcases h with ⟨rfl, hkeys⟩ | ⟨key, rfl, rfl, hnew, hkeys⟩
  · rw [hcount]
    simp only [hkeys]
  · rw [List.count_append, List.count_cons_of_ne (by simp)] at hcount
    by_cases hk : k = key
    · -- so far no call has claimed it, and it was not there at the start either
      subst hk
      rw [if_neg fun hmem => hnew hmem.1] at hcount
      have hthere : k ∈ keys' ∧ k ∉ start :=
        ⟨(hkeys k).2 (Or.inr rfl), fun hmem => hnew (hstart hmem)⟩
      rw [if_pos hthere, List.count_append, List.count_cons_self]
      omega
    · have hsame : (k ∈ keys' ∧ k ∉ start) ↔ (k ∈ keys ∧ k ∉ start) := by
        rw [hkeys, or_iff_left hk]
      rw [List.count_append, List.count_cons_of_ne (by simpa using Ne.symm hk), hcount]
      simp only [hsame]

namespace Step

variable {policy : LinkPolicy} {m m' : Memory} {call : LinkCall} {stage stage' : LinkStage}

/-- An account is bound by the call that says so. -/
theorem enters_address (h : m.Step policy call stage stage' m') :
    Enters (stage.bound call) (stage'.bound call) m.addresses.keys m'.addresses.keys := by
  cases h with
  | found => exact Or.inl ⟨rfl, fun _ => Iff.rfl⟩
  | missed => exact Or.inl ⟨rfl, fun _ => Iff.rfl⟩
  | named => exact Or.inl ⟨rfl, fun _ => Iff.rfl⟩
  | settled hchange =>
    cases hchange with
    | asked _ hquestion => cases hquestion
    | bound holder hfree =>
      refine Or.inr ⟨call.address, rfl, rfl, Table.get?_eq_none_iff.1 hfree, fun k => ?_⟩
      rw [Table.mem_keys_set, or_comm]
    | found => exact Or.inl ⟨rfl, fun _ => Iff.rfl⟩
  | noted isNew hchange =>
    refine Or.inl ⟨rfl, fun k => ?_⟩
    rw [hchange.mem_addresses_keys]
    exact or_iff_left List.not_mem_nil
  | rested => exact Or.inl ⟨rfl, fun _ => Iff.rfl⟩

/-- A link is made by the call that says so. -/
theorem enters_link (h : m.Step policy call stage stage' m') :
    Enters (stage.linked call) (stage'.linked call) m.links.keys m'.links.keys := by
  -- only the first balance that is noted for a pair enters a link
  cases h with
  | found => exact Or.inl ⟨rfl, fun _ => Iff.rfl⟩
  | missed => exact Or.inl ⟨rfl, fun _ => Iff.rfl⟩
  | named => exact Or.inl ⟨rfl, fun _ => Iff.rfl⟩
  | settled hchange =>
    refine Or.inl ⟨rfl, fun k => ?_⟩
    rw [hchange.mem_links_keys]
    exact or_iff_left List.not_mem_nil
  | noted isNew hchange =>
    cases hchange with
    | asked _ hquestion => cases hquestion
    | linked balance policy hnew =>
      refine Or.inr ⟨_, rfl, rfl, Table.get?_eq_none_iff.1 hnew, fun k => ?_⟩
      rw [Table.mem_keys_set, or_comm]
    | kept => exact Or.inl ⟨rfl, fun _ => Iff.rfl⟩
    | relinked hlink =>
      refine Or.inl ⟨rfl, fun k => ?_⟩
      show k ∈ (m.links.set _ _).keys ↔ _
      rw [Table.keys_set_of_some hlink]
  | rested => exact Or.inl ⟨rfl, fun _ => Iff.rfl⟩

end Step

/-! ## Calls that move by turns -/

/-- Whether an identifier is new: it is no account's and no holder's, no link stands under it, and
no call has thought up a holder with it. -/
def Fresh (m : Memory) (tasks : List (LinkCall × LinkStage)) (id : Uid) : Prop :=
  ¬ m.Uses id ∧ m.holders.get? id = none ∧ id ∉ tasks.filterMap fun task => task.2.held

instance (m : Memory) (tasks : List (LinkCall × LinkStage)) (id : Uid) :
    Decidable (m.Fresh tasks id) :=
  inferInstanceAs (Decidable (_ ∧ _ ∧ _))

/-- Some call takes its next step. It is left open which one, at what time, and what identifier is
to be given out next, except that it is new. -/
inductive Moves (policy : LinkPolicy) :
    Memory × List (LinkCall × LinkStage) → Memory × List (LinkCall × LinkStage) → Prop
  | move {m m' : Memory} (before : List (LinkCall × LinkStage)) {call : LinkCall}
    {stage stage' : LinkStage} (after : List (LinkCall × LinkStage)) (issued : Nat) (now : Moment)
    (hfresh : m.Fresh (before ++ (call, stage) :: after) ⟨issued⟩)
    (hadvance : stage.advance registry policy call (m.supplied issued now) = (.ok stage', m')) :
    Moves policy (m, before ++ (call, stage) :: after) (m', before ++ (call, stage') :: after)

/-- Calls on their way in a registry that was `start` before any of them. -/
structure Settling (start : Memory) (calls : List LinkCall) (m : Memory)
    (tasks : List (LinkCall × LinkStage)) : Prop where
  calls_eq : tasks.map Prod.fst = calls
  consistent : m.Consistent
  persists : start.Persists m
  sound : ∀ task ∈ tasks, m.Sound task.1 task.2
  /-- No two calls have thought up the same holder. -/
  held_nodup : (tasks.filterMap fun task => task.2.held).Nodup
  /-- Only accounts of calls are bound anew. -/
  bound_of_call : ∀ address ∈ m.addresses.keys,
    address ∈ start.addresses.keys ∨ ∃ call ∈ calls, call.address = address
  /-- No link stood under the identifier of a record that is new. -/
  unlinked : ∀ address record, m.addresses.get? address = some record →
    address ∉ start.addresses.keys → ∀ token, (record.id, token) ∉ start.links.keys
  /-- One call has bound each account that is bound anew, and none the others. -/
  bindings : ∀ address, (tasks.map fun task => task.2.bound task.1).count (some address) =
    if address ∈ m.addresses.keys ∧ address ∉ start.addresses.keys then 1 else 0
  /-- One call has made each link that is new, and none the others. -/
  links : ∀ key, (tasks.map fun task => task.2.linked task.1).count (some key) =
    if key ∈ m.links.keys ∧ key ∉ start.links.keys then 1 else 0

namespace Persists

variable {m m' : Memory}

/-- Accounts that were bound still are. -/
theorem addresses_keys (h : m.Persists m') : m.addresses.keys ⊆ m'.addresses.keys := by
  intro address hmem
  obtain ⟨record, hrecord⟩ := Table.exists_get?_of_mem_keys hmem
  exact Table.mem_keys_of_get? (h.addresses _ _ hrecord)

/-- Links that were made still are there. -/
theorem links_keys (h : m.Persists m') : m.links.keys ⊆ m'.links.keys := by
  intro key hmem
  obtain ⟨link, hlink⟩ := Table.exists_get?_of_mem_keys hmem
  obtain ⟨link', hlink', -⟩ := h.links _ _ hlink
  exact Table.mem_keys_of_get? hlink'

end Persists

namespace Settling

variable {start m m' : Memory} {calls : List LinkCall}

/-- Before any call has taken a step. -/
theorem seeking (h : start.Consistent) (calls : List LinkCall) :
    Settling start calls start (calls.map fun call => (call, .seeking)) where
  calls_eq := by simp [Function.comp_def]
  consistent := h
  persists := .refl start
  sound task hmem := by
    obtain ⟨call, -, rfl⟩ := List.mem_map.1 hmem
    trivial
  held_nodup := by simp [List.filterMap_map, held]
  bound_of_call _ hmem := Or.inl hmem
  unlinked _ _ hrecord hnew := absurd (Table.mem_keys_of_get? hrecord) hnew
  bindings address := by
    rw [if_neg fun hmem => hmem.2 hmem.1, List.map_map]
    exact List.count_eq_zero.2 fun hmem => by simp [bound] at hmem
  links key := by
    rw [if_neg fun hmem => hmem.2 hmem.1, List.map_map]
    exact List.count_eq_zero.2 fun hmem => by simp [linked] at hmem

/-- What one call has found out is not touched by a step of another one. -/
theorem sound_other {policy : LinkPolicy} {before after : List (LinkCall × LinkStage)}
    {call : LinkCall} {stage stage' : LinkStage}
    (h : Settling start calls m (before ++ (call, stage) :: after))
    (hstep : m.Step policy call stage stage' m') (hpersists : m.Persists m')
    {task : LinkCall × LinkStage} (hmem : task ∈ before ++ after) : m'.Sound task.1 task.2 := by
  have hsub := (List.sublist_cons_self (call, stage) after).append_left before
  have hsound := h.sound task (hsub.subset hmem)
  refine hsound.of_persists hpersists fun id hid => ?_
  refine hstep.holders_free (hsound.free_of_held hid) fun hheld => ?_
  -- otherwise two calls have thought up the same holder
  have hnodup := h.held_nodup
  rw [List.filterMap_append, List.filterMap_cons] at hnodup
  simp only [hheld] at hnodup
  rw [List.nodup_middle, List.nodup_cons, ← List.filterMap_append] at hnodup
  exact hnodup.1 (List.mem_filterMap.2 ⟨task, hmem, hid⟩)

/-- **One step keeps all of it.** -/
theorem of_step {policy : LinkPolicy} {before after : List (LinkCall × LinkStage)} {call : LinkCall}
    {stage stage' : LinkStage} (h : Settling start calls m (before ++ (call, stage) :: after))
    (hfresh : m.Fresh (before ++ (call, stage) :: after) m.nextId)
    (hstep : m.Step policy call stage stage' m') :
    Settling start calls m' (before ++ (call, stage') :: after) := by
  obtain ⟨hid, hholder, hheld⟩ := hfresh
  have hsound : m.Sound call stage :=
    h.sound (call, stage) (List.mem_append_right _ (List.mem_cons_self ..))
  have hpersists : m.Persists m' := hstep.persists hsound hid
  refine ⟨?_, hstep.consistent hsound hid h.consistent, h.persists.trans hpersists, ?_, ?_, ?_, ?_,
    fun address => ?_, fun key => ?_⟩
  · rw [← h.calls_eq, List.map_append, List.map_append, List.map_cons, List.map_cons]
  · -- the call that took the step, and the others before and after it
    intro task hmem
    rcases List.mem_append.1 hmem with hbefore | htail
    · exact h.sound_other hstep hpersists (List.mem_append_left _ hbefore)
    · rcases List.mem_cons.1 htail with rfl | hafter
      · exact hstep.sound hsound hholder
      · exact h.sound_other hstep hpersists (List.mem_append_right _ hafter)
  · -- of the others no two hold one identifier; the step adds none to them, or a new one
    have hothers : ((before ++ after).filterMap fun task => task.2.held).Nodup :=
      h.held_nodup.sublist (((List.sublist_cons_self _ after).append_left before).filterMap _)
    rw [List.filterMap_append] at hothers
    rw [List.filterMap_append, List.filterMap_cons]
    rcases hstep.held with hnone | hsome
    · simpa only [hnone] using hothers
    · simp only [hsome]
      refine List.nodup_middle.2 (List.nodup_cons.2 ⟨fun hmem => hheld ?_, hothers⟩)
      rw [← List.filterMap_append] at hmem
      exact (((List.sublist_cons_self _ after).append_left before).filterMap _).subset hmem
  · intro address hmem
    rcases hstep.enters_address with ⟨-, hkeys⟩ | ⟨key, -, hclaim, -, hkeys⟩
    · exact h.bound_of_call address ((hkeys address).1 hmem)
    · rcases (hkeys address).1 hmem with hold | rfl
      · exact h.bound_of_call address hold
      · refine Or.inr ⟨call, ?_, address_of_bound hclaim⟩
        rw [← h.calls_eq, List.map_append, List.map_cons]
        exact List.mem_append_right _ (List.mem_cons_self ..)
  · intro address record hrecord hnew token
    rcases hstep.record_of hrecord with hold | heq
    · exact h.unlinked address record hold hnew token
    · -- a link at the start would still be there now, under an identifier that is not in use
      rw [heq]
      exact fun hmem =>
        Table.get?_eq_none_iff.1 ((not_uses_iff.1 hid).2 token) (h.persists.links_keys hmem)
  · have hcount := h.bindings address
    rw [List.map_append, List.map_cons] at hcount ⊢
    exact hstep.enters_address.count h.persists.addresses_keys hcount
  · have hcount := h.links key
    rw [List.map_append, List.map_cons] at hcount ⊢
    exact hstep.enters_link.count h.persists.links_keys hcount

/-- The identifier to be given out next, and the time, do not matter to calls on their way. -/
theorem supplied {tasks : List (LinkCall × LinkStage)} (h : Settling start calls m tasks)
    (issued : Nat) (now : Moment) : Settling start calls (m.supplied issued now) tasks :=
  ⟨h.calls_eq, h.consistent.supplied issued now, h.persists.supplied issued now, h.sound,
    h.held_nodup, h.bound_of_call, h.unlinked, h.bindings, h.links⟩

/-- **What every step keeps, all steps by turns keep.** -/
theorem of_moves {policy : LinkPolicy} {tasks tasks' : List (LinkCall × LinkStage)}
    (h : Settling start calls m tasks)
    (hmoves : Relation.ReflTransGen (Moves policy) (m, tasks) (m', tasks')) :
    Settling start calls m' tasks' := by
  generalize hlast : (m', tasks') = last at hmoves
  induction hmoves generalizing m' tasks' with
  | refl =>
    cases hlast
    exact h
  | tail _ hmove ih =>
    cases hmove with
    | move before after issued now hfresh hadvance =>
      cases hlast
      exact ((ih rfl).supplied issued now).of_step hfresh (step_of_advance hadvance)

end Settling

/-! ## Calls that are done -/

/-- Whether an account is bound and linked to a token. -/
def hasLink (m : Memory) (address token : Address) : Bool :=
  (m.addresses.get? address).any fun record => (m.links.get? (record.id, token)).isSome

/-- An account has a link to a token exactly if there is one under the identifier of its record. -/
theorem hasLink_iff {m : Memory} {address token : Address} :
    m.hasLink address token = true ↔
      ∃ record, m.addresses.get? address = some record ∧ (record.id, token) ∈ m.links.keys := by
  rw [hasLink, Option.any_eq_true]
  refine exists_congr fun record => and_congr_right fun _ => ?_
  rw [Option.isSome_iff_exists]
  exact ⟨fun ⟨_, hlink⟩ => Table.mem_keys_of_get? hlink, Table.exists_get?_of_mem_keys⟩

/-- The accounts of calls that are not bound yet, each once. -/
def newcomers (m : Memory) (calls : List LinkCall) : List Address :=
  ((calls.map LinkCall.address).filter (· ∉ m.addresses.keys)).dedup

/-- What calls that are done have come to, with their reports. -/
structure Converged (start : Memory) (calls : List LinkCall) (m : Memory)
    (finished : List (LinkCall × LinkReport)) : Prop where
  calls_eq : finished.map Prod.fst = calls
  /-- The account of a call has one record and one holder, which the call reports, and one link to
  the token. -/
  identity : ∀ call report, (call, report) ∈ finished → ∃ record holder link,
    m.addresses.get? call.address = some record ∧
      (∀ other ∈ m.addresses.values, other.address = call.address → other = record) ∧
      m.holders.get? record.holderId = some holder ∧
      report.holderId = record.holderId ∧ report.addressId = record.id ∧
      m.links.get? (record.id, call.token) = some link ∧
      (∀ other ∈ m.links.values, other.addressId = record.id → other.token = call.token →
        other = link)
  /-- One call reports a new identity for an account that was not bound, and none for one that
  was. -/
  new_identity : ∀ call ∈ calls,
    finished.countP (fun (other, report) => other.address = call.address ∧ report.newIdentity) =
      if call.address ∈ start.addresses.keys then 0 else 1
  /-- One call reports that it made the link of a pair that had none, and none for one that had. -/
  created : ∀ call ∈ calls,
    finished.countP (fun (other, report) =>
      other.address = call.address ∧ other.token = call.token ∧ report.link = .created) =
      if start.hasLink call.address call.token then 0 else 1
  addresses : m.addresses.size = start.addresses.size + (start.newcomers calls).length
  holders : m.holders.size = start.holders.size + (start.newcomers calls).length

namespace Settling

variable {start m : Memory} {calls : List LinkCall} {finished : List (LinkCall × LinkReport)}

/-- What a call that is done relies on. -/
theorem sound_of_done
    (h : Settling start calls m (finished.map fun (call, report) => (call, .done report)))
    {call : LinkCall} {report : LinkReport} (hmem : (call, report) ∈ finished) :
    ∃ record, m.addresses.get? call.address = some record ∧ report.holderId = record.holderId ∧
      report.addressId = record.id ∧ (record.id, call.token) ∈ m.links.keys :=
  h.sound (call, .done report) (List.mem_map.2 ⟨(call, report), hmem, rfl⟩)

/-- Every call has come to one record, one holder and one link. -/
theorem identity
    (h : Settling start calls m (finished.map fun (call, report) => (call, .done report)))
    {call : LinkCall} {report : LinkReport} (hmem : (call, report) ∈ finished) :
    ∃ record holder link, m.addresses.get? call.address = some record ∧
      (∀ other ∈ m.addresses.values, other.address = call.address → other = record) ∧
      m.holders.get? record.holderId = some holder ∧
      report.holderId = record.holderId ∧ report.addressId = record.id ∧
      m.links.get? (record.id, call.token) = some link ∧
      (∀ other ∈ m.links.values, other.addressId = record.id → other.token = call.token →
        other = link) := by
  obtain ⟨record, hrecord, hholderId, haddressId, hlink⟩ := h.sound_of_done hmem
  obtain ⟨holder, hholder⟩ := h.consistent.exists_holder hrecord
  obtain ⟨link, hlink⟩ := Table.exists_get?_of_mem_keys hlink
  refine ⟨record, holder, link, hrecord, fun other hother haddress => ?_, hholder, hholderId,
    haddressId, hlink, fun other hother hid htoken => ?_⟩
  · -- a record with this account stands under it
    obtain ⟨key, hkey⟩ := Table.mem_values_iff.1 hother
    rw [← h.consistent.addresses_keyed _ _ hkey, haddress, hrecord] at hkey
    exact (Option.some.inj hkey).symm
  · obtain ⟨key, hkey⟩ := Table.mem_values_iff.1 hother
    have hname : (other.addressId, other.token) = key := h.consistent.links_keyed _ _ hkey
    rw [← hname, hid, htoken, hlink] at hkey
    exact (Option.some.inj hkey).symm

/-- Who reports a new identity. -/
theorem new_identity
    (h : Settling start calls m (finished.map fun (call, report) => (call, .done report)))
    {call : LinkCall} {report : LinkReport} (hmem : (call, report) ∈ finished) :
    finished.countP (fun (other, report) => other.address = call.address ∧ report.newIdentity) =
      if call.address ∈ start.addresses.keys then 0 else 1 := by
  obtain ⟨record, hrecord, -⟩ := h.sound_of_done hmem
  have hcount := h.bindings call.address
  rw [List.map_map, List.count, List.countP_map] at hcount
  have hthere : call.address ∈ m.addresses.keys := Table.mem_keys_of_get? hrecord
  simp only [hthere, true_and, ite_not] at hcount
  rw [← hcount]
  refine List.countP_congr fun f _ => ?_
  simp [bound, and_comm]

/-- An account that has a record now was linked to a token before just if its record was. -/
theorem links_start_iff {tasks : List (LinkCall × LinkStage)} (h : Settling start calls m tasks)
    {address : Address} {record : AddressRecord} (hrecord : m.addresses.get? address = some record)
    {token : Address} :
    (record.id, token) ∈ start.links.keys ↔ start.hasLink address token = true := by
  rw [hasLink_iff]
  constructor
  · intro hlink
    by_cases hold : address ∈ start.addresses.keys
    · obtain ⟨record₀, hrecord₀⟩ := Table.exists_get?_of_mem_keys hold
      have heq := h.persists.addresses _ _ hrecord₀
      rw [hrecord] at heq
      cases heq
      exact ⟨record, hrecord₀, hlink⟩
    · exact absurd hlink (h.unlinked address record hrecord hold token)
  · rintro ⟨record₀, hrecord₀, hlink⟩
    have heq := h.persists.addresses _ _ hrecord₀
    rw [hrecord] at heq
    cases heq
    exact hlink

/-- Who reports that a link was made. -/
theorem created
    (h : Settling start calls m (finished.map fun (call, report) => (call, .done report)))
    {call : LinkCall} {report : LinkReport} (hmem : (call, report) ∈ finished) :
    finished.countP (fun (other, report) =>
      other.address = call.address ∧ other.token = call.token ∧ report.link = .created) =
      if start.hasLink call.address call.token then 0 else 1 := by
  obtain ⟨record, hrecord, -, -, hlink⟩ := h.sound_of_done hmem
  have hcount := h.links (record.id, call.token)
  rw [List.map_map, List.count, List.countP_map] at hcount
  simp only [hlink, h.links_start_iff hrecord, true_and, ite_not] at hcount
  rw [← hcount]
  refine List.countP_congr fun (other, result) hother => ?_
  obtain ⟨record', hrecord', -, haddressId, -⟩ := h.sound_of_done hother
  -- two calls speak of one record just if they speak of one account
  have hsame : other.address = call.address ↔ result.addressId = record.id := by
    rw [haddressId]
    constructor
    · intro heq
      rw [heq, hrecord] at hrecord'
      rw [Option.some.inj hrecord']
    · exact h.consistent.ids_apart _ _ _ _ hrecord' hrecord
  simp only [linked, hsame, decide_eq_true_eq, Function.comp_apply, beq_iff_eq,
    Option.ite_none_right_eq_some, Option.some.injEq, Prod.mk.injEq]
  exact ⟨fun ⟨hid, htoken, hcreated⟩ => ⟨hcreated, hid, htoken⟩,
    fun ⟨hcreated, hid, htoken⟩ => ⟨hid, htoken, hcreated⟩⟩

/-- How many accounts are bound. -/
theorem size_addresses
    (h : Settling start calls m (finished.map fun (call, report) => (call, .done report))) :
    m.addresses.size = start.addresses.size + (start.newcomers calls).length := by
  have hmem : ∀ address, address ∈ m.addresses.keys ↔
      address ∈ start.addresses.keys ++ start.newcomers calls := by
    intro address
    rw [List.mem_append, newcomers, List.mem_dedup, List.mem_filter, List.mem_map]
    constructor
    · -- an account that is bound now was bound at the start, or it is that of a call
      intro hnow
      by_cases hold : address ∈ start.addresses.keys
      · exact Or.inl hold
      · exact Or.inr ⟨(h.bound_of_call address hnow).resolve_left hold, by simpa using hold⟩
    · -- and what was bound is bound still, as is the account of every call that is done
      rintro (hold | ⟨⟨call, hcall, rfl⟩, -⟩)
      · exact h.persists.addresses_keys hold
      · rw [← h.calls_eq, List.map_map, List.mem_map] at hcall
        obtain ⟨⟨call, report⟩, hdone, rfl⟩ := hcall
        obtain ⟨record, hrecord, -⟩ := h.sound_of_done hdone
        exact Table.mem_keys_of_get? hrecord
  have hnodup : (start.addresses.keys ++ start.newcomers calls).Nodup := by
    refine List.Nodup.append start.addresses.nodup_keys (List.nodup_dedup _)
      fun address hold hnew => ?_
    have hfree := (List.mem_filter.1 (List.mem_dedup.1 hnew)).2
    simp [hold] at hfree
  rw [Table.size_eq_length hnodup hmem, List.length_append, Table.length_keys]

end Settling

/-- **Calls by turns.** However the calls take their steps, when all are done each account has one
record and one holder and each pair of account and token one link; the reports say who entered them,
which for each that is new was one call; and there are as many new accounts and holders as accounts
of calls were not bound. -/
theorem links_converge {events : List (Registry.Request × Registry.Response)} {start m : Memory}
    {policy : LinkPolicy} {calls : List LinkCall} {finished : List (LinkCall × LinkReport)}
    (hran : Ran {} events start)
    (hmoves : Relation.ReflTransGen (Moves policy)
      (start, calls.map fun call => (call, .seeking))
      (m, finished.map fun (call, report) => (call, .done report))) :
    Converged start calls m finished := by
  have hstart : start.Consistent := consistent_empty.of_ran hran
  -- the invariant holds when all calls are seeking, and each move keeps it
  have h := (Settling.seeking hstart calls).of_moves hmoves
  have hcalls : finished.map Prod.fst = calls := by
    rw [← h.calls_eq, List.map_map]
    rfl
  have hfinished : ∀ call ∈ calls, ∃ report, (call, report) ∈ finished := by
    intro call hcall
    rw [← hcalls] at hcall
    obtain ⟨⟨call, report⟩, hmem, rfl⟩ := List.mem_map.1 hcall
    exact ⟨report, hmem⟩
  refine ⟨hcalls, fun call report hmem => h.identity hmem, fun call hcall => ?_,
    fun call hcall => ?_, h.size_addresses, ?_⟩
  · obtain ⟨report, hmem⟩ := hfinished call hcall
    exact h.new_identity hmem
  · obtain ⟨report, hmem⟩ := hfinished call hcall
    exact h.created hmem
  · rw [h.consistent.size_holders, hstart.size_holders, h.size_addresses]

/-- Two balances of one account. -/
def rivalCalls : List LinkCall := [⟨default, default, 5⟩, ⟨default, default, 9⟩]

/-- Both calls miss the account, the first one binds it, and the second one makes the link. -/
def rivalReports : List (LinkCall × LinkReport) :=
  [(⟨default, default, 5⟩, ⟨⟨1⟩, ⟨3⟩, true, .updated⟩),
    (⟨default, default, 9⟩, ⟨⟨1⟩, ⟨3⟩, false, .created⟩)]

/-- Two calls for one account that both miss it converge: one binds it, and the other one makes the
link. -/
theorem links_converge_for_rivalCalls :
    ∃ m, Relation.ReflTransGen (Moves .latestWins)
        ({}, rivalCalls.map fun call => (call, .seeking))
        (m, rivalReports.map fun (call, report) => (call, .done report)) ∧
      Converged {} rivalCalls m rivalReports := by
  let one : LinkCall := ⟨default, default, 5⟩
  let two : LinkCall := ⟨default, default, 9⟩
  -- both calls miss the account and name a holder, then one of them binds it before the other
  have hmissed := Relation.ReflTransGen.single
    (@Moves.move .latestWins {} _ [] one .seeking _ [(two, .seeking)] 0 ⟨0, 0⟩ (by decide) rfl)
  have hmissed' := hmissed.tail
    (@Moves.move _ _ _ [(one, .naming)] two .seeking _ [] 0 ⟨0, 0⟩ (by decide) rfl)
  have hnamed := hmissed'.tail
    (@Moves.move _ _ _ [] one .naming _ [(two, .naming)] 1 ⟨1, 0⟩ (by decide) rfl)
  have hnamed' := hnamed.tail
    (@Moves.move _ _ _ [(one, _)] two .naming _ [] 2 ⟨1, 0⟩ (by decide) rfl)
  have hbound := hnamed'.tail
    (@Moves.move _ _ _ [] one _ _ [(two, _)] 3 ⟨2, 0⟩ (by decide) rfl)
  have hlost := hbound.tail
    (@Moves.move _ _ _ [(one, _)] two _ _ [] 4 ⟨3, 0⟩ (by decide) rfl)
  have hlinked := hlost.tail
    (@Moves.move _ _ _ [(one, _)] two _ _ [] 4 ⟨4, 0⟩ (by decide) rfl)
  have hdone := hlinked.tail
    (@Moves.move _ _ _ [] one _ _ [(two, _)] 5 ⟨5, 0⟩ (by decide) rfl)
  exact ⟨_, hdone, links_converge .start hdone⟩

end Memory

end TokenAudit
