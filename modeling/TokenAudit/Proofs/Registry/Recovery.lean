import TokenAudit.Proofs.Registry.Renaming

/-! # Recovering from failed attempts

Linking a holder is looking its account up, binding it and noting its balance, and each of these can
fail. What was done before the failure stays: the account may be bound, to a holder that nobody was
told of. Linking it again finds it bound, and ends where linking it once would have ended, whatever
was tried in between.

* `Memory.Tried` — what an attempt makes of a registry, and `Registry.Falters.linkHolder_tried`,
  that it makes this;
* `Memory.Enrolled` — what attempts make of holders and accounts;
* `Dated` — which stamps may stand for others when things were done later;
* `Attempt`, `tryAll` — an attempt at linking a holder, and attempts one after the other.

One attempt (`Tried.enrolled`, `Tried.recovers`) comes before all of them (`enrolled_tryAll`,
`recovers_tryAll`), and an account that is merely not found (`linkHolder_blind`) after them. Main
statement: `linkHolder_recovers`. -/

namespace TokenAudit

variable {ρ : Type} {policy : LinkPolicy} {token address : Address} {balance : Nat}

namespace Memory

/-! ## What an attempt comes to -/

/-- What coming to the record of an account makes of a registry. -/
inductive Identified (address : Address) (m : Memory) : AddressRecord → Bool → Memory → Prop
  /-- The account was bound. If that was not seen at first, a holder was thought up in vain. -/
  | known {record : AddressRecord} {issued : Nat} (hbound : m.addresses.get? address = some record)
    (hissued : m.issued ≤ issued) : Identified address m record false (m.supplied issued m.now)
  /-- The account was not bound, and is now. -/
  | enrolled (hfree : m.addresses.get? address = none) :
    Identified address m (m.newRecord address) true (m.bindNew address)

/-- What an attempt at linking a holder makes of a registry. -/
inductive Tried (policy : LinkPolicy) (token address : Address) (balance : Nat) (m : Memory) :
    Except Fault LinkReport → Memory → Prop
  /-- It failed and entered nothing. A holder may have been thought up in vain. -/
  | lost (fault : Fault) {issued : Nat} (hissued : m.issued ≤ issued) :
    Tried policy token address balance m (.error fault) (m.supplied issued m.now)
  /-- It failed when the account had been bound. -/
  | unlinked (fault : Fault) (hfree : m.addresses.get? address = none) :
    Tried policy token address balance m (.error fault) (m.bindNew address)
  /-- It did what linking does when nothing fails. A holder may have been thought up in vain
  before. -/
  | done {issued : Nat} {report : LinkReport} {m' : Memory} (hissued : m.issued ≤ issued)
    (hrun : linkHolder registry policy token address balance (m.supplied issued m.now) =
      (.ok report, m')) :
    Tried policy token address balance m (.ok report) m'

/-- Noting the balance of an account, when its record has been come to, completes linking. -/
theorem Identified.linkHolder_eq {m m₁ : Memory} {record : AddressRecord} {isNew : Bool}
    (h : m.Identified address record isNew m₁) (policy : LinkPolicy) (token : Address)
    (balance : Nat) :
    ∃ issued, m.issued ≤ issued ∧
      linkHolder registry policy token address balance (m.supplied issued m.now) =
        (.ok ⟨record.holderId, record.id, isNew, (linkToken record.id token balance policy m₁).1⟩,
          (linkToken record.id token balance policy m₁).2) := by
  cases h with
  | @known _ issued hbound hissued =>
    exact ⟨issued, hissued,
      linkHolder_of_bound (m := m.supplied issued m.now) hbound policy token balance⟩
  | enrolled hfree => exact ⟨_, le_rfl, linkHolder_of_free hfree policy token balance⟩

/-- If that fails, the account is bound all the same. -/
theorem Identified.tried_error {m m₁ : Memory} {record : AddressRecord} {isNew : Bool}
    (h : m.Identified address record isNew m₁) (fault : Fault) :
    m.Tried policy token address balance (.error fault) m₁ := by
  cases h with
  | known _ hissued => exact .lost fault hissued
  | enrolled hfree => exact .unlinked fault hfree

end Memory

namespace Registry.Falters

variable {registry : Registry ρ} {entries : ρ → Memory}

/-- Coming to the record of an account fails after a holder was thought up, or comes to it. -/
theorem identify_cases (h : registry.Falters entries) {found : Option AddressRecord} {s : ρ}
    (hfound : ∀ record ∈ found, (entries s).addresses.get? address = some record) :
    (∃ fault s', identify registry address found s = (.error fault, s') ∧
      entries s' = (entries s).issue) ∨
      ∃ record isNew s', identify registry address found s = (.ok (record, isNew), s') ∧
        (entries s).Identified address record isNew (entries s') := by
  cases found with
  | some record => exact Or.inr ⟨record, false, s, rfl, .known (hfound record rfl) le_rfl⟩
  | none =>
    obtain ⟨s₁, hlifted, hissue⟩ := h.newHolder_ok s
    rw [identify, Action.bind_of_ok hlifted]
    rcases hbind : registry.bind (entries s).newHolder.1 address s₁ with ⟨fault | binding, s'⟩
    · have hkept := h.failed (.bind (entries s).newHolder.1 address) (Action.map_of_error hbind _)
      exact Or.inl ⟨fault, s', Action.bind_of_error hbind _, hkept.trans hissue⟩
    · have hbound := h.bind_ok hbind
      refine Or.inr ⟨binding.record, binding.isNew, s', Action.bind_of_ok hbind _, ?_⟩
      rw [hissue] at hbound
      -- the lookup may have missed the account; binding it does not
      cases hrecord : (entries s).addresses.get? address with
      | some record =>
        rw [Memory.bind_of_bound (m := (entries s).issue) _ hrecord] at hbound
        obtain ⟨rfl, hentries⟩ := Prod.mk.inj hbound
        rw [← hentries]
        exact .known hrecord (Nat.le_succ _)
      | none =>
        rw [Memory.bind_of_free (m := (entries s).issue) _ hrecord] at hbound
        obtain ⟨rfl, hentries⟩ := Prod.mk.inj hbound
        rw [← hentries]
        exact .enrolled hrecord

/-- **What an attempt at linking a holder comes to**, whatever fails. -/
theorem linkHolder_tried (h : registry.Falters entries) (policy : LinkPolicy)
    (token address : Address) (balance : Nat) (s : ρ) :
    (entries s).Tried policy token address balance
      (linkHolder registry policy token address balance s).1
      (entries (linkHolder registry policy token address balance s).2) := by
  rw [linkHolder]
  -- the attempt may fail at each of its three calls
  rcases hfind : registry.findAddress address s with ⟨fault | found, s₁⟩
  · rw [Action.bind_of_error hfind, h.failed (.findAddress address) (Action.map_of_error hfind _)]
    exact .lost fault le_rfl
  rw [Action.bind_of_ok hfind]
  obtain ⟨hsame, hfound⟩ := h.findAddress_ok hfind
  rw [← hsame] at hfound ⊢
  rcases h.identify_cases hfound
    with ⟨fault, s₂, hrun, hissue⟩ | ⟨record, isNew, s₂, hrun, hidentified⟩
  · rw [Action.bind_of_error hrun, hissue]
    exact .lost fault (Nat.le_succ _)
  rw [Action.bind_of_ok hrun]
  dsimp only
  rcases hlink : registry.linkToken record.id token balance policy s₂ with ⟨fault | outcome, s₃⟩
  · rw [Action.bind_of_error hlink,
      h.failed (.linkToken record.id token balance policy) (Action.map_of_error hlink _)]
    exact hidentified.tried_error fault
  · rw [Action.bind_of_ok hlink]
    obtain ⟨issued, hissued, hcomplete⟩ := hidentified.linkHolder_eq policy token balance
    rw [h.linkToken_ok hlink] at hcomplete
    exact .done hissued hcomplete

end Registry.Falters

namespace Memory

variable {m m₁ m' : Memory} {result : Except Fault LinkReport}

/-! ## Links, holders and accounts after an attempt -/

/-- An attempt that failed leaves the links as they are. -/
theorem Tried.links_of_error {fault : Fault}
    (h : m.Tried policy token address balance (.error fault) m') : m'.links = m.links := by
  cases h with
  | lost => rfl
  | unlinked => rfl

/-- The holders and the accounts of one registry are those of another one, or one account more is
bound there, which was not, to one holder more. -/
inductive Enrolled (address : Address) (m m' : Memory) : Prop
  /-- Nothing was bound. -/
  | same (hholders : m'.holders = m.holders) (haddresses : m'.addresses = m.addresses)
  /-- The account was bound to a holder that was not there. -/
  | entered (holder : Holder) (record : AddressRecord) (hfree : m.addresses.get? address = none)
    (hnew : m.holders.get? holder.id = none) (hholder : record.holderId = holder.id)
    (haddress : record.address = address) (hholders : m'.holders = m.holders.set holder.id holder)
    (haddresses : m'.addresses = m.addresses.set address record)

/-- An account that is bound once is not bound again. -/
theorem Enrolled.trans (h : m.Enrolled address m₁) (h' : m₁.Enrolled address m') :
    m.Enrolled address m' := by
  cases h with
  | same hholders haddresses =>
    cases h' with
    | same hholders' haddresses' =>
      exact .same (hholders'.trans hholders) (haddresses'.trans haddresses)
    | entered holder record hfree hnew hholder haddress hholders' haddresses' =>
      rw [hholders] at hnew hholders'
      rw [haddresses] at hfree haddresses'
      exact .entered holder record hfree hnew hholder haddress hholders' haddresses'
  | entered holder record hfree hnew hholder haddress hholders haddresses =>
    cases h' with
    | same hholders' haddresses' =>
      exact .entered holder record hfree hnew hholder haddress (hholders'.trans hholders)
        (haddresses'.trans haddresses)
    | entered _ _ hfree' =>
      -- the account would have been free after it was bound
      rw [haddresses, Table.get?_set_self] at hfree'
      cases hfree'

/-- Binding an account to a new holder adds the two, and nothing else. -/
theorem enrolled_bindNew (hfree : m.addresses.get? address = none) (hsupply : m.HasSupply) :
    m.Enrolled address (m.bindNew address) :=
  .entered m.newHolder.1 (m.newRecord address) hfree (hsupply m.issued le_rfl).1 rfl rfl rfl rfl

/-- Noting a balance binds nothing. -/
theorem enrolled_linkToken (addressId : Uid) :
    m.Enrolled address (linkToken addressId token balance policy m).2 := by
  have hchange := change_linkToken addressId token balance policy m
  generalize (linkToken addressId token balance policy m).2 = m' at hchange ⊢
  generalize (linkToken addressId token balance policy m).1 = outcome at hchange
  cases hchange with
  | asked _ hquestion => cases hquestion
  | linked => exact .same rfl rfl
  | kept => exact .same rfl rfl
  | relinked => exact .same rfl rfl

/-- Linking a holder binds its account, if it is not bound. -/
theorem enrolled_linkHolder (hsupply : m.HasSupply) :
    m.Enrolled address (linkHolder registry policy token address balance m).2 := by
  cases hrecord : m.addresses.get? address with
  | some record =>
    rw [linkHolder_of_bound hrecord]
    exact enrolled_linkToken record.id
  | none =>
    rw [linkHolder_of_free hrecord]
    exact (enrolled_bindNew hrecord hsupply).trans (enrolled_linkToken _)

/-- **An attempt binds at most the account that it is for.** -/
theorem Tried.enrolled (h : m.Tried policy token address balance result m')
    (hsupply : m.HasSupply) : m.Enrolled address m' := by
  cases h with
  | lost => exact .same rfl rfl
  | unlinked _ hfree => exact enrolled_bindNew hfree hsupply
  | @done issued report m' hissued hrun =>
    -- identifiers that were given out in vain enter nothing
    have hlater : (m.supplied issued m.now).HasSupply :=
      fun n hn => hsupply n (Nat.le_trans hissued hn)
    have hlinked : (m.supplied issued m.now).Enrolled address
        (linkHolder registry policy token address balance (m.supplied issued m.now)).2 :=
      enrolled_linkHolder hlater
    rw [hrun] at hlinked
    have hsupplied : m.Enrolled address (m.supplied issued m.now) := .same rfl rfl
    exact hsupplied.trans hlinked

/-! ## Linking after an attempt -/

/-- Whether a stamp may stand for another one when what was done at one time was done at others. -/
def Dated (now : Moment) (times : List Moment) (stamp stamp' : Moment) : Prop :=
  stamp' = stamp ∨ stamp = now ∧ stamp' ∈ times

/-- **When a holder is linked makes no difference** but for identifiers and stamps. -/
theorem linkHolder_later {stamps : Moment → Moment → Prop} (hconsistent : m.Consistent)
    (hstocked : m.IsStocked) {issued : Nat} (hissued : m.issued ≤ issued) (now : Moment)
    (hstamps : ∀ t, stamps t t) (hnow : stamps m.now now) (policy : LinkPolicy)
    (token address : Address) (balance : Nat) :
    let once := linkHolder registry policy token address balance m
    let later := linkHolder registry policy token address balance (m.supplied issued now)
    ∃ σ : Equiv.Perm Uid, (∀ id, m.Knows id → σ id = id) ∧ IsRerun σ m.Knows stamps once later ∧
      later.1.map LinkReport.link = once.1.map LinkReport.link := by
  obtain ⟨σ, hids, hσ⟩ := hstocked.exists_shift hissued 3
  have hrenamed := hconsistent.isRenamed hσ hstamps issued now
  exact ⟨σ, hσ, hrenamed.linkHolder hids (hstocked.not_knows le_rfl) hnow policy token
    address balance⟩

/-- Linking reports the holder and the record of the account as they are kept. -/
theorem exists_record_of_linkHolder {report : LinkReport}
    (hrun : linkHolder registry policy token address balance m = (.ok report, m')) :
    ∃ record, m'.addresses.get? address = some record ∧ report.holderId = record.holderId ∧
      report.addressId = record.id := by
  cases hrecord : m.addresses.get? address with
  | some record =>
    rw [linkHolder_of_bound hrecord] at hrun
    cases hrun
    exact ⟨record, by rw [(linkToken_spec ..).1, hrecord], rfl, rfl⟩
  | none =>
    rw [linkHolder_of_free hrecord] at hrun
    cases hrun
    exact ⟨m.newRecord address, by rw [(linkToken_spec ..).1]; exact Table.get?_set_self ..,
      rfl, rfl⟩

/-- **Linking a holder once more** reports the same holder and account, and changes nothing. -/
theorem linkHolder_again (hconsistent : m.Consistent) (hsupply : m.HasSupply) {report : LinkReport}
    (hrun : linkHolder registry policy token address balance m = (.ok report, m')) (issued : Nat)
    (now : Moment) :
    ∃ again : LinkReport, again.holderId = report.holderId ∧ again.addressId = report.addressId ∧
      linkHolder registry policy token address balance (m'.supplied issued now) =
        (.ok again, m'.supplied issued now) := by
  -- the balance that is noted by now is one that the policy lets stand
  have hrelinked := Relinked.single policy token ⟨address, balance⟩ hconsistent hsupply
  rw [hrun] at hrelinked
  have hsettled : (m'.supplied issued now).Settled policy token ⟨address, balance⟩ :=
    hrelinked.settled (List.mem_singleton_self _)
  obtain ⟨again, -, -, hagain⟩ := linkHolder_of_settled hsettled
  obtain ⟨record, hrecord, hholderId, haddressId⟩ := exists_record_of_linkHolder hrun
  obtain ⟨record', hrecord', hholderId', haddressId'⟩ := exists_record_of_linkHolder hagain
  obtain rfl : record = record' := Option.some.inj (hrecord.symm.trans hrecord')
  exact ⟨again, hholderId'.trans hholderId.symm, haddressId'.trans haddressId.symm, hagain⟩

/-- **Linking a holder whose account was bound before** comes to the same as binding it then. -/
theorem linkHolder_bindNew {stamps : Moment → Moment → Prop} (hconsistent : m.Consistent)
    (hstocked : m.IsStocked) (hfree : m.addresses.get? address = none) (before : Moment)
    (hstamps : ∀ t, stamps t t) (hbefore : stamps m.now before) (policy : LinkPolicy)
    (token : Address) (balance : Nat) :
    let bound := (m.supplied m.issued before).bindNew address
    let once := linkHolder registry policy token address balance m
    let later :=
      linkHolder registry policy token address balance (bound.supplied bound.issued m.now)
    IsRerun (Equiv.refl Uid) m.Knows stamps once later ∧
      later.1.map LinkReport.link = once.1.map LinkReport.link := by
  intro bound once later
  have hrecord : (bound.supplied bound.issued m.now).addresses.get? address =
      some ((m.supplied m.issued before).newRecord address) := Table.get?_set_self ..
  have hsame : (m.newRecord address).IsRenamed (Equiv.refl Uid) stamps
      ((m.supplied m.issued before).newRecord address) := ⟨rfl, rfl, rfl, hbefore⟩
  -- but for the stamp, the account is bound as it would be now
  have hrenamed : m.IsRenamed (Equiv.refl Uid) m.Knows stamps (m.supplied m.issued before) :=
    hconsistent.isRenamed (fun _ _ => rfl) hstamps m.issued before
  have hbound : (m.bindNew address).IsRenamed (Equiv.refl Uid) m.Knows stamps bound :=
    hrenamed.bindNew address rfl rfl (hstocked.not_knows le_rfl) hbefore
  obtain ⟨hrerun, houtcome⟩ := (hbound.supplied bound.issued m.now).isRerun hsame rfl
    (hstamps m.now) true false token balance policy
  rw [show once = _ from linkHolder_of_free hfree policy token balance,
    show later = _ from linkHolder_of_bound hrecord policy token balance]
  exact ⟨hrerun, congrArg Except.ok houtcome⟩

/-- **Linking after an attempt** comes to the same as linking instead of it. If the attempt failed,
it does the same to the link. -/
theorem Tried.recovers {tried : Moment}
    (h : (m.supplied m.issued tried).Tried policy token address balance result m')
    (hconsistent : m.Consistent) (hstocked : m.IsStocked) (now : Moment) :
    let once := linkHolder registry policy token address balance (m.supplied m.issued now)
    let again := linkHolder registry policy token address balance (m'.supplied m'.issued now)
    ∃ σ : Equiv.Perm Uid, (∀ id, m.Knows id → σ id = id) ∧
      IsRerun σ m.Knows (Dated now [tried]) once again ∧
      ((∃ fault, result = .error fault) →
        again.1.map LinkReport.link = once.1.map LinkReport.link) := by
  have hconsistent' := hconsistent.supplied m.issued now
  have hstocked' : (m.supplied m.issued now).IsStocked := hstocked.supplied le_rfl now
  have hstamps : ∀ t, Dated now [tried] t t := fun _ => Or.inl rfl
  have hnow : Dated now [tried] now tried := Or.inr ⟨rfl, List.mem_singleton_self tried⟩
  cases h with
  | lost fault hissued =>
    -- the entries are as they were, only other identifiers are to be given out
    obtain ⟨σ, hσ, hrerun, hlink⟩ := linkHolder_later hconsistent' hstocked' hissued now
      hstamps (hstamps now) policy token address balance
    exact ⟨σ, hσ, hrerun, fun _ => hlink⟩
  | unlinked fault hfree =>
    obtain ⟨hrerun, hlink⟩ := linkHolder_bindNew hconsistent' hstocked' hfree tried hstamps hnow
      policy token balance
    exact ⟨Equiv.refl Uid, fun _ _ => rfl, hrerun, fun _ => hlink⟩
  | done hissued hrun =>
    -- the attempt came to the same, and linking once more changes nothing
    obtain ⟨σ, hσ, hrerun, -⟩ := linkHolder_later hconsistent' hstocked' hissued tried hstamps hnow
      policy token address balance
    obtain ⟨again, hholderId, haddressId, hagain⟩ := linkHolder_again (hconsistent.supplied _ tried)
      (hstocked.supplied hissued tried).hasSupply hrun m'.issued now
    rw [show linkHolder registry policy token address balance
      ((m.supplied m.issued now).supplied _ tried) = _ from hrun] at hrerun
    obtain ⟨report₀, report, honce, hreport, hsame⟩ := hrerun.report
    cases hreport
    refine ⟨σ, hσ, ⟨⟨report₀, again, honce, congrArg Prod.fst hagain, ?_⟩, ?_⟩,
      fun ⟨_, hfailed⟩ => by cases hfailed⟩
    · exact ⟨hholderId.trans hsame.holderId, haddressId.trans hsame.addressId⟩
    · rw [hagain]
      exact hrerun.registry.supplied m'.issued now

end Memory

/-! ## One attempt after the other -/

/-- An attempt at linking a holder: a registry in memory of which any operation may fail, and the
time. -/
structure Attempt where
  /-- The registry. -/
  registry : Registry Memory
  falters : registry.Falters id
  /-- When it is made. -/
  now : Moment

namespace Attempt

/-- An attempt of which nothing fails. -/
def sound (now : Moment) : Attempt := ⟨Memory.registry, Memory.falters, now⟩

/-- An attempt behind a guard. -/
def guarded (guard : Guard) (now : Moment) : Attempt :=
  ⟨Memory.registry.guarded guard, guarded_falters guard, now⟩

/-- An attempt of which nothing fails but that the account is not found, be it bound or not. -/
def blind (now : Moment) : Attempt := guarded { isBlind := true } now

/-- What an attempt comes to. -/
def make (attempt : Attempt) (policy : LinkPolicy) (token address : Address) (balance : Nat)
    (m : Memory) : Except Fault LinkReport × Memory :=
  linkHolder attempt.registry policy token address balance (m.supplied m.issued attempt.now)

variable {m : Memory}

/-- Whatever fails of an attempt, it makes of a registry what attempts can make of it. -/
theorem make_tried (attempt : Attempt) (policy : LinkPolicy) (token address : Address)
    (balance : Nat) (m : Memory) :
    (m.supplied m.issued attempt.now).Tried policy token address balance
      (attempt.make policy token address balance m).1
      (attempt.make policy token address balance m).2 :=
  attempt.falters.linkHolder_tried policy token address balance (m.supplied m.issued attempt.now)

/-- An attempt keeps the tables together and takes nothing away. -/
theorem make_keeps (attempt : Attempt) (policy : LinkPolicy) (token address : Address)
    (balance : Nat) (hconsistent : m.Consistent) (hstocked : m.IsStocked) :
    let m' := (attempt.make policy token address balance m).2
    m'.Consistent ∧ m'.IsStocked ∧ m.Persists m' := by
  have hkept := attempt.falters.linkHolder_keeps (Memory.IsStocked.keptByLinking token)
    policy address balance (s := m.supplied m.issued attempt.now)
    ⟨hconsistent.supplied _ _, hstocked.supplied le_rfl _⟩
  have hpersists := attempt.falters.linkHolder_keeps (Memory.Persists.keptByLinking token m)
    policy address balance (s := m.supplied m.issued attempt.now)
    ⟨(Memory.Persists.refl m).supplied _ _, hstocked.hasSupply⟩
  exact ⟨hkept.1, hkept.2, hpersists.1⟩

end Attempt

/-- What attempts at linking a holder come to, one after the other. -/
def tryAll (policy : LinkPolicy) (token address : Address) (balance : Nat) :
    List Attempt → Memory → List (Except Fault LinkReport) × Memory
  | [], m => ([], m)
  | attempt :: rest, m =>
    let (result, m₁) := attempt.make policy token address balance m
    let (results, m') := tryAll policy token address balance rest m₁
    (result :: results, m')

namespace Memory

variable {m m' : Memory}

/-- **Attempts bind at most the account that they are for**, and to one holder. -/
theorem enrolled_tryAll (policy : LinkPolicy) (token address : Address) (balance : Nat)
    (attempts : List Attempt) (hconsistent : m.Consistent) (hstocked : m.IsStocked) :
    m.Enrolled address (tryAll policy token address balance attempts m).2 := by
  induction attempts generalizing m with
  | nil => exact .same rfl rfl
  | cons attempt rest ih =>
    obtain ⟨hconsistent', hstocked', -⟩ :=
      attempt.make_keeps policy token address balance hconsistent hstocked
    have hsupplied : m.Enrolled address (m.supplied m.issued attempt.now) := .same rfl rfl
    have hfirst := (attempt.make_tried policy token address balance m).enrolled hstocked.hasSupply
    exact (hsupplied.trans hfirst).trans (ih hconsistent' hstocked')

/-- Attempts keep the tables together. -/
theorem tryAll_keeps (policy : LinkPolicy) (token address : Address) (balance : Nat)
    (attempts : List Attempt) (hconsistent : m.Consistent) (hstocked : m.IsStocked) :
    let m' := (tryAll policy token address balance attempts m).2
    m'.Consistent ∧ m'.IsStocked := by
  induction attempts generalizing m with
  | nil => exact ⟨hconsistent, hstocked⟩
  | cons attempt rest ih =>
    obtain ⟨hconsistent', hstocked', -⟩ :=
      attempt.make_keeps policy token address balance hconsistent hstocked
    exact ih hconsistent' hstocked'

/-- A stamp stands for one at the time of an attempt or of those after it. -/
theorem Dated.trans {now tried : Moment} {times : List Moment} {a b c : Moment}
    (h : Dated now [tried] a b) (h' : Dated now times b c) : Dated now (tried :: times) a c := by
  rcases h with rfl | ⟨rfl, hb⟩
  · exact h'.imp_right fun ⟨hnow, hc⟩ => ⟨hnow, List.mem_cons_of_mem _ hc⟩
  · rcases h' with rfl | ⟨-, hc⟩
    · exact Or.inr ⟨rfl, List.mem_cons.2 (Or.inl (List.mem_singleton.1 hb))⟩
    · exact Or.inr ⟨rfl, List.mem_cons_of_mem _ hc⟩

/-- **Linking after attempts** comes to the same as linking instead of them. If all of them failed,
it does the same to the link. -/
theorem recovers_tryAll (policy : LinkPolicy) (token address : Address) (balance : Nat)
    (attempts : List Attempt) (hconsistent : m.Consistent) (hstocked : m.IsStocked)
    (now later : Moment) :
    let tried := tryAll policy token address balance attempts m
    let once := (Attempt.sound now).make policy token address balance m
    let again := (Attempt.sound later).make policy token address balance tried.2
    ∃ σ : Equiv.Perm Uid, (∀ id, m.Knows id → σ id = id) ∧
      IsRerun σ m.Knows (Dated now (attempts.map Attempt.now ++ [later])) once again ∧
      ((∀ result ∈ tried.1, ∃ fault, result = .error fault) →
        again.1.map LinkReport.link = once.1.map LinkReport.link) := by
  induction attempts generalizing m with
  | nil =>
    have hstamps : ∀ t, Dated now [later] t t := fun _ => Or.inl rfl
    have hnow : Dated now [later] now later := Or.inr ⟨rfl, List.mem_singleton_self later⟩
    obtain ⟨σ, hσ, hrerun, hlink⟩ := linkHolder_later (hconsistent.supplied m.issued now)
      (hstocked.supplied le_rfl now) le_rfl later hstamps hnow policy token address balance
    exact ⟨σ, hσ, hrerun, fun _ => hlink⟩
  | cons attempt rest ih =>
    obtain ⟨hconsistent', hstocked', hpersists⟩ :=
      attempt.make_keeps policy token address balance hconsistent hstocked
    -- linking after the first attempt, at the time at which it is linked once, lies in between
    obtain ⟨σ, hσ, hfirst, hlink⟩ := (attempt.make_tried policy token address balance m).recovers
      hconsistent hstocked now
    obtain ⟨σ', hσ', hrest, hlink'⟩ := ih hconsistent' hstocked'
    -- what is known at first is known after the attempt, so neither exchange touches it
    refine ⟨σ.trans σ', fun id hid => ?_, hfirst.trans hrest (fun id hid => ?_) Dated.trans,
      fun hfailed => ?_⟩
    · rw [Equiv.trans_apply, hσ id hid]
      exact hσ' id (hpersists.knows hid)
    · rw [hσ id hid]
      exact hpersists.knows hid
    · obtain ⟨hfailed, hfailed'⟩ := List.forall_mem_cons.1 hfailed
      exact (hlink' hfailed').trans (hlink hfailed)

/-! ## A lookup that finds nothing -/

/-- A bound account that is not found gets no second holder, though one is thought up. -/
theorem linkHolder_blind_of_bound {record : AddressRecord}
    (hbound : m.addresses.get? address = some record) (policy : LinkPolicy) (token : Address)
    (balance : Nat) :
    linkHolder (registry.guarded { isBlind := true }) policy token address balance m =
      linkHolder registry policy token address balance m.issue := by
  have hmissed : (registry.guarded { isBlind := true }).findAddress address m = (.ok none, m) := rfl
  -- the holder is thought up before it is seen that the account is bound
  have hidentify : identify (registry.guarded { isBlind := true }) address none m =
      (.ok (record, false), m.issue) :=
    identify_none (bind_of_bound (m := m.issue) m.newHolder.1 hbound)
  rw [linkHolder, Action.bind_of_ok hmissed, Action.bind_of_ok hidentify,
    linkHolder_of_bound (m := m.issue) hbound]
  rfl

/-- An account that is not bound is not found anyway. -/
theorem linkHolder_blind_of_free (hfree : m.addresses.get? address = none) (policy : LinkPolicy)
    (token : Address) (balance : Nat) :
    linkHolder (registry.guarded { isBlind := true }) policy token address balance m =
      linkHolder registry policy token address balance m := by
  have hmissed : (registry.guarded { isBlind := true }).findAddress address m = (.ok none, m) := rfl
  have hfind : registry.findAddress address m = (.ok none, m) := by
    rw [← hfree]
    rfl
  rw [linkHolder, Action.bind_of_ok hmissed, linkHolder, Action.bind_of_ok hfind]
  rfl

/-- **Not finding an account makes no difference**: what is reported is the same, and so is the
registry but for identifiers. -/
theorem linkHolder_blind (hconsistent : m.Consistent) (hstocked : m.IsStocked) (policy : LinkPolicy)
    (token address : Address) (balance : Nat) :
    let seen := linkHolder registry policy token address balance m
    let missed := linkHolder (registry.guarded { isBlind := true }) policy token address balance m
    missed.1 = seen.1 ∧
      ∃ σ : Equiv.Perm Uid, (∀ id, m.Knows id → σ id = id) ∧
        seen.2.IsRenamed σ m.Knows Eq missed.2 := by
  dsimp only
  cases hrecord : m.addresses.get? address with
  | some record =>
    obtain ⟨σ, hσ, hrerun, hlink⟩ := linkHolder_later hconsistent hstocked (Nat.le_succ _) m.now
      (fun _ => rfl) rfl policy token address balance
    rw [linkHolder_blind_of_bound hrecord]
    refine ⟨?_, σ, hσ, hrerun.registry⟩
    -- both reports are on one record, so that they could only differ in what became of the link
    change Except.map LinkReport.link
      (linkHolder registry policy token address balance m.issue).1 = _ at hlink
    rw [linkHolder_of_bound (m := m.issue) hrecord, linkHolder_of_bound hrecord] at hlink ⊢
    exact congrArg (fun link => Except.ok (LinkReport.mk record.holderId record.id false link))
      (Except.ok.inj hlink)
  | none =>
    obtain ⟨σ, hσ, hrerun, -⟩ := linkHolder_later hconsistent hstocked le_rfl m.now
      (fun _ => rfl) rfl policy token address balance
    rw [linkHolder_blind_of_free hrecord]
    exact ⟨rfl, σ, hσ, hrerun.registry⟩

/-! ## Recovery -/

/-- **Linking a holder recovers from failed attempts.** Whatever failed in attempts at linking a
holder, one that failed changed no link, and all of them together bound at most the account of the
holder, to one new holder, and only if it was not bound. Linking it then comes to the same as
linking it once instead, but for identifiers that are new, for the name of a holder that is new, and
for stamps; if all attempts failed, it does the same to the link. When only the account is not
found, the report is the same, and so is the registry but for identifiers that are new. -/
theorem linkHolder_recovers {events : List (Registry.Request × Registry.Response)} {start : Memory}
    (hran : Ran {} events start) (hstocked : start.IsStocked) (policy : LinkPolicy)
    (token address : Address) (balance : Nat) (attempts : List Attempt) (now later : Moment) :
    let tried := tryAll policy token address balance attempts start
    let once := (Attempt.sound now).make policy token address balance start
    let again := (Attempt.sound later).make policy token address balance tried.2
    let missed := (Attempt.blind later).make policy token address balance tried.2
    (∀ (attempt : Attempt) (m : Memory) (fault : Fault),
      (attempt.make policy token address balance m).1 = .error fault →
        (attempt.make policy token address balance m).2.links = m.links) ∧
    start.Enrolled address tried.2 ∧
    (∃ σ : Equiv.Perm Uid, (∀ id, start.Knows id → σ id = id) ∧
      IsRerun σ start.Knows (Dated now (attempts.map Attempt.now ++ [later])) once again) ∧
    ((∀ result ∈ tried.1, ∃ fault, result = .error fault) →
      again.1.map LinkReport.link = once.1.map LinkReport.link) ∧
    missed.1 = again.1 ∧
    ∃ σ : Equiv.Perm Uid, (∀ id, tried.2.Knows id → σ id = id) ∧
      again.2.IsRenamed σ tried.2.Knows Eq missed.2 := by
  have hconsistent : start.Consistent := consistent_empty.of_ran hran
  -- one attempt after the other is made up for by the next one
  obtain ⟨σ, hσ, hrerun, hlink⟩ := recovers_tryAll policy token address balance attempts
    hconsistent hstocked now later
  obtain ⟨hconsistent', hstocked'⟩ :=
    tryAll_keeps policy token address balance attempts hconsistent hstocked
  obtain ⟨hreport, hregistry⟩ := linkHolder_blind (hconsistent'.supplied _ later)
    (hstocked'.supplied le_rfl later) policy token address balance
  refine ⟨fun attempt m fault hfailed => ?_,
    enrolled_tryAll policy token address balance attempts hconsistent hstocked,
    ⟨σ, hσ, hrerun⟩, hlink, hreport, hregistry⟩
  have htried := attempt.make_tried policy token address balance m
  rw [hfailed] at htried
  exact htried.links_of_error

/-- A holder is linked after the lookup failed, after its account was bound and the balance was not
noted, and after the account was not found and binding it failed. -/
theorem linkHolder_recovers_from_three :
    let attempts := [Attempt.guarded { locked := [default] } ⟨1, 0⟩,
      Attempt.guarded { offline := [.linkToken] } ⟨2, 0⟩,
      Attempt.guarded { offline := [.bind], isBlind := true } ⟨3, 0⟩]
    let tried := tryAll .latestWins default default 7 attempts {}
    let once := (Attempt.sound ⟨0, 0⟩).make .latestWins default default 7 {}
    let again := (Attempt.sound ⟨4, 0⟩).make .latestWins default default 7 tried.2
    (∀ result ∈ tried.1, ∃ fault, result = .error fault) ∧
      Enrolled default {} tried.2 ∧ tried.2.holders.size = 1 ∧
      again.1.map LinkReport.link = .ok .created ∧ again.1.map LinkReport.newIdentity = .ok false ∧
      once.1.map LinkReport.newIdentity = .ok true ∧
      ∃ σ : Equiv.Perm Uid,
        IsRerun σ (Knows {}) (Dated ⟨0, 0⟩ [⟨1, 0⟩, ⟨2, 0⟩, ⟨3, 0⟩, ⟨4, 0⟩]) once again := by
  intro attempts tried once again
  -- each attempt fails at another call
  have hresults : tried.1 =
      [.error ⟨.storeError, "address locked"⟩, .error ⟨.storeError, "store offline"⟩,
        .error ⟨.storeError, "store offline"⟩] := rfl
  have hfailed : ∀ result ∈ tried.1, ∃ fault, result = .error fault := by
    rw [hresults]
    simp
  obtain ⟨-, henrolled, ⟨σ, -, hrerun⟩, hlink, -⟩ := linkHolder_recovers .start isStocked_empty
    .latestWins default default 7 attempts ⟨0, 0⟩ ⟨4, 0⟩
  exact ⟨hfailed, henrolled, rfl, hlink hfailed, rfl, rfl, σ, hrerun⟩

end Memory

end TokenAudit
