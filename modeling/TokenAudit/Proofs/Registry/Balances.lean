import Mathlib.Data.List.Induction
import TokenAudit.Proofs.Registry.Relinking

/-! # Balances over time

A balance can be noted many times for one pair of an account's record and a token, under one policy
or the other. What stands in the end, and what each time was answered, is told by the balances that
were noted for this pair, in their order; those of other pairs do not matter.

* `notedFor` — the balances that were noted for a pair;
* `standing?` — the balance that stands after them, with `standing?_concat`, how one more changes
  it;
* `Memory.Notes` — what noting a balance does and answers;
* `Memory.Ran.of_concat`, `Memory.Ran.split` — the last request of a run, and a run in two parts.

Main statement: `links_of_ran`. -/

namespace TokenAudit

open Registry (Request Response)

/-! ## What was noted for a pair -/

/-- The balances that requests note for a pair of an account's record and a token, with the policies
under which they do so. -/
def notedFor (key : Uid × Address) (events : List (Request × Response)) : List (Nat × LinkPolicy) :=
  events.filterMap fun
    | (.linkToken addressId token balance policy, _) =>
      if (addressId, token) = key then some (balance, policy) else none
    | _ => none

/-- The balance that stands after some were noted for one pair: the last one under the policy that
the latest wins, or else the first one. -/
def standing? (noted : List (Nat × LinkPolicy)) : Option Nat :=
  ((noted.filter fun entry => entry.2 = .latestWins).getLast?.or noted.head?).map Prod.fst

/-- What two runs one after the other note for a pair is what the first one notes, and then the
second. -/
theorem notedFor_append (key : Uid × Address) (first second : List (Request × Response)) :
    notedFor key (first ++ second) = notedFor key first ++ notedFor key second :=
  List.filterMap_append

/-- One request notes nothing for a pair, or a balance. -/
theorem notedFor_singleton (key : Uid × Address) (request : Request) (response : Response) :
    notedFor key [(request, response)] = [] ∨ ∃ balance policy,
      request = .linkToken key.1 key.2 balance policy ∧
        notedFor key [(request, response)] = [(balance, policy)] := by
  cases request with
  | linkToken addressId token balance policy =>
    by_cases hkey : (addressId, token) = key
    · subst hkey
      exact Or.inr ⟨balance, policy, rfl, by simp [notedFor]⟩
    · exact Or.inl (by simp [notedFor, hkey])
  | _ => exact Or.inl rfl

/-- Without a balance noted under the policy that the latest wins, the first one stands. -/
theorem standing?_of_firstWins {noted : List (Nat × LinkPolicy)}
    (h : noted.filter (fun entry => entry.2 = .latestWins) = []) :
    standing? noted = noted.head?.map Prod.fst := by
  rw [standing?, h, List.getLast?_nil, Option.none_or]

/-- With one, the last one of these stands. -/
theorem standing?_of_latestWins {noted before : List (Nat × LinkPolicy)} {last : Nat × LinkPolicy}
    (h : noted.filter (fun entry => entry.2 = .latestWins) = before ++ [last]) :
    standing? noted = some last.1 := by
  rw [standing?, h, List.getLast?_concat, Option.some_or, Option.map_some]

/-- **One more balance.** The policy under which it is noted settles whether it stands from then
on. -/
theorem standing?_concat (noted : List (Nat × LinkPolicy)) (balance : Nat) (policy : LinkPolicy) :
    standing? (noted ++ [(balance, policy)]) = some (policy.settle (standing? noted) balance) := by
  cases policy with
  | latestWins =>
    have hlast : (noted ++ [(balance, LinkPolicy.latestWins)]).filter
        (fun entry => entry.2 = .latestWins) =
          noted.filter (fun entry => entry.2 = .latestWins) ++ [(balance, .latestWins)] := by
      rw [List.filter_append]
      rfl
    exact standing?_of_latestWins hlast
  | firstWins =>
    have hsame : (noted ++ [(balance, LinkPolicy.firstWins)]).filter
        (fun entry => entry.2 = .latestWins) = noted.filter fun entry => entry.2 = .latestWins := by
      rw [List.filter_append]
      exact List.append_nil _
    rcases List.eq_nil_or_concat' (noted.filter fun entry => entry.2 = .latestWins) with
      hnone | ⟨before, last, hlast⟩
    · -- it only counts if it is the first one
      rw [standing?_of_firstWins (hsame.trans hnone), standing?_of_firstWins hnone]
      cases noted <;> rfl
    · rw [standing?_of_latestWins (hsame.trans hlast), standing?_of_latestWins hlast]
      rfl

/-- No balance stands exactly if none was noted. -/
theorem standing?_eq_none_iff {noted : List (Nat × LinkPolicy)} :
    standing? noted = none ↔ noted = [] := by
  cases noted with
  | nil => simp [standing?]
  | cons entry rest => simp [standing?]

namespace Memory

/-! ## One request -/

/-- A request that notes nothing for a pair leaves its link as it is. -/
theorem Change.links_of_notedFor {m m' : Memory} {request : Request} {response : Response}
    (h : m.Change request response m') {key : Uid × Address}
    (hnone : notedFor key [(request, response)] = []) : m'.links.get? key = m.links.get? key := by
  cases request with
  | linkToken addressId token balance policy =>
    refine h.of_linkToken.2.2 key ?_
    rintro rfl
    simp [notedFor] at hnone
  | _ => cases h <;> rfl

/-- What noting a balance for a pair does and answers, if `earlier` were noted for it before. -/
structure Notes (earlier : List (Nat × LinkPolicy)) (addressId : Uid) (token : Address)
    (policy : LinkPolicy) (response : Response) (m m' : Memory) : Prop where
  /-- The first time the link is made, and later it is told whether its balance has changed. -/
  answer : response = .outcome
    (if earlier = [] then .created
    else if (m'.links.get? (addressId, token)).map Link.balance =
      (m.links.get? (addressId, token)).map Link.balance then .unchanged
    else .updated)
  /-- Where the first one wins, a balance never changes. -/
  firstWins : policy = .firstWins → response ≠ .outcome .updated
  /-- A link that is there keeps its identifier. -/
  id_eq : ∀ link, m.links.get? (addressId, token) = some link →
    ∃ link', m'.links.get? (addressId, token) = some link' ∧ link'.id = link.id
  /-- The links of other pairs stay as they are. -/
  others : ∀ key, key ≠ (addressId, token) → m'.links.get? key = m.links.get? key

/-- What noting a balance does and answers goes by what was noted for its pair before. -/
theorem Change.notes {addressId : Uid} {token : Address} {balance : Nat} {policy : LinkPolicy}
    {response : Response} {m m' : Memory}
    (h : m.Change (.linkToken addressId token balance policy) response m')
    {earlier : List (Nat × LinkPolicy)}
    (hearlier : (m.links.get? (addressId, token)).map Link.balance = standing? earlier) :
    Notes earlier addressId token policy response m m' := by
  obtain ⟨-, hbalance, hothers⟩ := h.of_linkToken
  have hpersists : m.Persists m' := .of_change h trivial
  have hid : ∀ link, m.links.get? (addressId, token) = some link →
      ∃ link', m'.links.get? (addressId, token) = some link' ∧ link'.id = link.id := by
    intro link hlink
    obtain ⟨link', hlink', hid, -⟩ := hpersists.links _ _ hlink
    exact ⟨link', hlink', hid⟩
  -- there is a link just if a balance was noted before
  have hthere : ∀ {link}, m.links.get? (addressId, token) = some link → earlier ≠ [] := by
    rintro link hlink rfl
    rw [hlink] at hearlier
    cases hearlier
  cases h with
  | asked _ hquestion => cases hquestion
  | linked _ _ hnew =>
    have hfirst : earlier = [] := by
      rw [← standing?_eq_none_iff, ← hearlier, hnew, Option.map_none]
    exact ⟨by rw [if_pos hfirst], fun _ => by simp, hid, hothers⟩
  | kept hlink hkeep =>
    exact ⟨by rw [if_neg (hthere hlink), if_pos rfl], fun _ => by simp, hid, hothers⟩
  | relinked hlink hchange =>
    rw [not_or] at hchange
    refine ⟨?_, fun hpolicy => absurd hpolicy hchange.1, hid, hothers⟩
    rw [if_neg (hthere hlink), if_neg]
    rw [Table.get?_set_self, hlink, Option.map_some, Option.map_some, Option.some.injEq]
    exact Ne.symm hchange.2

/-! ## Runs -/

/-- The last request of a run is served in the registry that the others have led to. -/
theorem Ran.of_concat {m m' : Memory} {events : List (Request × Response)} {request : Request}
    {response : Response} (h : m.Ran (events ++ [(request, response)]) m') :
    ∃ m₁ issued now, m.Ran events m₁ ∧ (m₁.supplied issued now).Admits request ∧
      request.ask registry (m₁.supplied issued now) = (.ok response, m') := by
  generalize hall : events ++ [(request, response)] = all at h
  cases h with
  | start => simp at hall
  | serve hran issued now hadmits hask =>
    obtain ⟨rfl, hlast⟩ := List.append_inj' hall rfl
    cases hlast
    exact ⟨_, issued, now, hran, hadmits, hask⟩

/-- A run is a run of its first requests and one of the others. -/
theorem Ran.split {m m' : Memory} {before after : List (Request × Response)}
    (h : m.Ran (before ++ after) m') : ∃ m₁, m.Ran before m₁ ∧ m₁.Ran after m' := by
  induction after using List.reverseRecOn generalizing m' with
  | nil => exact ⟨m', by rwa [List.append_nil] at h, .start⟩
  | append_singleton after event ih =>
    rw [← List.append_assoc] at h
    obtain ⟨m₂, issued, now, hran, hadmits, hask⟩ := h.of_concat
    obtain ⟨m₁, hbefore, hafter⟩ := ih hran
    exact ⟨m₁, hbefore, hafter.serve issued now hadmits hask⟩

/-- The balance of a link is the one that stands after all that were noted for its pair. -/
theorem balance_of_ran {events : List (Request × Response)} {m : Memory} (h : Ran {} events m)
    (key : Uid × Address) :
    (m.links.get? key).map Link.balance = standing? (notedFor key events) := by
  refine ran_induction (I := fun events m => (m.links.get? key).map Link.balance =
    standing? (notedFor key events)) rfl (fun _ _ _ _ ih => ih)
    (fun events m request response m' _ hchange ih => ?_) h
  rw [notedFor_append]
  rcases notedFor_singleton key request response with hnone | ⟨balance, policy, rfl, hone⟩
  · rw [hnone, List.append_nil, hchange.links_of_notedFor hnone, ih]
  · rw [hone, standing?_concat, ← ih]
    exact hchange.of_linkToken.2.1

/-- **Links over a whole run.** A pair has a link just if a balance was noted for it, with the
balance that stands after all of these. Each time the answer tells whether it was the first one and,
if not, whether the balance has changed, no other link is touched, and the link keeps its identifier
to the end of the run. And every further balance can be noted too. -/
theorem links_of_ran {events : List (Request × Response)} {m : Memory} (hran : Ran {} events m) :
    (∀ key, (∃ link, m.links.get? key = some link) ↔ notedFor key events ≠ []) ∧
    (∀ key, (m.links.get? key).map Link.balance = standing? (notedFor key events)) ∧
    (∀ before addressId token balance policy response after,
      events = before ++ (.linkToken addressId token balance policy, response) :: after →
      ∃ m₁ m₂, Ran {} before m₁ ∧
        Ran {} (before ++ [(.linkToken addressId token balance policy, response)]) m₂ ∧
        m₂.Ran after m ∧
        Notes (notedFor (addressId, token) before) addressId token policy response m₁ m₂) ∧
    (∀ before after, events = before ++ after → ∃ m₁, Ran {} before m₁ ∧ m₁.Ran after m ∧
      ∀ key link, m₁.links.get? key = some link →
        ∃ link', m.links.get? key = some link' ∧ link'.id = link.id) ∧
    ∀ addressId token balance policy issued now, ∃ outcome m',
      registry.linkToken addressId token balance policy (m.supplied issued now) =
        (.ok outcome, m') ∧
      Ran {} (events ++ [(.linkToken addressId token balance policy, .outcome outcome)]) m' := by
  have hbalance := balance_of_ran hran
  refine ⟨fun key => ?_, hbalance, ?_, ?_, ?_⟩
  · rw [← Option.isSome_iff_exists, ← Option.isSome_map (f := Link.balance), hbalance,
      Option.isSome_iff_ne_none, Ne, standing?_eq_none_iff]
  · rintro before addressId token balance policy response after rfl
    rw [List.append_cons] at hran
    obtain ⟨m₂, hbefore₂, hafter⟩ := hran.split
    obtain ⟨m₁, issued, now, hbefore, -, hask⟩ := hbefore₂.of_concat
    -- neither the next identifier nor the time matters to the links that are there
    have hnotes := (change_of_ask hask).notes (balance_of_ran hbefore (addressId, token))
    exact ⟨m₁, m₂, hbefore, hbefore₂, hafter, hnotes.answer, hnotes.firstWins,
      hnotes.id_eq, hnotes.others⟩
  · rintro before after rfl
    obtain ⟨m₁, hbefore, hafter⟩ := hran.split
    refine ⟨m₁, hbefore, hafter, fun key link hlink => ?_⟩
    obtain ⟨link', hlink', hid, -⟩ := (Persists.of_ran hafter).links key link hlink
    exact ⟨link', hlink', hid⟩
  · intro addressId token balance policy issued now
    exact ⟨_, _, rfl, hran.serve issued now trivial rfl⟩

/-- Balances of two pairs by turns, noted under both policies. -/
def mixedNotes : List (Request × Response) :=
  [(.linkToken ⟨7⟩ default 5 .firstWins, .outcome .created),
    (.linkToken ⟨8⟩ default 1 .latestWins, .outcome .created),
    (.linkToken ⟨7⟩ default 9 .firstWins, .outcome .unchanged),
    (.linkToken ⟨7⟩ default 6 .latestWins, .outcome .updated),
    (.linkToken ⟨7⟩ default 6 .latestWins, .outcome .unchanged)]

/-- The first pair ends with the balance noted last, the second one with its only one, and no other
has a link. -/
theorem links_of_mixedNotes :
    ∃ m, Ran {} mixedNotes m ∧ (m.links.get? (⟨7⟩, default)).map Link.balance = some 6 ∧
      (m.links.get? (⟨8⟩, default)).map Link.balance = some 1 ∧
      ¬ ∃ link, m.links.get? (⟨9⟩, default) = some link := by
  have hmade :=
    @Ran.serve {} [] _ _ (.linkToken ⟨7⟩ default 5 .firstWins) _ .start 1 ⟨1, 0⟩ trivial rfl
  have hother :=
    @Ran.serve {} _ _ _ (.linkToken ⟨8⟩ default 1 .latestWins) _ hmade 2 ⟨2, 0⟩ trivial rfl
  have hkept :=
    @Ran.serve {} _ _ _ (.linkToken ⟨7⟩ default 9 .firstWins) _ hother 3 ⟨3, 0⟩ trivial rfl
  have hchanged :=
    @Ran.serve {} _ _ _ (.linkToken ⟨7⟩ default 6 .latestWins) _ hkept 3 ⟨4, 0⟩ trivial rfl
  have hrun :=
    @Ran.serve {} _ _ _ (.linkToken ⟨7⟩ default 6 .latestWins) _ hchanged 3 ⟨5, 0⟩ trivial rfl
  obtain ⟨hlinks, hbalances, -⟩ := links_of_ran hrun
  exact ⟨_, hrun, (hbalances (⟨7⟩, default)).trans (by decide),
    (hbalances (⟨8⟩, default)).trans (by decide),
    fun hlink => (hlinks (⟨9⟩, default)).1 hlink (by decide)⟩

end Memory

end TokenAudit
