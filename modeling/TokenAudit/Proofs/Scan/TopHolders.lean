import TokenAudit.Proofs.Scan.Accounts
import TokenAudit.Proofs.Transfer.Shares

/-! # Who is listed

Who holds a token, and in which order, is settled by the balances alone: a ranking names every
account above zero once, with what it holds, and goes down strictly, by balances and among equal
ones up by addresses. Only one list is like that, so it does not matter in which order the balances
are kept, and a longer list of top holders goes on where a shorter one ends.

* `Replay.Ranks` — whether holders are a ranking of the balances of a replay;
* `Replay.ranks_rankHolders` — what is ranked is one, in whatever order the balances come;
* `Replay.Ranks.eq` — there is no other one;
* `topHolders_of_summarize` — the holders that a snapshot lists are the first ones of it.

Main statement: `holders_listed`. -/

namespace TokenAudit

/-! ## The order of holders -/

namespace HolderBalance

/-- Whether a holder comes before another one: it holds more, or as much and its address is
lower. -/
def Precedes (a b : HolderBalance) : Prop :=
  b.balance < a.balance ∨ a.balance = b.balance ∧ a.address.toNat < b.address.toNat

/-- No holder precedes itself. -/
theorem not_precedes_self (a : HolderBalance) : ¬ a.Precedes a := by
  unfold Precedes
  omega

/-- Of two holders not both precede the other. -/
theorem Precedes.asymm {a b : HolderBalance} (h : a.Precedes b) : ¬ b.Precedes a := by
  unfold Precedes at h ⊢
  omega

/-- Of two holders at different addresses the one that outranks the other comes before it. -/
theorem precedes_of_outranks {a b : HolderBalance} (h : a.outranks b = true)
    (hne : a.address ≠ b.address) : a.Precedes b := by
  have haddress : a.address.toNat ≠ b.address.toNat := fun heq => hne (Address.ext heq)
  rw [outranks_iff] at h
  unfold Precedes
  omega

end HolderBalance

namespace Replay

/-! ## Rankings -/

/-- Whether holders are a ranking of the balances of a replay. -/
structure Ranks (r : Replay) (ranking : List HolderBalance) : Prop where
  /-- Each account above zero comes once, and no other one. -/
  once : ∀ x, (ranking.map HolderBalance.address).count x = if 0 < r.balanceOf x then 1 else 0
  /-- Each comes with its balance. -/
  balance : ∀ h ∈ ranking, (h.balance : Int) = r.balanceOf h.address
  /-- They come in strict order. -/
  ordered : ranking.Pairwise HolderBalance.Precedes

/-- An account has a balance above zero just if there is an entry that says so. -/
theorem mem_entries_iff_of_pos {r : Replay} {x : Address} {b : Int} (hb : 0 < b) :
    (x, b) ∈ r.balances.entries ↔ r.balanceOf x = b := by
  rw [Table.mem_entries_iff, balanceOf]
  cases r.balances.get? x with
  | none =>
    refine iff_of_false (fun h => ?_) fun h => ?_
    · cases h
    · rw [Option.getD_none] at h
      omega
  | some c => rw [Option.some.injEq, Option.getD_some]

/-- **What is ranked is a ranking**, in whatever order the balances come. -/
theorem ranks_rankHolders {r : Replay} {entries : List (Address × Int)}
    (hentries : entries.Perm r.balances.entries) : r.Ranks (rankHolders entries) := by
  have hmem : ∀ h : HolderBalance, h ∈ rankHolders entries ↔
      0 < h.balance ∧ r.balanceOf h.address = h.balance := by
    intro h
    rw [mem_rankHolders_iff, hentries.mem_iff]
    refine and_congr_right fun hpos => mem_entries_iff_of_pos ?_
    omega
  have hnodup :=
    nodup_addresses_rankHolders ((hentries.map Prod.fst).nodup_iff.2 r.balances.nodup_keys)
  refine ⟨fun x => ?_, fun h hh => ((hmem h).1 hh).2.symm, ?_⟩
  · -- no account is ranked twice, for none has two entries
    rw [hnodup.count]
    refine if_congr ?_ rfl rfl
    rw [List.mem_map]
    constructor
    · rintro ⟨h, hh, rfl⟩
      have hholder := (hmem h).1 hh
      omega
    · intro hpos
      refine ⟨⟨x, (r.balanceOf x).toNat⟩, (hmem _).2 ⟨?_, ?_⟩, rfl⟩
      · show 0 < (r.balanceOf x).toNat
        omega
      · show r.balanceOf x = (r.balanceOf x).toNat
        omega
  · have hne := List.pairwise_map.1 hnodup
    exact (pairwise_rankHolders entries).imp₂ (fun _ _ => HolderBalance.precedes_of_outranks) hne

/-- The members of a ranking. -/
theorem Ranks.mem_iff {r : Replay} {ranking : List HolderBalance} (hranks : r.Ranks ranking)
    {h : HolderBalance} :
    h ∈ ranking ↔ 0 < h.balance ∧ (h.balance : Int) = r.balanceOf h.address := by
  have honce := hranks.once h.address
  constructor
  · intro hh
    have hbalance := hranks.balance h hh
    have hcount := List.count_pos_iff.2 (List.mem_map_of_mem (f := HolderBalance.address) hh)
    refine ⟨?_, hbalance⟩
    by_contra hnot
    rw [if_neg (by omega)] at honce
    omega
  · -- the account is ranked, and a holder is told by account and balance
    rintro ⟨hpos, hbalance⟩
    rw [if_pos (by omega)] at honce
    have hmem : h.address ∈ ranking.map HolderBalance.address := List.count_pos_iff.1 (by omega)
    obtain ⟨other, hother, haddress⟩ := List.mem_map.1 hmem
    have hbalance' := hranks.balance other hother
    rw [haddress, ← hbalance] at hbalance'
    have hsame : other.balance = h.balance := by omega
    have heq : other = h := by
      cases other
      cases h
      rw [HolderBalance.mk.injEq]
      exact ⟨haddress, hsame⟩
    exact heq ▸ hother

/-- **There is no other ranking.** -/
theorem Ranks.eq {r : Replay} {one two : List HolderBalance} (hone : r.Ranks one)
    (htwo : r.Ranks two) : one = two := by
  have hdistinct : ∀ {ranking}, r.Ranks ranking → ranking.Nodup := by
    intro ranking hranks
    refine hranks.ordered.imp ?_
    rintro a _ h rfl
    exact a.not_precedes_self h
  have hperm : one.Perm two :=
    (List.perm_ext_iff_of_nodup (hdistinct hone) (hdistinct htwo)).2 fun h =>
      hone.mem_iff.trans htwo.mem_iff.symm
  exact hperm.eq_of_pairwise (fun _ _ _ _ hab hba => absurd hba hab.asymm) hone.ordered htwo.ordered

end Replay

/-! ## Lists of top holders -/

/-- The holders that a snapshot lists are the first ones of the ranking, and whether there is a
snapshot does not hang on how many are asked for. -/
theorem topHolders_of_summarize {settings : Settings} {token : Address} {window : Window}
    {topN : Nat} {results : List ChunkResult} {snapshot : Snapshot}
    (h : summarize settings token window topN results = .ok snapshot) (more : Nat) :
    snapshot.topHolders = (replay (fetchedLogs results)).holders.take topN ∧
      ∃ longer, summarize settings token window more results = .ok longer ∧
        longer.topHolders = (replay (fetchedLogs results)).holders.take more := by
  have hfetched : ¬ (0 < results.length ∧ (chunkDiagnostics results).length = results.length) := by
    intro hfailed
    rw [summarize] at h
    dsimp only at h
    rw [if_pos hfailed] at h
    cases h
  rw [summarize_eq_ok hfetched] at h ⊢
  cases h
  exact ⟨(logFindings_spec settings token window topN _).2.2.1, _, rfl,
    (logFindings_spec settings token window more _).2.2.1⟩

/-- **Who is listed.** In whatever order the balances of a replay come, what is ranked is the one
list that names each account above zero once and no other one, with its balance, which is a signed
word, and that is strictly in order, the greater balance first and of two equal ones the lower
address. Of that list a snapshot shows the first holders, and whoever asks for more is shown the
same ones first. -/
theorem holders_listed (logs : List Log) {entries : List (Address × Int)}
    (hentries : entries.Perm (replay logs).balances.entries) :
    (∀ ranking : List HolderBalance, ranking = rankHolders entries ↔
      (∀ x, (ranking.map HolderBalance.address).count x =
        if 0 < (replay logs).balanceOf x then 1 else 0) ∧
      (∀ h ∈ ranking, (h.balance : Int) = (replay logs).balanceOf h.address) ∧
      ranking.Pairwise fun a b =>
        b.balance < a.balance ∨ a.balance = b.balance ∧ a.address.toNat < b.address.toNat) ∧
    (∀ h ∈ rankHolders entries, h.balance ≤ 2 ^ 255 - 1) ∧
    ∀ settings token window topN more results snapshot, fetchedLogs results = logs → topN ≤ more →
      summarize settings token window topN results = .ok snapshot →
      snapshot.topHolders = (rankHolders entries).take topN ∧
      ∃ longer, summarize settings token window more results = .ok longer ∧
        snapshot.topHolders <+: longer.topHolders := by
  have hranks := Replay.ranks_rankHolders hentries
  refine ⟨fun ranking => ⟨?_, ?_⟩, fun h hh => ?_, ?_⟩
  · rintro rfl
    exact ⟨hranks.once, hranks.balance, hranks.ordered⟩
  · -- these three conditions leave no choice
    rintro ⟨honce, hbalance, hordered⟩
    exact Replay.Ranks.eq ⟨honce, hbalance, hordered⟩ hranks
  · rw [rankHolders_perm hentries] at hh
    exact (balance_of_mem_holders hh).2
  · -- both lists are cut from one ranking
    rintro settings token window topN more results snapshot rfl hmore hsnapshot
    obtain ⟨htop, longer, hlonger, htop'⟩ := topHolders_of_summarize hsnapshot more
    have hholders : (replay (fetchedLogs results)).holders = rankHolders entries :=
      (rankHolders_perm hentries).symm
    rw [hholders] at htop htop'
    refine ⟨htop, longer, hlonger, ?_⟩
    rw [htop, htop']
    exact List.take_prefix_take_left hmore

/-- An account that gives the same to two others, the one with the higher address first, and one
that pays itself. -/
def evenLogs : List Log :=
  [Transfer.toLog ⟨.ofNat 3, .ofNat 2, 5⟩ none, Transfer.toLog ⟨.ofNat 3, .ofNat 1, 5⟩ none,
    Transfer.toLog ⟨.ofNat 4, .ofNat 4, 7⟩ none]

/-- The balances after these logs, in the order in which accounts came up. -/
theorem entries_evenLogs : (replay evenLogs).balances.entries =
    [(.ofNat 3, -10), (.ofNat 2, 5), (.ofNat 1, 5), (.ofNat 4, 0)] := by
  have hfirst := Transfer.ofLog_toLog (t := ⟨.ofNat 3, .ofNat 2, 5⟩) (by decide) none
  have hsecond := Transfer.ofLog_toLog (t := ⟨.ofNat 3, .ofNat 1, 5⟩) (by decide) none
  have hself := Transfer.ofLog_toLog (t := ⟨.ofNat 4, .ofNat 4, 7⟩) (by decide) none
  rw [replay, evenLogs, List.foldl_cons, List.foldl_cons, List.foldl_cons,
    List.foldl_nil, Replay.step, Replay.step, Replay.step, hfirst, hsecond, hself]
  decide

/-- With the balances the other way round, the two that hold the same are still ranked by their
addresses, and who asks for one holder is shown the first of them. -/
theorem holders_listed_of_evenLogs :
    let entries := (replay evenLogs).balances.entries.reverse
    let results : List ChunkResult := [⟨⟨0, 9⟩, .ok evenLogs⟩]
    entries.Perm (replay evenLogs).balances.entries ∧ fetchedLogs results = evenLogs ∧
      rankHolders entries = [⟨.ofNat 1, 5⟩, ⟨.ofNat 2, 5⟩] ∧
      ∃ one two, summarize {} default ⟨0, 9⟩ 1 results = .ok one ∧
        summarize {} default ⟨0, 9⟩ 2 results = .ok two ∧ one.topHolders <+: two.topHolders := by
  intro entries results
  have hperm : entries.Perm (replay evenLogs).balances.entries := List.reverse_perm _
  obtain ⟨hunique, -, hlisted⟩ := holders_listed evenLogs hperm
  have hone : summarize {} default ⟨0, 9⟩ 1 results = .ok _ := rfl
  obtain ⟨-, two, htwo, hprefix⟩ := hlisted {} default ⟨0, 9⟩ 1 2 results _ rfl (by decide) hone
  refine ⟨hperm, rfl, ((hunique _).2 ⟨fun x => ?_, ?_, ?_⟩).symm, _, two, hone, htwo, hprefix⟩
  · rw [Replay.balanceOf, Table.get?, entries_evenLogs]
    -- the four accounts that are named, and all others
    by_cases h₁ : x = .ofNat 1
    · rw [h₁]
      decide
    by_cases h₂ : x = .ofNat 2
    · rw [h₂]
      decide
    by_cases h₃ : x = .ofNat 3
    · rw [h₃]
      decide
    by_cases h₄ : x = .ofNat 4
    · rw [h₄]
      decide
    simp only [List.lookup_cons, beq_false_of_ne h₁, beq_false_of_ne h₂, beq_false_of_ne h₃,
      beq_false_of_ne h₄]
    simp [Ne.symm h₁, Ne.symm h₂]
  · rw [List.forall_mem_cons, List.forall_mem_singleton]
    simp only [Replay.balanceOf, Table.get?, entries_evenLogs]
    decide
  · decide

end TokenAudit
