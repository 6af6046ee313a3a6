import TokenAudit.CommandLine.Program
import TokenAudit.Proofs.Scan.Accounts
import TokenAudit.Proofs.Scan.Standing

/-! # The window of a command

A user names the first and the last block of a scan by references, or leaves them out. A reference
denotes a block: its number, the first block of the chain, or the newest one. What is left out
denotes the newest block at the end, and at the start a block so far back from it.

A reference to the newest block is handed on like one that was left out. At the end of the window
this comes to the same, but not at its start: a scan from the newest block on begins as far back as
one without a start.

* `BlockRef.blockAt`, `denotedWindow` — what references denote;
* `referredWindow` — the window that they come to, and `referredWindow_eq_iff`, when it is the one
  that is denoted;
* `Command.perform_holders` — a command for holders is a survey with a registry.

Main statements: `scanned_window_of_refs`, and `scanned_window_from_latest` for the case that
differs. -/

namespace TokenAudit

variable {σ : Type}

/-! ## What references denote -/

/-- Windows with the same bounds are the same. -/
theorem Window.eq_of_bounds {v w : Window} (hfirst : v.first = w.first) (hlast : v.last = w.last) :
    v = w := by
  cases v
  cases w
  rw [Window.mk.injEq]
  exact ⟨hfirst, hlast⟩

namespace BlockRef

/-- The block that a reference denotes on a chain with the given newest block. -/
def blockAt (head : Nat) : BlockRef → Nat
  | number n => n
  | earliest => 0
  | latest | pending => head

/-- Whether a reference denotes the newest block whatever its number is. -/
def IsHead : BlockRef → Prop
  | latest | pending => True
  | number _ | earliest => False

/-- A reference to the head is resolved to no number. -/
theorem resolve_of_isHead {ref : BlockRef} (h : ref.IsHead) : ref.resolve = none := by
  cases ref with
  | latest => rfl
  | pending => rfl
  | _ => cases h

/-- A reference to the head denotes the newest block. -/
theorem blockAt_of_isHead {ref : BlockRef} (h : ref.IsHead) (head : Nat) :
    ref.blockAt head = head := by
  cases ref with
  | latest => rfl
  | pending => rfl
  | _ => cases h

/-- Any other reference is resolved to the block that it denotes, whatever the newest one is. -/
theorem resolve_of_not_isHead {ref : BlockRef} (h : ¬ ref.IsHead) (head : Nat) :
    ref.resolve = some (ref.blockAt head) := by
  cases ref with
  | latest => exact absurd trivial h
  | pending => exact absurd trivial h
  | _ => rfl

end BlockRef

/-- The window that references denote, where a bound that is left out is the newest block at the
end, and at the start `lookback` blocks before it. -/
def denotedWindow (head lookback : Nat) (first last : Option BlockRef) : Window :=
  ⟨first.elim (head - lookback) (BlockRef.blockAt head), last.elim head (BlockRef.blockAt head)⟩

/-- The window that is scanned for references. -/
def referredWindow (head lookback : Nat) (first last : Option BlockRef) : Window :=
  ⟨(first.bind BlockRef.resolve).getD (head - lookback), (last.bind BlockRef.resolve).getD head⟩

/-- The last block is the one that is denoted. -/
theorem last_referredWindow (head lookback : Nat) (first last : Option BlockRef) :
    (referredWindow head lookback first last).last =
      (denotedWindow head lookback first last).last := by
  rcases last with - | ref
  · rfl
  · by_cases hhead : ref.IsHead
    · simp [referredWindow, denotedWindow, ref.resolve_of_isHead hhead, ref.blockAt_of_isHead hhead]
    · simp [referredWindow, denotedWindow, ref.resolve_of_not_isHead hhead head]

/-- The first block is the one that is denoted if this is not to be the newest one. -/
theorem first_referredWindow {first : Option BlockRef} (h : ¬ ∃ ref ∈ first, ref.IsHead)
    (head lookback : Nat) (last : Option BlockRef) :
    (referredWindow head lookback first last).first =
      (denotedWindow head lookback first last).first := by
  rcases first with - | ref
  · rfl
  · have hhead : ¬ ref.IsHead := fun hhead => h ⟨ref, rfl, hhead⟩
    simp [referredWindow, denotedWindow, ref.resolve_of_not_isHead hhead head]

/-- Where the newest block is denoted, the first one is so far back from it. -/
theorem first_referredWindow_of_isHead {first : Option BlockRef} (h : ∃ ref ∈ first, ref.IsHead)
    (head lookback : Nat) (last : Option BlockRef) :
    (referredWindow head lookback first last).first = head - lookback ∧
      (denotedWindow head lookback first last).first = head := by
  obtain ⟨ref, rfl, hhead⟩ := h
  refine ⟨?_, ref.blockAt_of_isHead hhead head⟩
  simp [referredWindow, ref.resolve_of_isHead hhead]

/-- **When the window is the one that is denoted**: always, unless it is to start at the newest
block. Then it is not, if there is anything to look back on. -/
theorem referredWindow_eq_iff (head lookback : Nat) (first last : Option BlockRef) :
    referredWindow head lookback first last = denotedWindow head lookback first last ↔
      ((∃ ref ∈ first, ref.IsHead) → lookback = 0 ∨ head = 0) := by
  have hlast := last_referredWindow head lookback first last
  by_cases hhead : ∃ ref ∈ first, ref.IsHead
  · obtain ⟨hback, hdenoted⟩ := first_referredWindow_of_isHead hhead head lookback last
    constructor
    · -- both windows begin at the newest block, which is then as far back as it can be
      intro heq _
      rw [heq, hdenoted] at hback
      omega
    · intro hflat
      refine Window.eq_of_bounds ?_ hlast
      rw [hback, hdenoted]
      have hnothing := hflat hhead
      omega
  · have hfirst := first_referredWindow hhead head lookback last
    exact iff_of_true (Window.eq_of_bounds hfirst hlast) fun hsome => absurd hsome hhead

/-! ## The command -/

/-- The newest block closes every bound that is left open. -/
theorem resolveWindow_eq_ok {ledger : Ledger σ} {settings : Settings} {first last : Option Nat}
    {c : Clocked σ} {window : Window} {head : Nat}
    (hhead : ∀ n,
      (Ledger.askWithin (ledger.deadline settings.callTimeout) ledger.head c).1 = .ok n → n = head)
    (h : (resolveWindow ledger settings first last c).1 = .ok window) :
    window = ⟨first.getD (head - settings.lookbackBlocks), last.getD head⟩ := by
  by_cases hopen : first = none ∨ last = none
  · rw [resolveWindow_of_open c hopen] at h
    cases hanswer : (Ledger.askWithin (ledger.deadline settings.callTimeout) ledger.head c).1 with
    | error fault =>
      rw [hanswer] at h
      cases h
    | ok n =>
      rw [hanswer, hhead n hanswer] at h
      exact (Except.ok.inj h).symm
  · rw [not_or] at hopen
    obtain ⟨first, rfl⟩ := Option.ne_none_iff_exists'.1 hopen.1
    obtain ⟨last, rfl⟩ := Option.ne_none_iff_exists'.1 hopen.2
    exact (Except.ok.inj h).symm

/-- A command for holders is a survey with a registry of its own, and the record of it is the
snapshot. -/
theorem Command.perform_holders (ledger : Ledger σ) (settings : Settings) (now : Moment)
    (token : Address) (first last : Option BlockRef) (topN : Option Nat) (w : World σ Memory) :
    (Command.perform ledger settings now (.holders token first last topN) w).1 =
      (survey ledger (some Memory.registry) settings (.ofRefs token first last topN) w).1.map
        Snapshot.toJson := by
  simp only [Command.perform, survey, bind, ExceptT.bind, ExceptT.mk, StateT.bind]
  cases reconstruct ledger Memory.registry settings (.ofRefs token first last topN) w with
  | mk result w' => cases result <;> rfl

/-- **The window of a command for holders.** It ends at the block that is denoted. It begins there
too, unless this is the newest block: then it begins as far back as a window without a first block.
So the window is the one that is denoted just if the first block is not to be the newest one, or
there is nothing to look back on. The command fails only as a survey does. -/
theorem scanned_window_of_refs (ledger : Ledger σ) (settings : Settings) (now : Moment)
    (token : Address) (first last : Option BlockRef) (topN : Option Nat) (w : World σ Memory)
    (head : Nat)
    (hhead : ∀ n, (Ledger.askWithin (ledger.deadline settings.callTimeout) ledger.head
      w.ledger).1 = .ok n → n = head) :
    let performed := (Command.perform ledger settings now (.holders token first last topN) w).1
    let request := ScanRequest.ofRefs token first last topN
    let denoted := denotedWindow head settings.lookbackBlocks first last
    (∀ record, performed = .ok record → ∃ snapshot : Snapshot, record = snapshot.toJson ∧
      snapshot.scanned.last = denoted.last ∧
      ((¬ ∃ ref ∈ first, ref.IsHead) → snapshot.scanned.first = denoted.first) ∧
      ((∃ ref ∈ first, ref.IsHead) → snapshot.scanned.first = head - settings.lookbackBlocks) ∧
      (snapshot.scanned = denoted ↔
        ((∃ ref ∈ first, ref.IsHead) → settings.lookbackBlocks = 0 ∨ head = 0))) ∧
    ((∃ fault, performed = .error fault) ↔
      (request.first = none ∨ request.last = none) ∧ HeadLost ledger settings w.ledger ∨
        chunkResults ledger settings request w.ledger ≠ [] ∧
          ∀ r ∈ chunkResults ledger settings request w.ledger,
            ∃ failure, r.outcome = .error failure) := by
  intro performed request denoted
  have hperformed : performed =
      (survey ledger (some Memory.registry) settings request w).1.map Snapshot.toJson :=
    Command.perform_holders ledger settings now token first last topN w
  constructor
  · intro record hrecord
    rw [hperformed] at hrecord
    cases hsurvey : (survey ledger (some Memory.registry) settings request w).1 with
    | error fault =>
      rw [hsurvey] at hrecord
      cases hrecord
    | ok snapshot =>
      rw [hsurvey] at hrecord
      -- what a reference resolves to, or none, is all that the survey is told of a bound
      have hwindow : snapshot.scanned = referredWindow head settings.lookbackBlocks first last :=
        resolveWindow_eq_ok hhead (window_of_survey hsurvey).1
      refine ⟨snapshot, (Except.ok.inj hrecord).symm, ?_⟩
      rw [hwindow]
      exact ⟨last_referredWindow .., fun hnot => first_referredWindow hnot ..,
        fun hhead => (first_referredWindow_of_isHead hhead ..).1, referredWindow_eq_iff ..⟩
  · rw [hperformed, ← survey_eq_error_iff ledger (some Memory.registry) settings request w]
    cases (survey ledger (some Memory.registry) settings request w).1 with
    | error fault => exact iff_of_true ⟨fault, rfl⟩ ⟨fault, rfl⟩
    | ok snapshot =>
      refine iff_of_false (fun ⟨fault, hfault⟩ => ?_) (fun ⟨fault, hfault⟩ => ?_)
      · cases hfault
      · cases hfault

/-- A chain of a thousand blocks without any logs. -/
def quietRecords : Recorded where
  head := 1000

/-- A command for holders on the quiet chain finds out a snapshot of the window that its references
come to. -/
theorem perform_quietRecords (first last : Option BlockRef) :
    ∃ snapshot : Snapshot,
      (Command.perform Recorded.ledger { lookbackBlocks := 100 } ⟨0, 0⟩
        (.holders default first last none) ⟨.start quietRecords, {}⟩).1 = .ok snapshot.toJson ∧
      snapshot.scanned = referredWindow 1000 100 first last := by
  have hcalm := (survey_of_calm (some Memory.registry) { lookbackBlocks := 100 }
    (.ofRefs default first last none) (w := ⟨.start quietRecords, {}⟩) rfl
    (by decide) (by decide)).1
  obtain ⟨snapshot, hsurvey⟩ : ∃ snapshot, (survey Recorded.ledger (some Memory.registry)
      { lookbackBlocks := 100 } (.ofRefs default first last none)
      ⟨.start quietRecords, {}⟩).1 = .ok snapshot := ⟨_, hcalm⟩
  refine ⟨snapshot, ?_, ?_⟩
  · rw [Command.perform_holders, hsurvey]
    rfl
  · have hwindow := (window_of_survey hsurvey).1
    rw [Recorded.resolveWindow_eq] at hwindow
    exact (Except.ok.inj hwindow).symm

/-- The command from the first block on scans the window that is denoted. -/
theorem scanned_window_from_earliest :
    ∃ snapshot : Snapshot,
      (Command.perform Recorded.ledger { lookbackBlocks := 100 } ⟨0, 0⟩
        (.holders default (some .earliest) none none) ⟨.start quietRecords, {}⟩).1 =
          .ok snapshot.toJson ∧
      snapshot.scanned = denotedWindow 1000 100 (some .earliest) none := by
  obtain ⟨snapshot, hperformed, -⟩ := perform_quietRecords (some .earliest) none
  obtain ⟨found, hrecord, -, -, -, hdenoted⟩ :=
    (scanned_window_of_refs Recorded.ledger { lookbackBlocks := 100 } ⟨0, 0⟩ default
      (some .earliest) none none ⟨.start quietRecords, {}⟩ 1000 fun n h => (Except.ok.inj h).symm).1
      _ hperformed
  rw [hrecord] at hperformed
  refine ⟨found, hperformed, hdenoted.2 ?_⟩
  rintro ⟨ref, hmem, hhead⟩
  cases hmem
  cases hhead

/-- The command from the newest block on begins a hundred blocks before the one that is denoted. -/
theorem scanned_window_from_latest :
    Command.parse ["holders", "0x0000000000000000000000000000000000000000", "latest"] =
      .ok (.holders default (some .latest) none none) ∧
    denotedWindow 1000 100 (some .latest) none = ⟨1000, 1000⟩ ∧
    ∃ snapshot : Snapshot,
      (Command.perform Recorded.ledger { lookbackBlocks := 100 } ⟨0, 0⟩
        (.holders default (some .latest) none none) ⟨.start quietRecords, {}⟩).1 =
          .ok snapshot.toJson ∧
      snapshot.scanned = ⟨900, 1000⟩ :=
  ⟨by decide +kernel, rfl, perform_quietRecords (some .latest) none⟩

end TokenAudit
