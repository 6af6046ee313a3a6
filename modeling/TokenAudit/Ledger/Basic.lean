import TokenAudit.Ledger.Log

/-! # Ledgers

A ledger is asked for things and answers after some time. What it answers may depend on what was
asked before, so it has a state; time is counted in milliseconds and passes only while somebody
waits. At one time there can be several rounds, because in each only so many waits may end.

* `Action` — something that changes a state and can fail, and `attempt`, which makes its fault a
  result;
* `Clocked` — a state, the time, and what is left of the round, with `Clocked.wait`;
* `Pending` — an answer on its way, with `Pending.await` and `Pending.within`;
* `Question` and `Ledger` — what can be asked. -/

namespace TokenAudit

/-- Something that changes a state of type `σ` and has a result or a fault. -/
abbrev Action (σ α : Type) := ExceptT Fault (StateM σ) α

/-- Something that is tried: its fault is a result. -/
def attempt {σ α : Type} (action : Action σ α) : Action σ (Except Fault α) := fun s =>
  let (result, s) := action s
  (.ok result, s)

namespace Action

variable {σ α β : Type} {action : Action σ α} {s s' : σ} {fault : Fault}

/-- After an action that gives a value, the next one goes on with it. -/
theorem bind_of_ok {a : α} (h : action s = (.ok a, s')) (next : α → Action σ β) :
    (action >>= next) s = next a s' := by
  simp only [bind, ExceptT.bind, ExceptT.mk, StateT.bind, h]
  rfl

/-- After an action that ends with a fault, nothing more is done. -/
theorem bind_of_error (h : action s = (.error fault, s')) (next : α → Action σ β) :
    (action >>= next) s = (.error fault, s') := by
  simp only [bind, ExceptT.bind, ExceptT.mk, StateT.bind, h]
  rfl

/-- A value that an action gives is mapped. -/
theorem map_of_ok {a : α} (h : action s = (.ok a, s')) (f : α → β) :
    (f <$> action) s = (.ok (f a), s') :=
  bind_of_ok h _

/-- A fault is not mapped. -/
theorem map_of_error (h : action s = (.error fault, s')) (f : α → β) :
    (f <$> action) s = (.error fault, s') :=
  bind_of_error h _

/-- Actions that do the same still do after their values are mapped. -/
theorem map_congr {action' : Action σ α} (h : action s = action' s) (f : α → β) :
    (f <$> action) s = (f <$> action') s := by
  simp only [Functor.map, ExceptT.map, ExceptT.mk, bind, StateT.bind, h]

/-- An attempt gives the result of the action, be it a fault or not. -/
theorem attempt_of_eq {result : Except Fault α} (h : action s = (result, s')) :
    attempt action s = (.ok result, s') := by
  rw [attempt, h]

end Action

/-! ## Waiting -/

/-- A state, and the time that has passed. -/
structure Clocked (σ : Type) where
  /-- The state. -/
  state : σ
  /-- The time. -/
  now : Nat
  /-- How many more waits may end in the current round. -/
  allowance : Nat

namespace Clocked

variable {σ : Type}

/-- How many waits may end in a round. What would go on after them goes on in the next round. -/
def roundAllowance : Nat := 128

/-- A state at the start of time. -/
def start (state : σ) : Clocked σ := ⟨state, 0, roundAllowance⟩

/-- Waits. When time passes, or when no further wait may end in the current round, a new one
begins. -/
def wait (delay : Nat) (c : Clocked σ) : Clocked σ :=
  let allowance := if delay = 0 ∧ 0 < c.allowance then c.allowance else roundAllowance
  { c with now := c.now + delay, allowance := allowance - 1 }

/-- Waiting leaves the state alone. -/
@[simp] theorem state_wait (delay : Nat) (c : Clocked σ) : (c.wait delay).state = c.state := rfl

/-- Waiting takes its time. -/
@[simp] theorem now_wait (delay : Nat) (c : Clocked σ) : (c.wait delay).now = c.now + delay := rfl

end Clocked

/-- An answer on its way. -/
structure Pending (σ α : Type) where
  /-- How long there is to wait for it, if there is anything to wait for. A wait can be over at once
  and still is one. -/
  delay : Option Nat
  /-- What it turns out to be once that time is over. -/
  settle : Action σ α

namespace Pending

variable {σ α : Type}

/-- An answer that is there at once. -/
def ready (settle : Action σ α) : Pending σ α := ⟨none, settle⟩

/-- An answer that comes so much later than another one. -/
def later (delay : Nat) (p : Pending σ α) : Pending σ α :=
  if delay = 0 then p else { p with delay := some (delay + p.delay.getD 0) }

/-- Waits for an answer as long as it takes. -/
def await (p : Pending σ α) : Action (Clocked σ) α := fun c =>
  let c := p.delay.elim c fun delay => c.wait delay
  let (result, state) := p.settle c.state
  (result, { c with state })

/-- Waiting for an answer changes the time at which it is settled, not the state. -/
theorem await_eq (p : Pending σ α) (c : Clocked σ) :
    ∃ c' : Clocked σ, c'.state = c.state ∧
      p.await c = ((p.settle c'.state).1, { c' with state := (p.settle c'.state).2 }) := by
  refine ⟨p.delay.elim c fun delay => c.wait delay, ?_, rfl⟩
  cases p.delay with
  | none => rfl
  | some delay => rfl

/-- Waits for an answer, but only so long. An answer that comes just at the end is in time; one that
does not come in time is never settled. -/
def within (limit : Nat) (p : Pending σ α) : Action (Clocked σ) α := fun c =>
  if p.delay.getD 0 ≤ limit then p.await c
  else (.error Fault.Origin.deadline.fault, c.wait limit)

end Pending

/-! ## Asking -/

/-- A question put at a time. It changes the state at once, and the answer changes it again when it
is there. -/
abbrev Question (σ α : Type) := (now : Nat) → σ → Pending σ α × σ

/-- What a ledger with a state of type `σ` can be asked. -/
structure Ledger (σ : Type) where
  /-- The number of the newest block. -/
  head : Question σ Nat
  /-- The code at an account; none if there is no contract. -/
  code : Address → Question σ (List UInt8)
  /-- The logs that a query asks for, in the order of their blocks. -/
  logs : LogQuery → Question σ (List Log)
  /-- The result of a call that changes nothing. -/
  call : Address → List UInt8 → Question σ (List UInt8)
  /-- How long to wait for an answer when the caller would wait for a given time. A ledger that asks
  again by itself needs longer. -/
  deadline : Nat → Nat

namespace Ledger

variable {σ α : Type}

/-- Asks something and waits for the answer as long as it takes. -/
def ask (question : Question σ α) : Action (Clocked σ) α := fun c =>
  let (answer, state) := question c.now c.state
  answer.await { c with state }

/-- Asks something and waits for the answer, but only so long. -/
def askWithin (limit : Nat) (question : Question σ α) : Action (Clocked σ) α := fun c =>
  let (answer, state) := question c.now c.state
  answer.within limit { c with state }

end Ledger

end TokenAudit
