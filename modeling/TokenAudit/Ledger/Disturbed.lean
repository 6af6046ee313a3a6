import TokenAudit.Ledger.Basic

/-! # Disturbed ledgers

A ledger whose answers come later than they would, or not at all.

* `Disturbance` — what is put in front of an answer;
* `Disturbances` and `Ledger.disturbed` — a ledger with disturbances for each thing that can be
  asked. -/

namespace TokenAudit

/-- What is put in front of an answer: a delay, then possibly a fault in its place. -/
structure Disturbance where
  /-- How much later the answer comes. -/
  delay : Nat := 0
  /-- What comes in the place of the answer. -/
  fault : Option Fault := none
  deriving DecidableEq, Repr, Inhabited

/-- Disturbances of a ledger. -/
structure Disturbances where
  head : Disturbance := {}
  code : Disturbance := {}
  call : Disturbance := {}
  /-- The least time to wait for an answer. -/
  leastDeadline : Nat := 0
  deriving DecidableEq, Repr, Inhabited

namespace Disturbance

variable {σ α : Type}

/-- A question whose answer is disturbed. The question itself is put only when the delay is over. -/
def apply (d : Disturbance) (question : Question σ α) : Question σ α := fun now s =>
  match d.fault with
  | some fault => ((Pending.ready (throw fault)).later d.delay, s)
  | none =>
    let (answer, s) := question (now + d.delay) s
    (answer.later d.delay, s)

end Disturbance

/-- The ledger with disturbances put in front of it. -/
def Ledger.disturbed {σ : Type} (ledger : Ledger σ) (d : Disturbances) : Ledger σ where
  head := d.head.apply ledger.head
  code address := d.code.apply (ledger.code address)
  logs := ledger.logs
  call contract data := d.call.apply (ledger.call contract data)
  deadline requested := max (ledger.deadline requested) d.leastDeadline

end TokenAudit
