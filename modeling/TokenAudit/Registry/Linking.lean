import TokenAudit.Registry.Basic

/-! # Linking holders

A balance that was found on the ledger is entered into a registry in three steps: the account is
looked up, if it is not bound it is bound to a new holder, and its balance is noted. Between the
steps others may write; then binding finds the account bound and goes on with what is there.

* `identify` — the second step;
* `linkHolder` — all three;
* `linkHolders` — one holder after the other, with a diagnostic for each that could not be
  linked. -/

namespace TokenAudit

variable {ρ : Type}

/-- The record of an account after it was looked up, and whether it was bound just now. -/
def identify (registry : Registry ρ) (address : Address) :
    Option AddressRecord → Action ρ (AddressRecord × Bool)
  | some record => return (record, false)
  | none => do
    let holder ← registry.newHolder
    let binding ← registry.bind holder address
    return (binding.record, binding.isNew)

/-- Enters the balance of an account in a token into a registry. -/
def linkHolder (registry : Registry ρ) (policy : LinkPolicy) (token address : Address)
    (balance : Nat) : Action ρ LinkReport := do
  let found ← registry.findAddress address
  let (record, isNew) ← identify registry address found
  let link ← registry.linkToken record.id token balance policy
  return ⟨record.holderId, record.id, isNew, link⟩

/-- Enters holders one after the other; the diagnostics of those that could not be entered. -/
def linkHolders (registry : Registry ρ) (policy : LinkPolicy) (token : Address) :
    List HolderBalance → StateM ρ (List Diagnostic)
  | [] => return []
  | holder :: rest => do
    let result ← (linkHolder registry policy token holder.address holder.balance).run
    let diagnostics ← linkHolders registry policy token rest
    match result with
    | .ok _ => return diagnostics
    | .error fault => return .linkFailed holder.address fault.display :: diagnostics

end TokenAudit
