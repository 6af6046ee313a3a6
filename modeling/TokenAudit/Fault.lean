import TokenAudit.Address

/-! # Faults

What every operation of the audit reports when it cannot answer: a **code** that programs act on,
and a message for people. Each code belongs to one **class**, and some faults may pass when the same
thing is tried again.

* `Fault.Code`, with `Code.name`, `Code.family` and `Code.isRetryable`;
* `Fault.display` — the line shown to people;
* `Fault.Origin` — failures outside the audit, and the faults they amount to. -/

namespace TokenAudit

/-- The codes, in the order of the areas they belong to. -/
inductive Fault.Code
  | connectionFailed
  | timedOut
  | rateLimited
  | rpcError
  | noEndpoints
  | invalidResponse
  | noCode
  | storeError
  | missingEnv
  | invalidValue
  | unknown
  deriving DecidableEq, Repr

/-- The classes that a caller has to tell apart. -/
inductive Fault.Family
  /-- No contract stands at the address. -/
  | noCode
  /-- The ledger could not be asked, or gave no proper answer. -/
  | provider
  /-- Configuration, storage and all else. -/
  | other
  deriving DecidableEq, Repr

/-- A failure: its code and a message. -/
structure Fault where
  /-- What programs act on. -/
  code : Fault.Code
  /-- What people read. -/
  message : String
  deriving DecidableEq, Repr

namespace Fault

/-- Every code once, in order. -/
def Code.all : List Code :=
  [.connectionFailed, .timedOut, .rateLimited, .rpcError, .noEndpoints, .invalidResponse, .noCode,
   .storeError, .missingEnv, .invalidValue, .unknown]

/-- The name of a code in messages and records. -/
def Code.name : Code → String
  | .connectionFailed => "RPC_CONNECTION_FAILED"
  | .timedOut => "RPC_TIMEOUT"
  | .rateLimited => "RPC_RATE_LIMITED"
  | .rpcError => "RPC_ERROR"
  | .noEndpoints => "RPC_NO_ENDPOINTS"
  | .invalidResponse => "RPC_INVALID_RESPONSE"
  | .noCode => "CONTRACT_NO_CODE"
  | .storeError => "STORE_ERROR"
  | .missingEnv => "CFG_MISSING_ENV"
  | .invalidValue => "CFG_INVALID_VALUE"
  | .unknown => "UNKNOWN_ERROR"

/-- The code with a given name. -/
def Code.ofName? (name : String) : Option Code := Code.all.find? fun code => code.name == name

/-- The class of a code. -/
def Code.family : Code → Family
  | .noCode => .noCode
  | .connectionFailed | .timedOut | .rateLimited | .rpcError | .noEndpoints | .invalidResponse =>
    .provider
  | .storeError | .missingEnv | .invalidValue | .unknown => .other

/-- The name of a class. -/
def Family.name : Family → String
  | .noCode => "NoCode"
  | .provider => "Provider"
  | .other => "Other"

/-- Whether the same request may succeed when it is made again. -/
def Code.isRetryable : Code → Bool
  | .timedOut | .rateLimited | .connectionFailed => true
  | .rpcError | .noEndpoints | .invalidResponse | .noCode | .storeError | .missingEnv
  | .invalidValue | .unknown => false

/-- The class of a fault. -/
def family (fault : Fault) : Family := fault.code.family

/-- Whether the same request may succeed when it is made again. -/
def isRetryable (fault : Fault) : Bool := fault.code.isRetryable

/-- The line shown to people: the code in brackets, then the message. -/
def display (fault : Fault) : String := "[" ++ fault.code.name ++ "] " ++ fault.message

/-! ## Faults with a fixed wording -/

/-- No contract stands where one was to be looked at. -/
def noCode (subject : String) : Fault :=
  ⟨.noCode, "Address " ++ subject ++ " has no deployed bytecode"⟩

/-- The endpoint asks to be left alone for a while. -/
def rateLimited : Fault := ⟨.rateLimited, "Rate limited (HTTP 429)"⟩

/-- A variable that has to be set is not. -/
def missingVariable (key : String) : Fault :=
  ⟨.missingEnv, "Missing environment variable: " ++ key⟩

/-- A value given by the user cannot be used. -/
def invalidValue (message : String) : Fault := ⟨.invalidValue, message⟩

/-- An answer of the ledger cannot be understood. -/
def invalidResponse (message : String) : Fault := ⟨.invalidResponse, message⟩

/-! ## Failures of others -/

/-- A failure outside the audit. -/
inductive Origin
  /-- A text is not hexadecimal. -/
  | hexadecimal
  /-- A text is not JSON, or holds something else. -/
  | json
  /-- Reading or writing outside the program failed. -/
  | inputOutput
  /-- A call ran past its deadline. -/
  | deadline
  /-- Anything else, with its own words. -/
  | report (message : String)
  deriving DecidableEq, Repr

/-- The fault that a failure outside amounts to. -/
def Origin.fault : Origin → Fault
  | .hexadecimal => invalidResponse "Hex decode error"
  | .json => invalidResponse "JSON parse error"
  | .inputOutput => ⟨.unknown, "IO error"⟩
  | .deadline => ⟨.timedOut, "Provider call exceeded its deadline"⟩
  | .report message => ⟨.unknown, message⟩

/-- Whether more is known about the failure than its fault says. -/
def Origin.hasDetails : Origin → Bool
  | .hexadecimal | .json | .inputOutput => true
  | .deadline | .report _ => false

end Fault

end TokenAudit
