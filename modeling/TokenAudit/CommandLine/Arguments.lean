import TokenAudit.Address
import TokenAudit.Ledger.BlockRef

/-! # Arguments

What a user asks for on the command line: a command, and values for its parameters in their order.
An argument that starts with a dash is a flag, unless two dashes stood alone before it.

* `Command` — what is to be done;
* `Parameter` — the place of a value;
* `Stop` — why nothing is to be done, with `Stop.message`;
* `Command.parse` — the command that arguments spell.

A value is read when it comes, but refused only when the next one comes, when help is asked for, or
at the end. So of two faults a value that does not fit gives way to an argument after it that nobody
knows. -/

namespace TokenAudit

/-- What is to be done. -/
inductive Command
  /-- Report on the code of a contract. -/
  | bytecode (address : Address)
  /-- List the holders of a token. -/
  | holders (address : Address) (first last : Option BlockRef) (topN : Option Nat)
  /-- Assess a token. -/
  | assess (address : Address)
  deriving DecidableEq, Repr

/-- The commands by what they do. -/
inductive CommandKind
  | bytecode | holders | assess
  deriving DecidableEq, Repr

/-- What help can be had on. -/
inductive HelpTopic
  /-- The program as a whole. -/
  | program
  /-- A command. -/
  | command (kind : CommandKind)
  /-- Help itself. -/
  | help
  deriving DecidableEq, Repr

/-! ## Parameters -/

/-- The values read so far. -/
structure ArgumentValues where
  address : Option Address := none
  first : Option BlockRef := none
  last : Option BlockRef := none
  topN : Option Nat := none
  deriving DecidableEq, Repr, Inhabited

/-- The place of a value on the command line. -/
structure Parameter where
  /-- How it is shown: in angle brackets if the value has to be given, else in square ones. -/
  placeholder : String
  /-- What it is for. -/
  description : String
  /-- Takes in a value, or says why it does not fit. -/
  take : String → ArgumentValues → Except String ArgumentValues

namespace Parameter

/-- An account. -/
def address (description : String) : Parameter where
  placeholder := "<ADDRESS>"
  description
  take text values :=
    match Address.parse text with
    | .ok a => .ok { values with address := some a }
    | .error flaw => .error flaw.message

/-- A reference to a block, put where `set` says. -/
def block (placeholder description : String)
    (set : BlockRef → ArgumentValues → ArgumentValues) : Parameter where
  placeholder
  description
  take text values :=
    match BlockRef.parse text with
    | .ok ref => .ok (set ref values)
    | .error fault => .error fault.display

/-- A number of holders. -/
def topN : Parameter where
  placeholder := "[TOP_N]"
  description := "Holders to report"
  take text values :=
    match Numeral.read 10 UInt64.size text.toList with
    | .ok n => .ok { values with topN := some n }
    | .error flaw => .error flaw.message

end Parameter

namespace CommandKind

/-- Every command once, in the order in which they are listed. -/
def all : List CommandKind := [.bytecode, .holders, .assess]

/-- The name by which a command is called. -/
def name : CommandKind → String
  | .bytecode => "bytecode"
  | .holders => "holders"
  | .assess => "assess"

/-- What a command does. -/
def about : CommandKind → String
  | .bytecode => "Static risk report for the deployed bytecode"
  | .holders => "Reconstruct top holders from Transfer logs"
  | .assess => "Full token profile with recommendation"

/-- The parameters of a command. -/
def parameters : CommandKind → List Parameter
  | .bytecode => [.address "Contract address"]
  | .holders =>
    [.address "Token address",
     .block "[FROM]" "First block (number, 0x-hex, earliest); defaults to head - lookback"
       (fun ref values => { values with first := some ref }),
     .block "[TO]" "Last block (number, 0x-hex, latest); defaults to head"
       (fun ref values => { values with last := some ref }),
     .topN]
  | .assess => [.address "Token address"]

/-- The command with a given name. -/
def ofName? (name : String) : Option CommandKind := all.find? fun kind => kind.name == name

/-- The command for values; none if there is no account among them. -/
def withValues? (kind : CommandKind) (values : ArgumentValues) : Option Command :=
  values.address.map fun address =>
    match kind with
    | .bytecode => .bytecode address
    | .holders => .holders address values.first values.last values.topN
    | .assess => .assess address

end CommandKind

/-! ## Reading arguments -/

/-- Why nothing is to be done. -/
inductive Stop
  /-- Help was asked for. -/
  | help (topic : HelpTopic)
  /-- The version was asked for. -/
  | version
  /-- There are no arguments. -/
  | noArguments
  /-- There is no command of that name. -/
  | unknownCommand (name : String)
  /-- There is no place for an argument. -/
  | unknownArgument (text : String) (topic : HelpTopic)
  /-- A flag that takes no value was given one. -/
  | surplusValue (value flag : String) (topic : HelpTopic)
  /-- A value does not fit its place. -/
  | badValue (value placeholder reason : String)
  /-- A value that has to be given is missing. -/
  | missingValue (placeholder : String) (kind : CommandKind)
  deriving DecidableEq, Repr

/-- The name under which help on a topic can be asked for. -/
def helpName : String := "help"

/-- What a flag without its dashes asks for. Only the program as a whole has a version. -/
def flagNamed? (topic : HelpTopic) (name : String) : Option Stop :=
  if name = "help" ∨ name = "h" then some (.help topic)
  else if (name = "version" ∨ name = "V") ∧ topic = .program then some .version
  else none

/-- What a flag leads to, if the argument is one: two dashes and a word, or one dash and letters, of
which the first counts. -/
def flag? (topic : HelpTopic) (argument : String) : Option Stop :=
  match argument.toList with
  | '-' :: '-' :: rest =>
    let name := String.ofList (rest.takeWhile (· ≠ '='))
    let flag := "--" ++ name
    match (if name.length ≤ 1 then none else flagNamed? topic name), rest.dropWhile (· ≠ '=') with
    | some stop, [] => some stop
    | some _, _ :: value => some (.surplusValue (String.ofList value) flag topic)
    | none, _ => some (.unknownArgument flag topic)
  | '-' :: c :: _ =>
    let name := String.singleton c
    some ((flagNamed? topic name).getD (.unknownArgument ("-" ++ name) topic))
  | _ => none

/-- Whether a stop comes of a flag that is known. -/
def Stop.isAnswer : Stop → Bool
  | .help _ | .version => true
  | _ => false

/-- Reads the values of a command. `refused` is the refusal of the value that came last, if it did
not fit; `literal` says that arguments are values even if they start with a dash. -/
def readValues (kind : CommandKind) : (parameters : List Parameter) → (values : ArgumentValues) →
    (refused : Except Stop Unit) → (literal : Bool) → List String → Except Stop ArgumentValues
  | _, values, refused, _, [] => refused.map fun _ => values
  | parameters, values, refused, literal, argument :: rest =>
    if !literal && argument == "--" then readValues kind parameters values refused true rest
    else
      match (if literal then none else flag? (.command kind) argument) with
      | some stop => if stop.isAnswer then refused.bind fun _ => .error stop else .error stop
      | none =>
        match parameters with
        | [] => .error (.unknownArgument argument (.command kind))
        | p :: later => do
          refused
          match p.take argument values with
          | .ok values => readValues kind later values (.ok ()) literal rest
          | .error reason =>
            readValues kind later values
              (.error (.badValue argument p.placeholder reason)) literal rest

/-- Finds the topic that help is asked on. -/
def helpTopic : List String → Except Stop HelpTopic
  | [] => .ok .program
  | name :: rest =>
    match CommandKind.ofName? name, rest with
    | some kind, [] => .ok (.command kind)
    | some _, other :: _ => .error (.unknownCommand other)
    | none, [] => if name = helpName then .ok .help else .error (.unknownCommand name)
    | none, other :: _ => .error (.unknownCommand (if name = helpName then other else name))

/-- Whether a name calls a command or help. -/
def isCalled (name : String) : Bool := (CommandKind.ofName? name).isSome || name == helpName

/-- The command that arguments spell. -/
def Command.parse : List String → Except Stop Command
  | [] | ["--"] => .error .noArguments
  | "--" :: argument :: _ =>
    .error
      (if isCalled argument then .unknownArgument argument .program else .unknownCommand argument)
  | argument :: rest =>
    match CommandKind.ofName? argument with
    | some kind => do
      let values ← readValues kind kind.parameters {} (.ok ()) false rest
      match kind.withValues? values with
      | some command => return command
      | none => throw (.missingValue "<ADDRESS>" kind)
    | none =>
      if argument = helpName then (helpTopic rest).bind fun topic => .error (.help topic)
      else .error ((flag? .program argument).getD (.unknownCommand argument))

end TokenAudit
