import TokenAudit.CommandLine.Arguments
import TokenAudit.Identity
import TokenAudit.Text.Terminal

/-! # Help

What is shown when nothing is to be done: help, the version, or what is wrong with the arguments.

* `helpText` — the help on a topic;
* `Stop.text` — the text for a stop, and `Stop.exitCode`. -/

namespace TokenAudit

/-- A row of a table: a name and what it means. -/
abbrev HelpRow := String × String

/-- Rows under a heading, the meanings below one another; nothing without rows. -/
def helpSection (heading : String) (rows : List HelpRow) : String :=
  if rows.isEmpty then ""
  else
    let width := rows.foldl (fun w row => max w row.1.length) 0
    let line (row : HelpRow) : String :=
      "  " ++ row.1 ++ String.ofList (List.replicate (width - row.1.length + 2) ' ') ++
        row.2 ++ "\n"
    "\n" ++ heading ++ ":\n" ++ String.join (rows.map line)

namespace HelpTopic

/-- What a topic is about. -/
def about : HelpTopic → String
  | .program => "Bytecode risk and holder concentration checks for ERC-20 tokens"
  | .command kind => kind.about
  | .help => "Print this message or the help of the given subcommand(s)"

/-- The arguments of a topic. -/
def parameterRows : HelpTopic → List HelpRow
  | .program => []
  | .command kind => kind.parameters.map fun p => (p.placeholder, p.description)
  | .help => [("[COMMAND]...", "Print help for the subcommand(s)")]

/-- The commands of a topic. -/
def commandRows : HelpTopic → List HelpRow
  | .program =>
    CommandKind.all.map (fun kind => (kind.name, kind.about)) ++ [(helpName, HelpTopic.help.about)]
  | .command _ | .help => []

/-- The flags of a topic. -/
def flagRows : HelpTopic → List HelpRow
  | .program => [("-h, --help", "Print help"), ("-V, --version", "Print version")]
  | .command _ => [("-h, --help", "Print help")]
  | .help => []

/-- How what a topic is about is called. -/
def usage (topic : HelpTopic) : String :=
  let words :=
    match topic with
    | .program => ["<COMMAND>"]
    | .command kind => kind.name :: topic.parameterRows.map Prod.fst
    | .help => helpName :: topic.parameterRows.map Prod.fst
  "Usage: " ++ " ".intercalate (Identity.command :: words) ++ "\n"

end HelpTopic

/-- The help on a topic. -/
def helpText (topic : HelpTopic) : String :=
  topic.about ++ "\n\n" ++ topic.usage ++ helpSection "Commands" topic.commandRows ++
    helpSection "Arguments" topic.parameterRows ++ helpSection "Options" topic.flagRows

namespace Stop

/-- Whether a stop is a mistake of the user. -/
def exitCode : Stop → Nat
  | .help _ | .version => 0
  | _ => 2

open Terminal (marked)

/-- What is wrong, and the usage that goes with it. Nothing in it is obeyed by a terminal, although
it cites what the user wrote. -/
def complaint (problem usage : String) : String :=
  Terminal.plain <|
    marked "error:" ++ " " ++ problem ++ "\n" ++ usage ++ "\nFor more information, try '" ++
      marked "--help" ++ "'.\n"

/-- The text for a stop. -/
def text : Stop → String
  | .help topic => helpText topic
  | .version => Identity.package ++ " " ++ Identity.version ++ "\n"
  | .noArguments => helpText .program
  | .unknownCommand name =>
    complaint ("unrecognized subcommand '" ++ marked name ++ "'") ("\n" ++ HelpTopic.program.usage)
  | .unknownArgument argument topic =>
    complaint ("unexpected argument '" ++ marked argument ++ "' found") ("\n" ++ topic.usage)
  | .surplusValue value flag topic =>
    complaint
      ("unexpected value '" ++ marked value ++ "' for '" ++ marked flag ++
        "' found; no more were expected")
      ("\n" ++ topic.usage)
  | .badValue value placeholder reason =>
    complaint
      ("invalid value '" ++ marked value ++ "' for '" ++ marked placeholder ++ "': " ++ reason) ""
  | .missingValue placeholder kind =>
    complaint "the following required arguments were not provided:"
      ("  " ++ placeholder ++ "\n\n" ++ (HelpTopic.command kind).usage)

end Stop

end TokenAudit
