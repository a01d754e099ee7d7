import BusContract.CommandLine.Grammar
import BusContract.Lookup.Role

/-!
# Commands

There are three commands: one looks up the signature of a member, one compares two signatures, and
one lists what the documents declare. Here is what each takes, and how a command line is understood.
-/

namespace BusContract

/-- Lines of text. -/
def lines (texts : List String) : String := String.join (texts.map (· ++ "\n"))

/-- The option to be told what a command takes. -/
def helpOption : CommandOption := ⟨["-h", "--help"], .help⟩

/-- The option to be told what is done on the way. -/
def verboseOption : CommandOption := ⟨["-v", "--verbose"], .mark⟩

/-- The option that names an interface. -/
def interfaceOption : CommandOption := ⟨["--interface"], .value⟩

/-- The option that names the directory of the documents. -/
def xmlPathOption : CommandOption := ⟨["--xml-path"], .value⟩

/-- The words for the commands. -/
def commandWords : List String := ["signature", "compare", "members"]

/-- The command that the others are commands of. -/
def topCommand : Command where
  program := "busstep"
  help := lines [
    "usage: busstep [-h] [-v] COMMAND ...",
    "",
    "busstep - keep types in lockstep with D-Bus introspection XML",
    "",
    "positional arguments:",
    "  COMMAND",
    "    signature    Print the declared signature of a member",
    "    compare      Compare two signatures",
    "    members      List the interfaces and members of the introspection XML",
    "",
    "options:",
    "  -h, --help     show this help message and exit",
    "  -v, --verbose  Log lookup details to stderr"]
  options := [helpOption, verboseOption]
  operands := [.command "COMMAND" commandWords]

/-- The words for roles. -/
def roleWords : List String := SignatureRole.all.map SignatureRole.word

/-- The words for roles as one text. -/
def roleChoice : String := "\x7b" ++ ",".intercalate roleWords ++ "\x7d"

/-- The command that looks up a signature. -/
def signatureCommand : Command where
  program := "busstep signature"
  help := lines [
    "usage: busstep signature [-h] [--interface INTERFACE] [--xml-path XML_PATH]",
    "                         " ++ roleChoice ++ " member",
    "",
    "Look up a member in the introspection XML and print its signature.",
    "",
    "positional arguments:",
    "  " ++ roleChoice,
    "                        Which signature to print",
    "  member                Member name, e.g. RequestName",
    "",
    "options:",
    "  -h, --help            show this help message and exit",
    "  --interface INTERFACE",
    "                        Interface declaring the member (required when several",
    "                        interfaces declare it)",
    "  --xml-path XML_PATH   Directory with the introspection XML (default:",
    "                        .busstep.yaml, ./xml or ./XML)"]
  options := [helpOption, interfaceOption, xmlPathOption]
  operands := [.choice "role" roleWords, .free "member"]

/-- The command that compares signatures. -/
def compareCommand : Command where
  program := "busstep compare"
  help := lines [
    "usage: busstep compare [-h] lhs rhs",
    "",
    "Exit with 0 if the signatures are at most one pair of outer parentheses apart.",
    "",
    "positional arguments:",
    "  lhs         First signature",
    "  rhs         Second signature",
    "",
    "options:",
    "  -h, --help  show this help message and exit"]
  options := [helpOption]
  operands := [.free "lhs", .free "rhs"]

/-- The command that lists what is declared. -/
def membersCommand : Command where
  program := "busstep members"
  help := lines [
    "usage: busstep members [-h] [--xml-path XML_PATH]",
    "",
    "List every interface with its methods, signals and properties.",
    "",
    "options:",
    "  -h, --help           show this help message and exit",
    "  --xml-path XML_PATH  Directory with the introspection XML (default:",
    "                       .busstep.yaml, ./xml or ./XML)"]
  options := [helpOption, xmlPathOption]
  operands := []

/-- The command of a word. -/
def commandOf (word : String) : Command :=
  if word = "signature" then signatureCommand
  else if word = "compare" then compareCommand
  else membersCommand

/-! ## Understanding command lines -/

/-- What is to be done. -/
inductive Task where
  | signature (role : SignatureRole) (member : String) (interface : Option String)
      (xmlPath : Option String)
  | compare (lhs rhs : String)
  | members (xmlPath : Option String)
  deriving Repr, DecidableEq

/-- What is to be done, and whether to tell what is done on the way. -/
structure Invocation where
  isVerbose : Bool
  task : Task
  deriving Repr, DecidableEq

/-- The value of an option, if it was given. -/
def Said.option? (said : Said) (o : CommandOption) : Option String := said.values.lookup o.title

/-- The value of an operand. -/
def Said.operand (said : Said) (name : String) : String := (said.values.lookup name).getD ""

/-- The task that a command was given. -/
def taskOf (word : String) (said : Said) : Task :=
  if word = "signature" then
    .signature ((SignatureRole.ofWord? (said.operand "role")).getD .signalBody)
      (said.operand "member") (said.option? interfaceOption) (said.option? xmlPathOption)
  else if word = "compare" then .compare (said.operand "lhs") (said.operand "rhs")
  else .members (said.option? xmlPathOption)

/-- Understands a command line. What no command has a use for is complained about by the top one,
and without a command that one says what it takes. -/
def Invocation.ofArguments (arguments : List String) : Except Halt Invocation := do
  let top ← topCommand.read arguments
  let sub ← match top.command with
    | some (word, rest) => ((commandOf word).read rest).map fun said => some (word, said)
    | none => .ok none
  let leftOver := top.leftOver ++ ((sub.map fun (_, said) => said.leftOver).getD [])
  if !leftOver.isEmpty then
    let words := " ".intercalate leftOver
    .error (.misuse topCommand s!"unrecognized arguments: {words}")
  else
    match sub with
    | none => .error (.help topCommand)
    | some (word, said) => return ⟨top.marks.contains verboseOption.title, taskOf word said⟩

end BusContract
