import Signoff.Command.Program

/-!
# Help texts

A help text names the program or a command, shows how it is called, and lists commands and options
with what they do, in columns.
-/

namespace Signoff.Command

namespace Help

def programName : String := "chipreg"

def programVersion : String := "0.3.1"

def versionText : String := s!"{programName} {programVersion}"

/-- Letter, long name and the place of the value. -/
def optionCell (o : OptionSpec) : String :=
  let letter := match o.letter with
    | some c => s!"-{c}, "
    | none => "    "
  let value := if o.takesValue then
    " <" ++ String.ofList (Text.replaceChar '-' '_' (Text.upper o.long.toList)) ++ ">" else ""
  letter ++ "--" ++ o.long ++ value

/-- Rows of two columns. -/
def columns (rows : List (String × String)) : List String :=
  let width := rows.foldl (fun n (cell, _) => if n < cell.length then cell.length else n) 0
  rows.map fun (cell, help) => "  " ++ Program.padRight width cell ++ "  " ++ help

/-- By what options of the same rank are ordered: the letter, or else the name. -/
def orderKey (o : OptionSpec) : String :=
  match o.letter with
  | some c => String.singleton c
  | none => o.long

/-- The options of a command with the general ones: the first of both, then the second of both. -/
def merged : List OptionSpec → List OptionSpec → List OptionSpec
  | [], general => general
  | own, [] => own
  | o :: own, g :: general =>
    if orderKey g < orderKey o then g :: o :: merged own general else o :: g :: merged own general

/-- What an option does, and the variable of the surroundings that stands in for it. -/
def optionHelp (surroundings : Option String) (o : OptionSpec) : String :=
  if o.long = CommandLine.configOption.long then
    o.help ++ " [env: " ++ CommandLine.configVariable ++ "=" ++ surroundings.getD "" ++ "]"
  else o.help

def optionRows (surroundings : Option String) (own : List OptionSpec) (hasVersion : Bool) :
    List (String × String) :=
  let rows := (merged own CommandLine.generalOptions).map fun o =>
    (optionCell o, optionHelp surroundings o)
  rows ++ [("-h, --help", "Print help")] ++
    if hasVersion then [("-V, --version", "Print version")] else []

def topText (surroundings : Option String) : List String :=
  ["Chiplet regression runner", "", s!"Usage: {programName} [OPTIONS] <COMMAND>", ""] ++
    ["Commands:"] ++ columns CommandLine.commandHelp ++
    ["", "Options:"] ++ columns (optionRows surroundings [] true)

def usageOf (command : String) : String :=
  if command = "classify" then "[OPTIONS] --domain <DOMAIN> <RAW>" else "[OPTIONS]"

def operandLines (command : String) : List String :=
  if (CommandLine.levelOf command).operands = 0 then []
  else ["Arguments:"] ++ columns [("<RAW>", "File holding the tool output")] ++ [""]

def commandText (surroundings : Option String) (command help : String) : List String :=
  [help, "", s!"Usage: {programName} {command} {usageOf command}", ""] ++ operandLines command ++
    ["Options:"] ++ columns (optionRows surroundings (CommandLine.ownOptions command) false)

def text (surroundings command : Option String) : List String :=
  match command.bind fun c => CommandLine.commandHelp.find? (·.1 == c) with
  | some (command, help) =>
    if command = "help" then topText surroundings else commandText surroundings command help
  | none => topText surroundings

end Help

namespace Program

variable {σ : Type}

/-- What the program answers to the arguments. -/
def respond (s : Surroundings σ) (arguments : List String) : Response :=
  match CommandLine.read s.config arguments with
  | .ok line => carryOut s line
  | .error .misuse =>
    ⟨2, [], "error: invalid arguments, for more information try '--help'\n", s.files⟩
  | .error .version => ⟨0, [Help.versionText], "", s.files⟩
  | .error (.help command) => ⟨0, Help.text s.config command, "", s.files⟩

end Program

end Signoff.Command
