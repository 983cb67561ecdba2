import Signoff.Command.Option
import Signoff.Config.Basic
import Signoff.Domain

/-!
# Command lines

The program has three commands: it runs a sign-off, lists the units that a run would cover, or
classifies saved tool output. Four options are general: they may stand in front of the command or
behind it, where the one behind it counts.
-/

namespace Signoff.Command

open Signoff.Text

/-- Which units of a catalog are meant. -/
structure Selection where
  catalog : Option Path
  release : Option String
  chiplets : Option String
  unit : Option String
deriving DecidableEq, Repr

structure RunRequest where
  selection : Selection
  domains : String
  slots : Option Slots
  dryRun : Bool
  resume : Option Path
  retries : Option UInt32
  retryDelaySeconds : Option UInt64
  timeoutSeconds : Option UInt64
  output : Option Path
deriving DecidableEq, Repr

inductive Task
  | run (request : RunRequest)
  | listUnits (selection : Selection)
  | classify (domain : Domain) (raw : Path) (showFigures : Bool)
deriving DecidableEq, Repr

structure CommandLine where
  verbose : Bool
  quiet : Bool
  jsonLog : Bool
  config : Option Path
  task : Task
deriving DecidableEq, Repr

namespace CommandLine

def anyText (_ : String) : Bool := true

def isPath (s : String) : Bool := !s.isEmpty

def isSlots (s : String) : Bool := (Slots.read s).toOption.isSome

/-- Zero may have a minus sign. -/
def readRetries? (s : String) : Option UInt32 :=
  match s.toList with
  | '-' :: digits => (readUInt32? digits).filter fun n => n == 0 && digits.head? != some '+'
  | cs => readUInt32? cs

def readSeconds? (s : String) : Option UInt64 := readUInt64? s.toList

def isDomain (s : String) : Bool := (Domain.ofText? s).isSome

def flag (long : String) (letter : Option Char) (help : String) : OptionSpec :=
  ⟨long, letter, false, false, anyText, help⟩

def valued (long : String) (accepts : String → Bool) (help : String) : OptionSpec :=
  ⟨long, none, true, false, accepts, help⟩

/-- The variable of the surroundings that may name a settings file. -/
def configVariable : String := "CHIPREG_CONFIG"

def configOption : OptionSpec := valued "config" isPath "Configuration file (TOML)"

def generalOptions : List OptionSpec := [
  flag "verbose" (some 'v') "Enable verbose output",
  flag "quiet" (some 'q') "Only log warnings and errors",
  flag "json" none "Emit JSON-formatted log lines",
  configOption]

def selectionOptions : List OptionSpec := [
  valued "catalog" isPath "Unit catalog file (overrides `catalog_path`)",
  valued "release" anyText "Release flag to select per unit (falls back to `default`)",
  valued "chiplets" anyText "Comma-separated chiplets to keep (case-insensitive)",
  valued "unit" anyText "Single unit to keep"]

def runOptions : List OptionSpec := [
  { valued "domains" anyText "Domains to run, comma-separated or repeated (default: all)" with
    mayRepeat := true },
  { valued "jobs" isSlots "Concurrent jobs: a number or `auto`" with letter := some 'j' },
  flag "dry-run" none "Resolve every job to NOT_RUN without invoking the tool",
  valued "resume" isPath "State log of an interrupted run to resume",
  valued "retries" (fun s => (readRetries? s).isSome) "Retries after the first attempt",
  valued "retry-delay" (fun s => (readSeconds? s).isSome) "Seconds between attempts",
  valued "timeout" (fun s => (readSeconds? s).isSome) "Per-invocation timeout in seconds",
  { valued "output" isPath "Output directory for artifacts and the report" with
    letter := some 'o' }]

def classifyOptions : List OptionSpec := [
  { valued "domain" isDomain "Analysis domain (formal, timing, pv, clock, release, glc)" with
    letter := some 'd' },
  flag "metrics" none "Print the metrics as JSON"]

/-- The commands with what they do. -/
def commandHelp : List (String × String) := [
  ("run", "Run the regression"),
  ("units", "List the units selected from the catalog"),
  ("classify", "Classify a saved raw tool output"),
  ("help", "Print this message or the help of the given subcommand(s)")]

def topLevel : Level := ⟨none, generalOptions, 0, commandHelp.map (·.1), true⟩

/-- The options of a command that are not general. -/
def ownOptions (command : String) : List OptionSpec :=
  if command = "run" then selectionOptions ++ runOptions
  else if command = "units" then selectionOptions
  else classifyOptions

def levelOf (command : String) : Level :=
  { command
    options := ownOptions command ++ generalOptions
    operands := if command = "classify" then 1 else 0
    commands := []
    hasVersion := false }

def selectionOf (f : Found) : Selection :=
  { catalog := (f.value? "catalog").map Path.mk
    release := f.value? "release"
    chiplets := f.value? "chiplets"
    unit := f.value? "unit" }

def runRequestOf (f : Found) : RunRequest :=
  { selection := selectionOf f
    domains := String.intercalate "," (f.values "domains")
    slots := (f.value? "jobs").bind fun s => (Slots.read s).toOption
    dryRun := f.has "dry-run"
    resume := (f.value? "resume").map Path.mk
    retries := (f.value? "retries").bind readRetries?
    retryDelaySeconds := (f.value? "retry-delay").bind readSeconds?
    timeoutSeconds := (f.value? "timeout").bind readSeconds?
    output := (f.value? "output").map Path.mk }

def taskOf (command : String) (f : Found) : Except Stop Task :=
  if command = "run" then .ok (.run (runRequestOf f))
  else if command = "units" then .ok (.listUnits (selectionOf f))
  else match (f.value? "domain").bind Domain.ofText?, f.operands with
    | some d, [raw] => .ok (.classify d ⟨raw⟩ (f.has "metrics"))
    | _, _ => .error .misuse

/-- The settings file that the surroundings name counts where the option is missing, and has to be
a path there. -/
def checkSurroundings (surroundings : Option String) (f : Found) : Except Stop Unit :=
  if !f.has "config" && surroundings == some "" then .error .misuse else .ok ()

def readHelp (names : List String) : Stop :=
  match names with
  | [] => .help none
  | [name] => if (commandHelp.map (·.1)).contains name then .help (some name) else .misuse
  | _ => .misuse

def read (surroundings : Option String) (arguments : List String) : Except Stop CommandLine := do
  let (front, command?) ← topLevel.read none Found.empty arguments
  match command? with
  | none => .error .misuse
  | some ("help", rest) => .error (readHelp rest)
  | some (command, rest) =>
    let (back, _) ← (levelOf command).read none Found.empty rest
    -- the command's own complaints come before those about the front
    checkSurroundings surroundings back
    let task ← taskOf command back
    checkSurroundings surroundings front
    return {
      verbose := front.has "verbose" || back.has "verbose"
      quiet := front.has "quiet" || back.has "quiet"
      jsonLog := front.has "json" || back.has "json"
      config := (back.value? "config" <|> front.value? "config" <|> surroundings).map Path.mk
      task }

end CommandLine

end Signoff.Command
