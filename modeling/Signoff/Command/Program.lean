import Signoff.Command.Line
import Signoff.Gate
import Signoff.Run.Execute
import Signoff.Sources

/-!
# The program

What the program answers to a command line: an exit code, lines of output, a complaint if it
failed, and the workspace it leaves behind. A run that the gate does not let pass exits with 1 and
has no complaint.
-/

namespace Signoff.Command

/-- What a program finds around it. A tool is made for the settings, and `settle` lays what it did
to the workspace over the workspace of the run. -/
structure Surroundings (σ : Type) where
  files : Workspace
  config : Option String
  toolFor : ToolCommand → Tool σ
  toolState : σ
  settle : σ → Workspace → Workspace
  processors : UInt64
  clock : Nat → Time.Instant
  runId : RunId

structure Response where
  exitCode : Nat
  output : List String
  complaint : String
  files : Workspace

/-- A failure as messages from the outside in: what was tried, and why it failed. -/
structure Failure where
  messages : List String
deriving DecidableEq, Repr

namespace Failure

def ofError (e : Error) : Failure := ⟨e.chain⟩

def within (context : String) (f : Failure) : Failure := ⟨context :: f.messages⟩

/-- A message behind its number, with further lines under the first one. -/
def indented (front deeper : String) (message : String) : String :=
  front ++ String.intercalate ("\n" ++ deeper)
    ((Text.splitOn '\n' message.toList).map String.ofList)

def numberText (n : Nat) : String :=
  let digits := String.ofList (Text.digitsOf n)
  String.ofList (List.replicate (5 - digits.length) ' ') ++ digits ++ ": "

def causeLines : List String → List String
  | [] => []
  | [cause] => ["", "Caused by:", indented "    " "    " cause]
  | causes => "" :: "Caused by:" ::
      causes.zipIdx.map fun (cause, i) => indented (numberText i) "       " cause

def text (f : Failure) : String :=
  match f.messages with
  | [] => ""
  | message :: causes => "Error: " ++ String.intercalate "\n" (message :: causeLines causes) ++ "\n"

end Failure

namespace Program

variable {σ : Type}

def refused (s : Surroundings σ) (f : Failure) : Response := ⟨1, [], f.text, s.files⟩

def orFail {α : Type} : Except Error α → Except Failure α
  | .ok a => .ok a
  | .error e => .error (.ofError e)

/-- The settings with what the command line changes. -/
def override (c : Config) (r : RunRequest) : Config :=
  { c with
    catalog := r.selection.catalog <|> c.catalog
    slots := r.slots.getD c.slots
    retries := r.retries.getD c.retries
    retryDelaySeconds := r.retryDelaySeconds.getD c.retryDelaySeconds
    timeoutSeconds := r.timeoutSeconds.getD c.timeoutSeconds
    output := r.output.getD c.output }

def checked (c : Config) : Except Failure Config :=
  match c.validate with
  | .ok () => .ok c
  | .error fault => .error (.ofError (.setting none fault))

def noCatalog : Failure := ⟨["No unit catalog given; pass --catalog or set catalog_path"]⟩

def selectUnits (w : Workspace) (c : Config) (s : Selection) :
    Except Failure (List DesignUnit) :=
  match s.catalog <|> c.catalog with
  | none => .error noCatalog
  | some path =>
    match Catalog.load w path c.delimiter with
    | .error e => .error (.ofError e)
    | .ok rows =>
      .ok ((UnitFilter.ofArguments s.chiplets s.unit).apply (Catalog.selectRelease rows s.release))

/-- A text with blanks behind it up to a width. -/
def padRight (width : Nat) (s : String) : String :=
  s ++ String.ofList (List.replicate (width - s.length) ' ')

def padLeft (width : Nat) (s : String) : String :=
  String.ofList (List.replicate (width - s.length) ' ') ++ s

def unitLine (u : DesignUnit) : String :=
  let index := padLeft 5 (toString u.index)
  let columns := [padRight 12 u.chiplet, padRight 24 u.name, padRight 12 (u.rtlTag.getD "-"),
    u.workarea.text]
  index ++ "  " ++ String.intercalate " " columns

def unitLines (units : List DesignUnit) : List String :=
  units.map unitLine ++ [s!"{units.length} unit(s)"]

def listUnits (s : Surroundings σ) (c : Config) (selection : Selection) : Response :=
  match selectUnits s.files c selection with
  | .error f => refused s f
  | .ok units => ⟨0, unitLines units, "", s.files⟩

def textLines (s : String) : List String := (Text.lines s.toList).map String.ofList

def verdictLines (d : Domain) (v : Verdict) (showFigures : Bool) : List String :=
  s!"{d.name}: {v.status.name} ({v.details})" ::
    if showFigures then textLines v.figures.toJson.pretty else []

def classify (s : Surroundings σ) (d : Domain) (raw : Path) (showFigures : Bool) : Response :=
  match s.files.readText raw with
  | .error fault => refused s ⟨[s!"Failed to read {raw.quoted}", fault.message]⟩
  | .ok output =>
    let text := String.join ((verdictLines d (d.classify output) showFigures).map (· ++ "\n"))
    ⟨0, textLines text, "", s.files⟩

def summaryLine (s : DomainSummary) : String :=
  let shares := s.shares.map fun share => s!"{share.status.name} {share.count}"
  s!"  {s.domain.name} ({s.total} units): " ++ String.intercalate ", " shares

def resultLines (r : RunResult) : List String :=
  [s!"Run ID: {r.report.runId.write}", s!"Duration: {r.durationMillis}ms",
    s!"Jobs: {r.executedCount} executed, {r.resumedCount} resumed",
    s!"Invocations: {r.counters.invocations} ({r.counters.retries} retries)", ""] ++
  r.report.summaries.map summaryLine ++
  ["", s!"Summary: {r.passedCount} passed, {r.blockingCount} blocking"] ++
  match r.paths with
  | some (main, readable) => [s!"Report: {main.text} / {readable.text}"]
  | none => []

def gateLines (g : GateDecision) : List String :=
  (if g.passed then "Gate: ✓ PASSED" else "Gate: ✗ FAILED") ::
    if g.violations.isEmpty then [] else "Violations:" :: g.violations.map fun v => s!"  - {v}"

/-- What is printed about a run, as lines that end each at a line feed. -/
def runText (r : RunResult) (dryRun : Bool) : String :=
  let ended (lines : List String) := String.join (lines.map (· ++ "\n"))
  ended (resultLines r) ++ (if dryRun then "\n" ++ r.report.markdown else "") ++
    ended (gateLines r.report.gate)

/-- The settings and the plan of a run. -/
def planOf (w : Workspace) (c : Config) (r : RunRequest) : Except Failure (Config × Plan) := do
  let c ← checked (override c r)
  let units ← selectUnits w c r.selection
  let domains ← orFail (Domain.readList r.domains)
  return (c, { domains, units, dryRun := r.dryRun, resume := r.resume })

def run (s : Surroundings σ) (c : Config) (request : RunRequest) : Response :=
  match planOf s.files c request with
  | .error f => refused s f
  | .ok (c, plan) =>
    let bench := Bench.ofConfig (s.toolFor (ToolCommand.ofConfig c)) s.clock s.processors c
    let after := bench.run s.files plan s.runId s.toolState
    let files := s.settle after.tool after.files
    match after.result with
    | .error e => ⟨1, [], (Failure.within "Regression run failed" ⟨e.chain⟩).text, files⟩
    | .ok result =>
      ⟨result.report.gate.exitCode, textLines (runText result plan.dryRun), "", files⟩

def carryOut (s : Surroundings σ) (line : CommandLine) : Response :=
  match Config.resolve s.files line.config none with
  | .error e => refused s (Failure.within "Failed to load configuration" (.ofError e))
  | .ok c =>
    match line.task with
    | .run request => run s c request
    | .listUnits selection => listUnits s c selection
    | .classify d raw showFigures => classify s d raw showFigures

end Program

end Signoff.Command
