import Signoff.Config.Basic
import Signoff.Job
import Signoff.Verdict

/-!
# Tool calls and their outcome

A call asks the tool for the sections of a job's domain on the unit's working folder, with a limit
on time. A call that ends well, or ends badly after all with a verdict in its output, is final;
any other failure is passing and worth another attempt.
-/

namespace Signoff

open Signoff.Text

structure Request where
  workarea : Path
  sections : List String
  timeoutMillis : Nat
deriving DecidableEq, Repr, Inhabited

def Request.ofJob (j : Job) (timeoutMillis : Nat) : Request :=
  ⟨j.unit.workarea, j.domain.sections, timeoutMillis⟩

/-- The program that runs the tool, and a script for it. -/
structure ToolCommand where
  binary : Path
  tool : Option Path
deriving DecidableEq, Repr, Inhabited

namespace ToolCommand

def ofConfig (c : Config) : ToolCommand := ⟨c.binary, c.tool⟩

def arguments (t : ToolCommand) (r : Request) : List String :=
  (t.tool.map (·.text)).toList ++ [r.workarea.text, String.intercalate "," r.sections]

end ToolCommand

/-- How a tool call ended. -/
inductive Exit
  | success
  | code (n : Int)
  | timedOut
deriving DecidableEq, Repr, Inhabited

structure Invocation where
  exit : Exit
  output : String
deriving DecidableEq, Repr, Inhabited

def Invocation.succeeded (i : Invocation) : Bool := i.exit == .success

/-- What an attempt came to. -/
inductive Attempt (α : Type)
  | final (value : α)
  | passing (cause : String)
deriving DecidableEq, Repr, Inhabited

namespace Invocation

def timeoutText (timeoutMillis : Nat) : String := s!"timed out after {timeoutMillis / 1000}s"

/-- The text to save of an attempt; a timeout leaves a note on a line of its own. -/
def savedOutput (i : Invocation) (timeoutMillis : Nat) (attempt : UInt32) : String :=
  if i.exit = .timedOut then
    let last := i.output.toList.getLast?
    let gap := if last.isSome && last != some '\n' then "\n" else ""
    let note := timeoutText timeoutMillis
    i.output ++ gap ++ s!"chipreg: analysis tool {note} (attempt {attempt})\n"
  else i.output

/-- The last line that is not blank. -/
def lastLine? (output : List Char) : Option (List Char) :=
  (lines output).reverse.find? (!isBlankText ·)

def failureText (code : Int) (output : String) : String :=
  match lastLine? output.toList with
  | some line => s!"exited with code {code}: {String.ofList (trim line)}"
  | none => s!"exited with code {code}"

def judge (d : Domain) (i : Invocation) (timeoutMillis : Nat) : Attempt Verdict :=
  match i.exit with
  | .timedOut => .passing (timeoutText timeoutMillis)
  | .success => .final (d.classify i.output)
  | .code n =>
    let verdict := d.classify i.output
    if verdict.status.isVerdict then .final verdict else .passing (failureText n i.output)

end Invocation

end Signoff
