import Signoff.Run.Basic
import Signoff.Shell.Evaluate
import Signoff.Workspace.Access

/-!
# Launching a tool

A tool command names a program: the shell, which reads a script from the workspace, or a utility.
A program that cannot be started answers like one that failed.
-/

namespace Signoff

open Shell

namespace ToolCommand

/-- Bounds the depth of a script and the turns of its loops. -/
def scriptFuel : Nat := 1000000

/-- How many commands a script may carry out. -/
def scriptSteps : Nat := 150000

/-- The exit of a program that gave no exit status. -/
def noStatus : Exit := .code (-1)

/-- Whether the system searches for the program by its name. -/
def isSearched (binary : Path) : Bool := !binary.text.toList.contains '/'

/-- Folders that every system has. -/
def systemFolders : List Place :=
  (["bin", "dev", "etc", "home", "lib", "opt", "proc", "root", "sbin", "srv", "sys", "tmp", "usr",
    "var"].map fun name => ["/", name]) ++
    (["bin", "include", "lib", "local", "sbin", "share"].map fun name => ["/", "usr", name]) ++
    (["cache", "lib", "log", "tmp"].map fun name => ["/", "var", name])

/-- The workspace within a system. -/
def furnished (w : Workspace) : Workspace :=
  systemFolders.foldl (fun (w : Workspace) p =>
    if (w.item? p).isSome then w else w.put p .folder) w

/-- Why a program that is neither the shell nor a utility cannot be started. -/
def startFault (w : Workspace) (binary : Path) : Fault :=
  if isSearched binary then
    if Workspace.isTooLong binary.text then .nameTooLong
    else if binary.text = "." || binary.text = ".." then .permissionDenied
    else .notFound
  else match w.read binary with
    | .ok _ => .permissionDenied
    | .error .isADirectory => .permissionDenied
    | .error fault => fault

def hasNul (s : String) : Bool := s.toList.contains '\x00'

def startFaultText (w : Workspace) (binary : Path) (args : List String) : String :=
  if hasNul binary.text || args.any hasNul then "nul byte found in provided data"
  else (startFault (furnished w) binary).message

/-- Variables that programs see. -/
def environment : List (String × String) :=
  [("HOME", "/root"), ("PWD", "/work"),
    ("PATH", "/usr/local/sbin:/usr/local/bin:/usr/sbin:/usr/bin:/sbin:/bin")]

/-- The number of the process of a program. -/
def firstProcess : Nat := 4321

/-- The session in which a program is started. -/
def session (w : Workspace) (timeoutMillis : Nat) : Session :=
  { world :=
      { files := furnished w, executables := [], buffers := #[[], []], holders := []
        openings := #[Session.readable [] none, Session.written (.buffer 0),
          Session.written (.buffer 1)]
        nextProcess := firstProcess + 1, signals := [], deaths := [], steps := scriptSteps }
    process := firstProcess, main := firstProcess, name := [], arguments := []
    bindings := environment.map fun (name, value) =>
      (octets name, ⟨some (octets value), true, false⟩)
    hidden := [], functions := [], aliases := [], depth := 0, nesting := 0, loops := 0, line := 0
    context := [], status := 0, innerStatus := 0, channels := [(0, 0), (1, 1), (2, 2)], folder := ⟨""⟩
    lastFolder := ⟨""⟩, now := 0, deadline := timeoutMillis * 1000, options := []
    guarded := false, traps := [], works := [], lastWork := none, lettersRead := 0, umask := 18
    known := []
    isCommand := true, flow := .next }

/-- The session after a program, if there is one of the name. -/
def start? (s : Session) (binary : Path) (args : List String) : Option Session :=
  if hasNul binary.text || args.any hasNul then none
  else (program? (octets binary.text)).map fun prog =>
    let args := args.map octets
    if shellNames.contains prog then s.runShell scriptFuel (octets binary.text) args
    else s.runProgram scriptFuel (octets binary.text) prog args

/-- What a session came to: all output, and then all complaints. A process that goes on holding an
output keeps the program from ending. -/
def invocationOf (s : Session) : Invocation :=
  let release (buffer : Nat) : Nat := Session.releaseTime s.world buffer s.now
  let output := Shell.textOf (Session.contentOf s.world 0) ++
    Shell.textOf (Session.contentOf s.world 1)
  let isLate := s.deadline ≤ release 0 || s.deadline ≤ release 1
  match s.flow with
  | .late => ⟨.timedOut, ""⟩
  | .endless => ⟨.timedOut, ""⟩
  | .killed _ => if isLate then ⟨.timedOut, ""⟩ else ⟨noStatus, output⟩
  | _ =>
    if isLate then ⟨.timedOut, ""⟩
    else ⟨if s.status % 256 = 0 then .success else .code (s.status % 256), output⟩

/-- Starts the program for a request, and gives the workspace it leaves. -/
def launch (t : ToolCommand) (w : Workspace) (r : Request) : Invocation × Workspace :=
  let args := t.arguments r
  match start? (session w r.timeoutMillis) t.binary args with
  | none =>
    (⟨noStatus, s!"failed to spawn {t.binary.text}: {startFaultText w t.binary args}"⟩,
      furnished w)
  | some s => (invocationOf s, s.world.files)

/-- The tool that launches a command. Its state is what its scripts did to the workspace. -/
def asTool (t : ToolCommand) : Tool Changes where
  call changes w _ _ r :=
    let (invocation, after) := t.launch (changes.layOver w) r
    (.answer invocation, Changes.between (furnished w) after)

end ToolCommand

end Signoff
