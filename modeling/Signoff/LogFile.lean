import Signoff.CompletionLog
import Signoff.Workspace.Access

/-!
# The completion log on file

A run starts a log of its own or goes on with that of an earlier run. Lines are written one at a
time, each in one piece.
-/

namespace Signoff

/-- An open completion log. A log that was started anew writes at its own position, one that is
continued at the end of the file. -/
structure LogFile where
  path : Path
  number : Nat
  position : Option Nat
deriving DecidableEq, Repr, Inhabited

/-- Whether a log starts anew or goes on. -/
inductive LogMode
  | fresh
  | continued
deriving DecidableEq, Repr

namespace LogFile

/-- The number of the file at a path, which is made if it is missing. -/
def fileAt (w : Workspace) (path : Path) : Except Fault (Nat × Workspace) :=
  match w.writable path with
  | .error fault => .error fault
  | .ok p =>
    match w.item? p with
    | none => .ok (w.nextNumber, w.create p ByteArray.empty)
    | some .folder => .error .isADirectory
    | some (.file number _) => .ok (number, w)

/-- Opens the log in a folder that exists. -/
def openAt (w : Workspace) (mode : LogMode) (path : Path) : Except Fault (LogFile × Workspace) :=
  match mode with
  | .continued =>
    match fileAt w path with
    | .error fault => .error fault
    | .ok (number, left) => .ok (⟨path, number, none⟩, left)
  | .fresh =>
    match w.write path ByteArray.empty with
    | .error fault => .error fault
    | .ok cleared =>
      match fileAt cleared path with
      | .error fault => .error fault
      | .ok (number, left) => .ok (⟨path, number, some 0⟩, left)

/-- Opens the log and makes the folders around it. -/
def start (w : Workspace) (mode : LogMode) (path : Path) : Except Error LogFile × Workspace :=
  let around := path.parent?.getD ⟨""⟩
  match w.makeFolders around with
  | (.error fault, left) => (.error (.completionLog path fault), left)
  | (.ok (), left) =>
    match openAt left mode path with
    | .error fault => (.error (.completionLog path fault), left)
    | .ok (log, opened) => (.ok log, opened)

/-- Appends the line of a completed job. -/
def record (log : LogFile) (w : Workspace) (key : JobKey) (unitName : String)
    (time : Time.Instant) : LogFile × Workspace :=
  let line := (CompletionLog.writeLine key unitName time ++ "\n").toUTF8
  ({ log with position := log.position.map (· + line.size) },
    w.writeInto log.number log.position line)

end LogFile

namespace CompletionLog

/-- The completions of an earlier run; a missing log has none. -/
def load (w : Workspace) (path : Path) : Except Error Completions :=
  match w.readText path with
  | .ok text => .ok (read text)
  | .error .notFound => .ok Completions.empty
  | .error fault => .error (.completionLog path fault)

end CompletionLog

end Signoff
