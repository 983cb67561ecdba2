import Signoff.Record
import Signoff.Report.Codec
import Signoff.Report.Markdown
import Signoff.Workspace.Save

/-!
# The files of a run

Each domain of a run has a folder for saved output and one for result records. A record is a line
of its own file, saved in one piece, so that a record that is there is complete.
-/

namespace Signoff

namespace Layout

/-- Makes the folders of a domain. -/
def prepare (l : Layout) (w : Workspace) (d : Domain) : Except Error Unit × Workspace :=
  match w.makeFolders (l.rawFolder d) with
  | (.error fault, left) => (.error (.file fault), left)
  | (.ok (), left) =>
    match left.makeFolders (l.resultFolder d) with
    | (.error fault, more) => (.error (.file fault), more)
    | (.ok (), more) => (.ok (), more)

end Layout

namespace Record

def lineOf (r : JobResult) : String := encode r ++ "\n"

/-- Saves the record of a result. -/
def save (w : Workspace) (refusals : Workspace.Refusals) (path : Path) (r : JobResult) :
    Except Error Unit × Workspace :=
  match path.parent? with
  | none => (.error (.recordWithoutFolder path), w)
  | some folder => w.save refusals folder path (lineOf r).toUTF8

def load (w : Workspace) (path : Path) : Except Error JobResult :=
  match w.readText path with
  | .error fault => .error (.file fault)
  | .ok text =>
    match decodeFile text with
    | .ok r => .ok r
    | .error fault => .error (.record path fault)

/-- The result that an earlier run left of a job. -/
def cached? (w : Workspace) (l : Layout) (j : Job) : Option JobResult :=
  (load w (l.recordPath j)).toOption

end Record

/-- Why a report cannot be had from a file. -/
inductive ReportFault
  | unread (path : Path) (fault : Fault)
  | malformed (path : Path)
deriving DecidableEq, Repr

def ReportFault.message : ReportFault → String
  | .unread path _ => s!"read {path.quoted}"
  | .malformed path => s!"parse {path.quoted}"

def Report.load (w : Workspace) (path : Path) : Except ReportFault Report :=
  match w.readText path with
  | .error fault => .error (.unread path fault)
  | .ok text =>
    match Report.read? text with
    | some r => .ok r
    | none => .error (.malformed path)

end Signoff
