import Signoff.Catalog
import Signoff.Config.Basic
import Signoff.Workspace.Access

/-!
# Catalogs and settings on file
-/

namespace Signoff

def Catalog.load (w : Workspace) (path : Path) (delimiter : Char) :
    Except Error (List Catalog.Row) :=
  match w.readText path with
  | .error fault => .error (.file fault)
  | .ok text =>
    match readRows text delimiter with
    | .ok rows => .ok rows
    | .error fault => .error (.catalog path fault)

namespace Config

def load (w : Workspace) (path : Path) : Except Error Config :=
  match w.readText path with
  | .error fault => .error (.file fault)
  | .ok text =>
    match read text with
    | .ok c => .ok c
    | .error fault => .error (.setting (some path) fault)

/-- The settings of the file that is asked for, else of the one that the surroundings name, else
the defaults. -/
def resolve (w : Workspace) (asked surroundings : Option Path) : Except Error Config :=
  match asked <|> surroundings with
  | some path => load w path
  | none => .ok {}

end Config

end Signoff
