import Signoff.Domain
import Signoff.Number.Binary64
import Signoff.Time.Instant

/-!
# Units, jobs and their files

A design unit has a place in the catalog, which together with a domain names a job. The files of a
job carry the place and the unit's name, made safe, below a folder of the domain.
-/

namespace Signoff

open Signoff.Text

structure DesignUnit where
  index : UInt64
  name : String
  chiplet : String
  workarea : Path
  rtlTag : Option String
  releaseTypes : List String
  releaseDate : String
  releaseUser : String
deriving DecidableEq, Repr, Inhabited

/-- Whether one of the flags is the given one, in any letter case. -/
def hasFlag (flags : List String) (flag : String) : Bool :=
  flags.any fun f => sameLetters f.toList flag.toList

/-- The identity of a job. -/
structure JobKey where
  domain : Domain
  index : UInt64
deriving DecidableEq, Repr, Inhabited

namespace JobKey

/-- The order of keys: domains as they are processed, then places in the catalog. -/
def before (a b : JobKey) : Bool :=
  a.domain.rank < b.domain.rank || (a.domain == b.domain && a.index < b.index)

def sort (keys : List JobKey) : List JobKey := keys.mergeSort fun a b => !b.before a

def text (k : JobKey) : String := s!"{k.domain.name}#{k.index}"

end JobKey

structure Job where
  domain : Domain
  unit : DesignUnit
deriving DecidableEq, Repr, Inhabited

namespace Job

def key (j : Job) : JobKey := ⟨j.domain, j.unit.index⟩

def isSafe (c : Char) : Bool := c.isAlphanum || c == '_' || c == '-' || c == '.'

/-- The unit's name with an underscore for every character that may not stand in a file name. -/
def safeName (name : String) : List Char :=
  name.toList.map fun c => if isSafe c then c else '_'

/-- The place with at least five digits, and the safe name. -/
def stem (j : Job) : String :=
  String.ofList (Time.padded 5 j.unit.index.toNat ++ '_' :: safeName j.unit.name)

end Job

/-- The places of a run's files below its root folder. -/
structure Layout where
  root : Path
deriving DecidableEq, Repr, Inhabited

namespace Layout

def rawFolder (l : Layout) (d : Domain) : Path := (l.root.child "raw").child d.slug

def resultFolder (l : Layout) (d : Domain) : Path := (l.root.child "results").child d.slug

/-- The saved output of a job's last tool call. -/
def rawPath (l : Layout) (j : Job) : Path := (l.rawFolder j.domain).child (j.stem ++ ".log")

/-- The result record of a job. -/
def recordPath (l : Layout) (j : Job) : Path :=
  (l.resultFolder j.domain).child (j.stem ++ ".result")

def logPath (l : Layout) : Path := l.root.child "state.log"

def reportPath (l : Layout) : Path := l.root.child "report.json"

def summaryPath (l : Layout) : Path := l.root.child "report.md"

end Layout

end Signoff
