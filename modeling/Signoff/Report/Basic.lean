import Signoff.Ledger
import Signoff.RunId

/-!
# Reports

The report of a run has a summary of each domain, the share of every status among the units, and
the units by chiplet with their results. It is made from the ledger and the units in catalog
order, so the order of jobs does not show.
-/

namespace Signoff

open Signoff.Number

/-- At most one value for each domain. -/
structure ByDomain (α : Type) where
  formal : Option α
  timing : Option α
  physical : Option α
  clock : Option α
  release : Option α
  gateLevel : Option α
deriving DecidableEq, Repr, Inhabited

namespace ByDomain

variable {α : Type}

def empty : ByDomain α := ⟨none, none, none, none, none, none⟩

def get? (m : ByDomain α) : Domain → Option α
  | .formal => m.formal
  | .timing => m.timing
  | .physical => m.physical
  | .clock => m.clock
  | .release => m.release
  | .gateLevel => m.gateLevel

def set (m : ByDomain α) (d : Domain) (a : α) : ByDomain α :=
  match d with
  | .formal => { m with formal := some a }
  | .timing => { m with timing := some a }
  | .physical => { m with physical := some a }
  | .clock => { m with clock := some a }
  | .release => { m with release := some a }
  | .gateLevel => { m with gateLevel := some a }

/-- The domains that have a value, in the order of processing, with their values. -/
def toList (m : ByDomain α) : List (Domain × α) :=
  Domain.all.filterMap fun d => (m.get? d).map fun a => (d, a)

def ofList (entries : List (Domain × α)) : ByDomain α :=
  entries.foldl (fun m (d, a) => m.set d a) empty

theorem get?_set (m : ByDomain α) (d e : Domain) (a : α) :
    (m.set d a).get? e = if d = e then some a else m.get? e := by
  cases d <;> cases e <;> rfl

end ByDomain

/-- How many units of a domain have a status. -/
structure StatusShare where
  status : Status
  count : UInt64
  percent : Binary64
deriving DecidableEq, Repr, Inhabited

structure DomainSummary where
  domain : Domain
  total : UInt64
  shares : List StatusShare
deriving DecidableEq, Repr, Inhabited

/-- A unit with its results. -/
structure UnitRow where
  index : UInt64
  name : String
  workarea : Path
  rtlTag : Option String
  releaseDate : String
  releaseUser : String
  results : ByDomain JobResult
deriving DecidableEq, Repr, Inhabited

structure ChipletGroup where
  chiplet : String
  units : List UnitRow
deriving DecidableEq, Repr, Inhabited

structure Report where
  schemaVersion : String
  runId : RunId
  generatedAt : Time.Instant
  dryRun : Bool
  domains : List Domain
  summaries : List DomainSummary
  chiplets : List ChipletGroup
deriving DecidableEq, Repr, Inhabited

namespace DomainSummary

def share? (s : DomainSummary) (status : Status) : Option StatusShare :=
  s.shares.find? (·.status == status)

def count (s : DomainSummary) (status : Status) : UInt64 :=
  ((s.share? status).map (·.count)).getD 0

def percent (s : DomainSummary) (status : Status) : Binary64 :=
  ((s.share? status).map (·.percent)).getD Binary64.zero

end DomainSummary

namespace Report

def schema : String := "1.0"

/-- Units in the order of the catalog. -/
def inOrder (units : List DesignUnit) : List DesignUnit :=
  units.mergeSort fun a b => a.index ≤ b.index

/-- The status of a unit; without a result it is unknown. -/
def statusOf (ledger : Ledger) (d : Domain) (u : DesignUnit) : Status :=
  ((ledger.get? ⟨d, u.index⟩).map (·.status)).getD .unknown

def percentOf (count total : Nat) : Binary64 :=
  if total = 0 then Binary64.zero
  else ((Binary64.ofNat count).mul (Binary64.ofNat 100)).div (Binary64.ofNat total)

def summarize (units : List DesignUnit) (ledger : Ledger) (d : Domain) : DomainSummary :=
  let statuses := (inOrder units).map (statusOf ledger d)
  let total := statuses.length
  let shares := Status.all.filterMap fun status =>
    let count := statuses.count status
    if count = 0 then none
    else some ⟨status, UInt64.ofNat count, percentOf count total⟩
  ⟨d, UInt64.ofNat total, shares⟩

def rowOf (domains : List Domain) (ledger : Ledger) (u : DesignUnit) : UnitRow :=
  { index := u.index
    name := u.name
    workarea := u.workarea
    rtlTag := u.rtlTag
    releaseDate := u.releaseDate
    releaseUser := u.releaseUser
    results := ByDomain.ofList (domains.filterMap fun d =>
      (ledger.get? ⟨d, u.index⟩).map fun r => (d, r)) }

/-- Puts a row into the group of its chiplet, or into a new one at the end. -/
def addRow (chiplet : String) (row : UnitRow) : List ChipletGroup → List ChipletGroup
  | [] => [⟨chiplet, [row]⟩]
  | g :: rest =>
    if g.chiplet = chiplet then { g with units := g.units ++ [row] } :: rest
    else g :: addRow chiplet row rest

def groupByChiplet (units : List DesignUnit) (domains : List Domain) (ledger : Ledger) :
    List ChipletGroup :=
  (inOrder units).foldl (fun gs u => addRow u.chiplet (rowOf domains ledger u) gs) []

def build (units : List DesignUnit) (domains : List Domain) (ledger : Ledger) (dryRun : Bool)
    (runId : RunId) (generatedAt : Time.Instant) : Report :=
  { schemaVersion := schema
    runId
    generatedAt
    dryRun
    domains
    summaries := domains.map (summarize units ledger)
    chiplets := groupByChiplet units domains ledger }

def summary? (r : Report) (d : Domain) : Option DomainSummary :=
  r.summaries.find? (·.domain == d)

def unitCount (r : Report) : Nat := (r.chiplets.flatMap (·.units)).length

/-- Every result with its unit and domain, chiplet by chiplet. -/
def results (r : Report) : List (UnitRow × Domain × JobResult) :=
  r.chiplets.flatMap fun g =>
    g.units.flatMap fun u => u.results.toList.map fun (d, result) => (u, d, result)

/-- The results that stop a release. -/
def blocking (r : Report) : List (UnitRow × Domain × JobResult) :=
  r.results.filter fun (_, _, result) => result.status.isBlocking

end Report

end Signoff
