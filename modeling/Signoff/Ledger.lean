import Signoff.Job
import Signoff.JobResult

/-!
# The ledger of results

The ledger holds the results of a run by job, in the order of the keys. A result is entered once:
a second one for the same job is refused and changes nothing.
-/

namespace Signoff

structure Ledger where
  entries : List (JobKey × JobResult)
deriving DecidableEq, Repr, Inhabited

namespace Ledger

def empty : Ledger := ⟨[]⟩

def get? (l : Ledger) (key : JobKey) : Option JobResult :=
  (l.entries.find? (·.1 == key)).map (·.2)

def contains (l : Ledger) (key : JobKey) : Bool := (l.get? key).isSome

/-- Puts an entry in front of the first one with a later key. -/
def place (entry : JobKey × JobResult) : List (JobKey × JobResult) → List (JobKey × JobResult)
  | [] => [entry]
  | e :: rest => if entry.1.before e.1 then entry :: e :: rest else e :: place entry rest

/-- The ledger with the result, and whether it was entered. -/
def insert (l : Ledger) (key : JobKey) (result : JobResult) : Ledger × Bool :=
  if l.contains key then (l, false) else (⟨place (key, result) l.entries⟩, true)

def enter (l : Ledger) (key : JobKey) (result : JobResult) : Ledger := (l.insert key result).1

def size (l : Ledger) : Nat := l.entries.length

def ofDomain (l : Ledger) (d : Domain) : List (JobKey × JobResult) :=
  l.entries.filter (·.1.domain == d)

def blockingCount (l : Ledger) : Nat := (l.entries.filter (·.2.status.isBlocking)).length

end Ledger

end Signoff
