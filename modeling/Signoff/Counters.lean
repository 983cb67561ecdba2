/-!
# Counters

Four counts of what a run does. A snapshot is the counts at one moment; what was counted between
two snapshots never falls below zero.
-/

namespace Signoff

inductive Counter
  | jobsLaunched
  | invocations
  | retries
  | resumed
deriving DecidableEq, Repr, Inhabited

namespace Counter

def all : List Counter := [jobsLaunched, invocations, retries, resumed]

def name : Counter → String
  | jobsLaunched => "jobs_launched"
  | invocations => "invocations"
  | retries => "retries"
  | resumed => "resumed"

end Counter

structure Counters where
  jobsLaunched : UInt64
  invocations : UInt64
  retries : UInt64
  resumed : UInt64
deriving DecidableEq, Repr, Inhabited

namespace Counters

def zero : Counters := ⟨0, 0, 0, 0⟩

def get (c : Counters) : Counter → UInt64
  | .jobsLaunched => c.jobsLaunched
  | .invocations => c.invocations
  | .retries => c.retries
  | .resumed => c.resumed

def count (c : Counters) : Counter → Counters
  | .jobsLaunched => { c with jobsLaunched := c.jobsLaunched + 1 }
  | .invocations => { c with invocations := c.invocations + 1 }
  | .retries => { c with retries := c.retries + 1 }
  | .resumed => { c with resumed := c.resumed + 1 }

def difference (later earlier : UInt64) : UInt64 :=
  if earlier ≤ later then later - earlier else 0

/-- What was counted since an earlier snapshot. -/
def since (later earlier : Counters) : Counters :=
  ⟨difference later.jobsLaunched earlier.jobsLaunched,
    difference later.invocations earlier.invocations,
    difference later.retries earlier.retries,
    difference later.resumed earlier.resumed⟩

theorem get_count (c : Counters) (k l : Counter) :
    (c.count k).get l = if k = l then c.get l + 1 else c.get l := by
  cases k <;> cases l <;> rfl

end Counters

end Signoff
