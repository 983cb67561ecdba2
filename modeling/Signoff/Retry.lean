import Signoff.Attempt

/-!
# Retrying

A passing failure is tried again after a fixed delay of at most 30 years, until the attempts are used up. The count of
attempts is one more than that of retries, in 32 bits.
-/

namespace Signoff

structure RetryPolicy where
  retries : UInt32
  delayMillis : Nat
deriving DecidableEq, Repr, Inhabited

/-- What becomes of a job after an attempt. -/
inductive Decision (α : Type)
  | done (value : α)
  | again (cause : String)
  | giveUp (cause : String)
deriving DecidableEq, Repr

/-- What a whole series of attempts came to. -/
inductive RetryOutcome (ε α : Type)
  | completed (value : α) (attempts : UInt32)
  | exhausted (attempts : UInt32) (lastCause : String)
  | aborted (error : ε)
deriving DecidableEq, Repr

/-- The attempts made, the retries with their causes, and the time waited between them. -/
structure RetryRun (ε α : Type) where
  outcome : RetryOutcome ε α
  calls : List UInt32
  retried : List (UInt32 × String)
  waitedMillis : Nat
deriving DecidableEq, Repr

namespace RetryPolicy

def ofConfig (c : Config) : RetryPolicy := ⟨c.retries, c.retryDelaySeconds.toNat * 1000⟩

/-- No wait is longer than 30 years of 365 days. -/
def longestMillis : Nat := 30 * 365 * 86400 * 1000

/-- The time between two attempts. -/
def waitMillis (p : RetryPolicy) : Nat :=
  if p.delayMillis ≤ longestMillis then p.delayMillis else longestMillis

def maxAttempts (p : RetryPolicy) : UInt32 := p.retries + 1

def decide {α : Type} (p : RetryPolicy) (attempt : UInt32) : Attempt α → Decision α
  | .final value => .done value
  | .passing cause => if attempt < p.maxAttempts then .again cause else .giveUp cause

/-- Puts an attempt in front of a run. -/
def RetryRun.addCall {ε α : Type} (attempt : UInt32) (run : RetryRun ε α) : RetryRun ε α :=
  { run with calls := attempt :: run.calls }

/-- The attempts from a given one on; `left` of them may still be made. -/
def runFrom {ε α : Type} (p : RetryPolicy) (op : UInt32 → Except ε (Attempt α)) :
    Nat → UInt32 → RetryRun ε α
  | 0, _ => ⟨.exhausted p.maxAttempts "", [], [], 0⟩
  | left + 1, attempt =>
    match op attempt with
    | .error e => ⟨.aborted e, [attempt], [], 0⟩
    | .ok answer =>
      match p.decide attempt answer with
      | .done value => ⟨.completed value attempt, [attempt], [], 0⟩
      | .giveUp cause => ⟨.exhausted p.maxAttempts cause, [attempt], [], 0⟩
      | .again cause =>
        let rest := runFrom p op left (attempt + 1)
        ⟨rest.outcome, attempt :: rest.calls, (attempt, cause) :: rest.retried,
          p.waitMillis + rest.waitedMillis⟩

/-- All attempts, numbered from 1. -/
def run {ε α : Type} (p : RetryPolicy) (op : UInt32 → Except ε (Attempt α)) : RetryRun ε α :=
  runFrom p op p.maxAttempts.toNat 1

end RetryPolicy

end Signoff
