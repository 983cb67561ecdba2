import Signoff.Run.Step

/-!
# The schedule of a run

One way to choose the steps of a run: jobs are launched as soon as there is room, tasks that are
over are collected at once, and of the running tasks the one that came the least far is next.
-/

namespace Signoff

namespace Stage

def isOver : Stage → Bool
  | finished _ => true
  | broken _ => true
  | _ => false

/-- How far a task came. -/
def turn : Stage → Nat
  | fresh => 0
  | ready attempt => 2 * attempt.toNat
  | answered attempt _ => 2 * attempt.toNat + 1
  | resolved r => 2 * r.attempts.toNat + 2
  | recorded r => 2 * r.attempts.toNat + 3
  | finished r => 2 * r.attempts.toNat + 4
  | broken _ => 0

end Stage

namespace Active

/-- The first task of those that came the least far. -/
def hindmost (a : Active) : Nat :=
  let turns := a.running.map fun (_, stage) => stage.turn
  (turns.findIdx? fun n => turns.all (n ≤ ·)).getD 0

def choose (a : Active) (width : Nat) : Choice :=
  if a.running.length < width && !a.queue.isEmpty then .launch
  else match a.running.findIdx? (·.2.isOver) with
    | some place => .collect place
    | none => if a.running.isEmpty then .closeDomain else .advance a.hindmost noTrouble

end Active

namespace Progress

variable {σ : Type}

def choose (b : Bench σ) (p : Progress σ) : Choice :=
  match p.active with
  | none => .beginDomain noTrouble
  | some a => a.choose b.width

/-- Takes steps until none can be taken; each takes fuel. -/
def proceed (b : Bench σ) (plan : Plan) (done : CompletionLog.Completions) :
    Nat → Progress σ → Progress σ
  | 0, p => p
  | fuel + 1, p =>
    match p.step? b plan done (p.choose b) with
    | none => p
    | some q => proceed b plan done fuel q

/-- Enough for every step that the plan can take. -/
def fuelFor (b : Bench σ) (plan : Plan) : Nat :=
  let ofJob := 2 * b.retry.maxAttempts.toNat + 6
  1 + plan.domains.length * (2 + plan.units.length * ofJob)

/-- The run of a plan from a scene to its end. -/
def runToEnd (b : Bench σ) (plan : Plan) (done : CompletionLog.Completions) (scene : Scene σ) :
    Progress σ :=
  proceed b plan done (fuelFor b plan) (start plan scene)

end Progress

end Signoff
