import Signoff.Run.Task

/-!
# Steps of a run

A run proceeds by steps: it begins a domain, launches the next job of its queue while there is
room, lets one of the running tasks take a step, collects a task that is over, and closes a domain
that has no job left. Which step is next is a matter of choice, as tasks run at the same time. The
first broken task that is collected ends the run.
-/

namespace Signoff

/-- A domain whose jobs are being executed. -/
structure Active where
  domain : Domain
  queue : List Job
  running : List (Job × Stage)
  stats : DomainStats
deriving DecidableEq

structure Progress (σ : Type) where
  scene : Scene σ
  ledger : Ledger
  closed : List (Domain × DomainStats)
  active : Option Active
  pending : List Domain
  failure : Option RunError

inductive Choice
  | beginDomain (trouble : Trouble)
  | launch
  | advance (place : Nat) (trouble : Trouble)
  | collect (place : Nat)
  | closeDomain

namespace Progress

variable {σ : Type}

def start (plan : Plan) (scene : Scene σ) : Progress σ :=
  { scene, ledger := Ledger.empty, closed := [], active := none, pending := plan.domains,
    failure := none }

/-- Every domain is closed. -/
def isComplete (p : Progress σ) : Bool :=
  p.failure.isNone && p.active.isNone && p.pending.isEmpty

/-- Makes the folders of a domain, unless that is refused. -/
def prepare (b : Bench σ) (trouble : Trouble) (w : Workspace) (d : Domain) :
    Except Error Unit × Workspace :=
  match trouble.writing with
  | some fault => (.error (.file fault), w)
  | none => b.layout.prepare w d

def beginDomain (b : Bench σ) (plan : Plan) (done : CompletionLog.Completions)
    (trouble : Trouble) (p : Progress σ) (d : Domain) (rest : List Domain) : Progress σ :=
  let survey := Survey.take p.scene.files b.layout done plan.units d
  let scene := { p.scene with
    counters := survey.count p.scene.counters
    events := p.scene.events ++ survey.resumedEvents }
  -- earlier results are entered before the folders can fail
  let p := { p with ledger := survey.enter p.ledger, pending := rest }
  match prepare b trouble scene.files d with
  | (.error error, files) =>
    { p with scene := { scene with files }, failure := some (.preparation d error) }
  | (.ok (), files) =>
    { p with
      scene := { scene with files }
      active := some ⟨d, survey.queue, [], ⟨0, survey.resumed.length, 0⟩⟩ }

def launch (p : Progress σ) (a : Active) (j : Job) (rest : List Job) : Progress σ :=
  { p with
    scene := p.scene.count .jobsLaunched
    active := some { a with queue := rest, running := a.running ++ [(j, .fresh)] } }

def advance? (b : Bench σ) (trouble : Trouble) (p : Progress σ) (a : Active) (place : Nat) :
    Option (Progress σ) :=
  match a.running[place]? with
  | none => none
  | some (j, stage) =>
    (b.advance? trouble p.scene j stage).map fun (next, scene) =>
      { p with scene, active := some { a with running := a.running.set place (j, next) } }

def collect? (p : Progress σ) (a : Active) (place : Nat) : Option (Progress σ) :=
  match a.running[place]? with
  | some (j, .finished r) =>
    some { p with
      ledger := p.ledger.enter j.key r
      active := some { a with
        running := a.running.eraseIdx place
        stats := { a.stats with executed := a.stats.executed + 1 } } }
  | some (_, .broken error) => some { p with active := none, failure := some error }
  | _ => none

def closeDomain (plan : Plan) (p : Progress σ) (a : Active) : Progress σ :=
  { p with
    scene := p.scene.emit (summaryEvent plan.units p.ledger a.domain)
    closed := p.closed ++ [(a.domain, a.stats)]
    active := none }

/-- The progress after a choice, if it can be made. -/
def step? (b : Bench σ) (plan : Plan) (done : CompletionLog.Completions) (p : Progress σ)
    (c : Choice) : Option (Progress σ) :=
  if p.failure.isSome then none
  else match c, p.active, p.pending with
    | .beginDomain trouble, none, d :: rest => some (p.beginDomain b plan done trouble d rest)
    | .launch, some a, _ =>
      match a.queue with
      | [] => none
      | j :: rest => if a.running.length < b.width then some (p.launch a j rest) else none
    | .advance place trouble, some a, _ => p.advance? b trouble a place
    | .collect place, some a, _ => p.collect? a place
    | .closeDomain, some a, _ =>
      if a.queue.isEmpty && a.running.isEmpty then some (p.closeDomain plan a) else none
    | _, _, _ => none

/-- One step follows from the other by some choice. -/
def Step (b : Bench σ) (plan : Plan) (done : CompletionLog.Completions) (p q : Progress σ) : Prop :=
  ∃ c, p.step? b plan done c = some q

/-- What any number of steps leads to. -/
inductive Reaches (b : Bench σ) (plan : Plan) (done : CompletionLog.Completions) :
    Progress σ → Progress σ → Prop
  | refl (p : Progress σ) : Reaches b plan done p p
  | step {p q r : Progress σ} : Reaches b plan done p q → Step b plan done q r →
      Reaches b plan done p r

end Progress

end Signoff
