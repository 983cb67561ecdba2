import Signoff.Run.Schedule

/-!
# Executing a plan

A run loads the completions of an earlier run, opens the log, works through the domains and writes
the report. A dry run only lists what there is to do and writes nothing.
-/

namespace Signoff

structure RunResult where
  report : Report
  stats : List (Domain × DomainStats)
  counters : Counters
  events : List Event
  durationMillis : Nat
  /-- The report and its readable form. -/
  paths : Option (Path × Path)

namespace RunResult

def passedCount (r : RunResult) : Nat :=
  (r.report.results.filter fun (_, _, result) => result.status == .passed).length

def blockingCount (r : RunResult) : Nat := r.report.blocking.length

def succeeded (r : RunResult) : Bool := r.blockingCount == 0

def executedCount (r : RunResult) : Nat := (r.stats.map (·.2.executed)).foldl (· + ·) 0

def resumedCount (r : RunResult) : Nat := (r.stats.map (·.2.resumed)).foldl (· + ·) 0

end RunResult

/-- What a run leaves behind, however it ends. -/
structure Aftermath (σ : Type) where
  result : Except RunError RunResult
  files : Workspace
  tool : σ
  waitedMillis : Nat

namespace Bench

variable {σ : Type}

def millisBetween (a b : Time.Instant) : Nat :=
  ((b.seconds - a.seconds) * 1000 + ((b.nanos / 1000000 : Nat) : Int) -
    ((a.nanos / 1000000 : Nat) : Int)).toNat

def completions (w : Workspace) (plan : Plan) : Except RunError CompletionLog.Completions :=
  match plan.resume with
  | none => .ok CompletionLog.Completions.empty
  | some path =>
    match CompletionLog.load w path with
    | .ok done => .ok done
    | .error error => .error (.log error)

/-- Opens the log of an earlier run, or a new one below the root. -/
def openLog (b : Bench σ) (w : Workspace) (plan : Plan) : Except RunError LogFile × Workspace :=
  -- the root is made even if the log lies elsewhere
  match w.makeFolders b.layout.root with
  | (.error fault, left) => (.error (.root b.layout.root fault), left)
  | (.ok (), left) =>
    let opened := match plan.resume with
      | some path => LogFile.start left .continued path
      | none => LogFile.start left .fresh b.layout.logPath
    match opened with
    | (.error error, more) => (.error (.log error), more)
    | (.ok log, more) => (.ok log, more)

def startedEvent (b : Bench σ) (plan : Plan) (runId : RunId) : Event :=
  .runStarted runId.write plan.domains plan.units.length b.slots

/-- Writes the report and its readable form. -/
def publish (b : Bench σ) (w : Workspace) (r : Report) : Except RunError Unit × Workspace :=
  match w.writeText b.layout.reportPath r.write with
  | .error fault => (.error (.unwritten b.layout.reportPath fault), w)
  | .ok left =>
    match left.writeText b.layout.summaryPath r.markdown with
    | .error fault => (.error (.unwritten b.layout.summaryPath fault), left)
    | .ok more => (.ok (), more)

/-- The result of a run whose clock was read a number of times. -/
def conclude (b : Bench σ) (runId : RunId) (report : Report) (size readings : Nat)
    (stats : List (Domain × DomainStats)) (counters : Counters) (events : List Event)
    (paths : Option (Path × Path)) : RunResult :=
  let millis := millisBetween (b.clock 0) (b.clock readings)
  { report, stats, counters, paths
    events := events ++ [.countersFlushed runId.write counters,
      .runFinished runId.write millis size report.blocking.isEmpty]
    durationMillis := millis }

/-- What a dry run finds out about a domain. -/
def listDomain (b : Bench σ) (w : Workspace) (plan : Plan) (done : CompletionLog.Completions)
    (state : Ledger × List (Domain × DomainStats) × Counters × List Event) (d : Domain) :
    Ledger × List (Domain × DomainStats) × Counters × List Event :=
  let (ledger, stats, counters, events) := state
  let survey := Survey.take w b.layout done plan.units d
  let ledger := survey.queue.foldl (fun l j => l.enter j.key JobResult.notRun) (survey.enter ledger)
  (ledger, stats ++ [(d, ⟨0, survey.resumed.length, survey.queue.length⟩)], survey.count counters,
    events ++ survey.resumedEvents ++ [summaryEvent plan.units ledger d])

def dryRun (b : Bench σ) (w : Workspace) (plan : Plan) (runId : RunId)
    (done : CompletionLog.Completions) : RunResult :=
  let (ledger, stats, counters, events) := plan.domains.foldl (b.listDomain w plan done)
    (Ledger.empty, [], Counters.zero, [b.startedEvent plan runId])
  let report := Report.build plan.units plan.domains ledger true runId (b.clock 1)
  b.conclude runId report ledger.size 2 stats counters events none

def openingScene (b : Bench σ) (plan : Plan) (runId : RunId) (w : Workspace) (log : LogFile)
    (tool : σ) : Scene σ :=
  { files := w, log, tool, counters := Counters.zero, events := [b.startedEvent plan runId],
    waitedMillis := 0, readings := 1 }

/-- Writes the report of a complete run. -/
def finish (b : Bench σ) (plan : Plan) (runId : RunId) (p : Progress σ) : Aftermath σ :=
  let s := p.scene
  let report := Report.build plan.units plan.domains p.ledger false runId (b.clock s.readings)
  match b.publish s.files report with
  | (.error error, files) => ⟨.error error, files, s.tool, s.waitedMillis⟩
  | (.ok (), files) =>
    let paths := (b.layout.reportPath, b.layout.summaryPath)
    ⟨.ok (b.conclude runId report p.ledger.size (s.readings + 1) p.closed s.counters s.events
      (some paths)), files, s.tool, s.waitedMillis⟩

/-- Executes a plan that is no dry run. -/
def fullRun (b : Bench σ) (w : Workspace) (plan : Plan) (runId : RunId)
    (done : CompletionLog.Completions) (tool : σ) : Aftermath σ :=
  match b.openLog w plan with
  | (.error error, files) => ⟨.error error, files, tool, 0⟩
  | (.ok log, files) =>
    let p := Progress.runToEnd b plan done (b.openingScene plan runId files log tool)
    match p.failure with
    | some error => ⟨.error error, p.scene.files, p.scene.tool, p.scene.waitedMillis⟩
    | none => b.finish plan runId p

def run (b : Bench σ) (w : Workspace) (plan : Plan) (runId : RunId) (tool : σ) : Aftermath σ :=
  match completions w plan with
  | .error error => ⟨.error error, w, tool, 0⟩
  | .ok done =>
    if plan.dryRun then ⟨.ok (b.dryRun w plan runId done), w, tool, 0⟩
    else b.fullRun w plan runId done tool

end Bench

end Signoff
