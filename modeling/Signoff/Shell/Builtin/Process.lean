import Signoff.Shell.Builtin.Basic

/-!
# Commands for processes

Signals are sent and caught, commands in the background waited for, and folders changed. What
happens at a signal is carried out where commands are.
-/

namespace Signoff.Shell.Builtin

/-- A status as an argument gives it, or else the last one. -/
def withStatus (s : Session) (args : List Octets) (flow : Flow) : Outcome :=
  match args with
  | [] => .ok { s with flow }
  | a :: _ => (number a).map fun n => { s with status := n, flow }

/-- The loops that a command is about; outside of loops it does nothing. -/
def leaveLoops (s : Session) (args : List Octets) (flow : Nat → Flow) : Outcome := do
  let n ← match args with
    | [] => pure 1
    | a :: _ => number a
  if n = 0 then throw (octets "Illegal number: 0")
  else
    let n := if s.loops < n then s.loops else n
    return { s with status := 0, flow := if n = 0 then .next else flow n }

/-! ## Signals -/

/-- A signal reaches a process of this session, one of its own or one that it came from. -/
def send (s : Session) (signal : Signal) (process : Nat) : Option Session :=
  if process = s.process then
    some { s with world := { s.world with
      signals := s.world.signals ++ [(process, s.now, signal)] } }
  else
    match s.works.find? (·.process == process) with
    | some w =>
      if w.isOver || w.finish ≤ s.now then (if w.isOver then none else some s)
      else if signal.isHarmless || signal.isHalting then some s
      else
        -- the work ends now, and with it what it held open
        let works := s.works.map fun (v : Work) =>
          if v.process = process then
            { v with finish := s.now, status := signal.status, signal := some signal }
          else v
        let holders := s.world.holders.map fun (h : Holder) =>
          if h.process = process then { h with finish := s.now } else h
        some { s with works, world := { s.world with
          holders, deaths := (process, s.now) :: s.world.deaths } }
    | none =>
      if process = s.main then
        some { s with world := { s.world with
          signals := s.world.signals ++ [(process, s.now, signal)] } }
      else none

/-- The signal that the arguments name, and the rest of them. -/
def signalOf (args : List Octets) : Except Octets (Signal × List Octets) :=
  match args with
  | ['-', 's'] :: [] => .error (octets "No arg for -s option")
  | ['-', 's'] :: name :: rest => match Signal.ofText? name with
    | some n => .ok (n, rest)
    | none => .error (octets "invalid signal number or name: " ++ name)
  | ['-', '-'] :: rest => .ok (Signal.terminate, rest)
  | ('-' :: c :: name) :: rest => match Signal.ofText? (c :: name) with
    | some n => .ok (n, match rest with
      | ['-', '-'] :: more => more
      | _ => rest)
    | none => .error (octets "Illegal option -" ++ [c])
  | _ => .ok (Signal.terminate, args)

def killUsage : String :=
  "Usage: kill [-s sigspec | -signum | -sigspec] [pid | job]... or\nkill -l [exitstatus]"

def listSignals (s : Session) (args : List Octets) : Outcome :=
  match args with
  | [] =>
    let far := (List.range 16).map (fun k => if k = 0 then "RTMIN" else s!"RTMIN+{k}") ++
      (List.range 15).reverse.map (fun k => if k = 0 then "RTMAX" else s!"RTMAX-{k}")
    let names := ("0" :: Signal.names.drop 1) ++ ["32", "33"] ++ far
    .ok (s.write 1 (octets (String.join (names.map (· ++ "\n"))))).succeed
  | a :: _ => do
    let n ← number a
    return s.print (octets (Signal.name (if 128 < n then n - 128 else n)))

/-- The work that a name behind a percent sign stands for. -/
def workOf (s : Session) (name : Octets) : Except Octets Work :=
  let found := match textOf name with
    | "" => s.works.head?
    | "%" => s.works.head?
    | "+" => s.works.head?
    | "-" => s.works[1]?
    | _ => (number? name).bind fun n => s.works.find? (·.slot == n)
  match found with
  | some w => .ok w
  | none => .error (octets "No such job: %" ++ name)

def kill (s : Session) (args : List Octets) : Outcome :=
  match args with
  | ['-', 'l'] :: rest => listSignals s rest
  | [] => .error (octets killUsage)
  | _ => do
    let (signal, targets) ← signalOf args
    if targets.isEmpty then throw (octets killUsage)
    else
      targets.foldlM (fun (s : Session) target => do
        let digits := match target with
          | '-' :: rest => rest
          | _ => target
        let s? ← match target with
          | '%' :: name => do
            -- a signal for all processes of a work reaches none
            let _ ← workOf s name
            pure none
          | _ =>
            match number? digits with
            | none => throw (octets "Illegal number: " ++ target)
            | some 0 => pure (send s signal s.process)
            | some n => pure (send s signal n)
        match s? with
        | some t => return t
        | none =>
          return { s.write 2 (s.front ++ octets "No such process\n\n") with status := 1 })
        s.succeed

/-- What is done at which signals, as commands. -/
def listedTraps (s : Session) : Octets :=
  (s.traps.mergeSort fun a b => a.1 ≤ b.1).flatMap fun (signal, action) =>
    octets "trap -- " ++ quoted action ++ octets s!" {Signal.name signal}\n"

def setTraps (s : Session) (action : Option Octets) (signals : List Octets) : Session :=
  signals.foldl (fun (s : Session) text =>
    if s.status != 0 then s
    else match Signal.ofText? text with
      | none =>
        { s.write 2 (octets "trap: " ++ text ++ octets ": bad trap\n") with status := 1 }
      | some signal =>
        let others := s.traps.filter (·.1 != signal)
        { s with traps := match action with
          | some a => (signal, a) :: others
          | none => others }) s.succeed

def trap (s : Session) (args : List Octets) : Outcome :=
  match args with
  | ['-', '-'] :: rest => .ok (setAction rest)
  | ('-' :: c :: _) :: _ => .error (octets "Illegal option -" ++ [c])
  | _ => .ok (setAction args)
where
  setAction (args : List Octets) : Session := match args with
  | [] => (s.write 1 (listedTraps s)).succeed
  | [one] => setTraps s none [one]
  | action :: signals =>
    if (number? action).isSome then setTraps s none args
    else setTraps s (if action = ['-'] then none else some action) signals

/-! ## Waiting -/

/-- The time of the first signal that is on its way and caught. -/
def firstCaught? (s : Session) : Option (Nat × Signal) :=
  let mine := s.world.signals.filter fun (process, _, signal) =>
    process == s.process && (s.trap? signal).any (!·.isEmpty)
  (mine.mergeSort fun a b => a.2.1 ≤ b.2.1).head?.map (·.2)

/-- Waits up to a time or the first caught signal before it. -/
def waitFor (s : Session) (time : Nat) : Session × Option Signal :=
  match firstCaught? s with
  | some (t, signal) => if t < time then (s.waitUntil t, some signal) else (s.waitUntil time, none)
  | none => (s.waitUntil time, none)

def markOver (process : Nat) (works : List Work) : List Work :=
  works.map fun (w : Work) => if w.process = process then { w with isOver := true } else w

def waitAll (s : Session) : Session :=
  let time := s.works.foldl (fun n w => if n < w.finish then w.finish else n) s.now
  match waitFor s time with
  | (t, some signal) => { t with status := signal.status }
  | (t, none) => { t with status := 0, works := t.works.map fun w => { w with isOver := true } }

def waitOne (s : Session) (process : Nat) : Session :=
  match s.works.find? (·.process == process) with
  | none => { s with status := 127 }
  | some w =>
    match waitFor s w.finish with
    | (t, some signal) => { t with status := signal.status }
    | (t, none) =>
      let report := (w.signal.map Signal.report).getD ""
      let t := if report.isEmpty || w.isOver then t else t.write 2 (octets report ++ ['\n'])
      { t with status := w.status, works := markOver process t.works }

def wait (s : Session) (args : List Octets) : Outcome :=
  if args.isEmpty then .ok (waitAll s)
  else
    args.foldlM (fun (s : Session) a => do
      match a with
      | '%' :: name => return waitOne s (← workOf s name).process
      | _ => return waitOne s (← number a)) s

/-- How a work is getting on. -/
def stateText (s : Session) (w : Work) : Octets :=
  if s.now < w.finish then octets "Running"
  else match w.signal with
    | some signal => octets signal.report
    | none => octets (if w.status = 0 then "Done" else s!"Done({w.status})")

/-- Shows the works from a place in their row on; one that is over is not shown again. -/
def showWorks (s : Session) (numbers processes : Bool) : List Work → Session
  | [] => s
  | w :: rest =>
    let mark := match s.works with
      | first :: others =>
        if first.process = w.process then '+'
        else if (others.head?.any (·.process == w.process)) then '-'
        else ' '
      | [] => ' '
    let front := octets s!"[{w.slot}] " ++ [mark, ' '] ++
      (if numbers then Text.digitsOf w.process ++ [' '] else []) ++ stateText s w
    let line := front ++ List.replicate (33 - front.length) ' ' ++
      (List.replicate (w.parts - 1) (octets " | ")).flatten
    let t := s.print (if processes then Text.digitsOf w.process else line)
    let isOver := w.finish ≤ s.now
    showWorks { t with works := if isOver then s.works.filter (·.process != w.process) else s.works }
      numbers processes rest

def jobs (s : Session) (args : List Octets) : Outcome := do
  let (given, operands) ← letters "lp" args
  let works ← match operands with
    | [] => pure s.works
    | _ => operands.mapM fun a => workOf s (match a with
      | '%' :: name => name
      | _ => a)
  return showWorks s.succeed (given.contains 'l') (given.contains 'p') works

/-- Thousandths of a millisecond of a time with an optional unit; `none` if it is no time. -/
def duration? (cs : Octets) : Option Nat :=
  let whole := cs.takeWhile Char.isDigit
  let rest := cs.drop whole.length
  let (fraction, rest) := match rest with
    | '.' :: more => (more.takeWhile Char.isDigit, more.dropWhile Char.isDigit)
    | _ => ([], rest)
  let unit? := match rest with
    | [] => some 1
    | ['s'] => some 1
    | ['m'] => some 60
    | ['h'] => some 3600
    | ['d'] => some 86400
    | _ => none
  if whole.isEmpty && fraction.isEmpty then none
  else unit?.map fun unit =>
    (((number? whole).getD 0) * 1000000 +
      ((number? ((fraction ++ List.replicate 6 '0').take 6)).getD 0)) * unit

/-- Uses up the times that the arguments give. A command that sleeps keeps its buffers open. -/
def sleep (s : Session) (args : List Octets) : Session :=
  let hint := octets "Try 'sleep --help' for more information.\n"
  let refuse (text : Octets) : Session :=
    { s.write 2 (octets "sleep: " ++ text ++ '\n' :: hint) with status := 1 }
  let args := match args with
    | ['-', '-'] :: rest => rest
    | _ => args
  match args with
  | [] => refuse (octets "missing operand")
  | ('-' :: c :: _) :: _ => refuse (octets "invalid option -- '" ++ [c, '\''])
  | _ =>
    match args.filter fun a => (duration? a).isNone && a != octets "infinity" with
    | wrong :: more =>
      let line (a : Octets) : Octets := octets "sleep: invalid time interval " ++ quoteWord a ++
        ['\n']
      { s.write 2 (line wrong ++ more.flatMap line ++ hint) with status := 1 }
    | [] =>
      let time := if args.contains (octets "infinity") then s.deadline
        else args.foldl (fun n a => n + (duration? a).getD 0) 0
      let t := (s.wait time).succeed
      let process := if s.isCommand then s.process else t.world.nextProcess
      { t with world := { t.world with
          nextProcess := t.world.nextProcess + 1
          holders := ⟨process, s.buffersHeld, t.now⟩ :: t.world.holders } }

/-! ## Folders -/

/-- The names that lead to a folder from the root, as far as they are known. -/
def folderText (s : Session) (folder : Path) : Octets :=
  match s.world.files.resolve (if folder.text.isEmpty then ⟨"."⟩ else folder) with
  | .ok p =>
    let names := (p.filter (· != "/")).map octets
    if p.head? = some "/" then '/' :: joined ['/'] names
    else joined ['/'] (octets "/work" :: names)
  | .error _ => octets "/work"

def cd (s : Session) (args : List Octets) : Outcome := do
  let (_, operands) ← letters "LP" args
  let (target, prints) := match operands with
    | [] => (s.lookup? "HOME".toList, false)
    | ['-'] :: _ => (some (octets s.lastFolder.text), true)
    | a :: _ => (some a, false)
  match target with
  | none => throw (octets "HOME not set")
  | some [] =>
    if prints then return { s with folder := ⟨""⟩, lastFolder := s.folder, status := 0 }
    else return s.succeed
  | some a =>
    let path : Path := if prints then ⟨textOf a⟩ else s.path a
    if s.world.files.isFolder path || a == octets "/root" || a == octets "/tmp" then
      let t := { s with folder := path, lastFolder := s.folder, status := 0 }
      let exported (name : String) : Bool := (s.binding? name.toList).any (·.exported)
      let t := t.setVariable "OLDPWD".toList
        ⟨some (folderText s s.folder), exported "OLDPWD", false⟩
      let t := t.setVariable "PWD".toList ⟨some (folderText t path), exported "PWD", false⟩
      return if prints then t.print (folderText t path) else t
    else throw (octets "can't cd to " ++ a)

def pwd (s : Session) : Session := s.print (folderText s s.folder)

/-- A mask of permissions, and its classes in letters. -/
def octalText (n : Nat) : Octets :=
  '0' :: [n / 64 % 8, n / 8 % 8, n % 8].map fun k => Char.ofNat (k + 48)

def permissionLetters (k : Nat) : Octets :=
  (if k / 4 % 2 = 0 then ['r'] else []) ++ (if k / 2 % 2 = 0 then ['w'] else []) ++
    (if k % 2 = 0 then ['x'] else [])

def umask (s : Session) (args : List Octets) : Outcome :=
  match args with
  | [] => .ok (s.print (octalText s.umask))
  | ['-', 'S'] :: _ =>
    .ok (s.print (octets "u=" ++ permissionLetters (s.umask / 64) ++ octets ",g=" ++
      permissionLetters (s.umask / 8) ++ octets ",o=" ++ permissionLetters s.umask))
  | a :: _ =>
    if a.all (fun c => '0' ≤ c && c ≤ '7') && a.length ≤ 4 then
      .ok { s with status := 0, umask := a.foldl (fun n c => 8 * n + (c.toNat - 48)) 0 }
    else if a.head?.any Char.isDigit then .error (octets "Illegal number: " ++ a)
    else .ok s.succeed

end Signoff.Shell.Builtin
