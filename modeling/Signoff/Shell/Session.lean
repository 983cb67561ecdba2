import Signoff.Shell.Field
import Signoff.Shell.Script
import Signoff.Shell.Signal
import Signoff.Shell.Utility.Basic

/-!
# Sessions

A session is a shell at work on a script. Sessions that start each other share a world: files, open
channels, what was printed and when. A session has a clock of its own, since commands in the
background and those of a pipeline work at the same time; the world keeps the time of all output, so
that it can be put in order.
-/

namespace Signoff.Shell

/-- Where an opening leads what is written. -/
inductive Outlet
  | buffer (n : Nat)
  | file (number : Nat) (appends : Bool)
  | nowhere
  /-- A device without room. -/
  | full
  /-- Nothing can be written. -/
  | closed

/-- Something that channels are connected to. -/
structure Opening where
  outlet : Outlet
  /-- Where the next byte is written in a file. -/
  position : Nat
  /-- What is left to read. -/
  input : Octets
  /-- The size of the input if it is a file. -/
  size : Option Nat
  /-- When all of the input is there. -/
  ready : Nat
  /-- The input is only the front of one that never ends. -/
  endless : Bool

/-- What a process printed at a time. -/
structure Printed where
  time : Nat
  process : Nat
  text : Octets

/-- A process that keeps buffers open up to a time. -/
structure Holder where
  process : Nat
  buffers : List Nat
  finish : Nat

/-- What all sessions share. -/
structure World where
  files : Workspace
  /-- The numbers of the files that may be executed. -/
  executables : List Nat
  openings : Array Opening
  /-- What was printed into each buffer, the last part first. -/
  buffers : Array (List Printed)
  holders : List Holder
  nextProcess : Nat
  /-- Signals on their way to a process, with their times. -/
  signals : List (Nat × Nat × Signal)
  /-- Processes that a signal ended, with the times. -/
  deaths : List (Nat × Nat)
  /-- How many commands may still be carried out. -/
  steps : Nat

structure Variable where
  value : Option Octets
  exported : Bool
  fixed : Bool

/-- A command in the background. -/
structure Work where
  process : Nat
  finish : Nat
  status : Nat
  /-- The signal that ended it. -/
  signal : Option Signal
  /-- It was waited for. -/
  isOver : Bool
  /-- Its number among those that are known. -/
  slot : Nat
  /-- How many commands it is made of. -/
  parts : Nat

/-- How a session goes on behind a command. -/
inductive Flow
  | next
  | leave (loops : Nat)
  | again (loops : Nat)
  | back
  | stopped
  | killed (signal : Signal)
  /-- The time is over. -/
  | late
  /-- The script goes on without end. -/
  | endless
deriving DecidableEq

structure Session where
  world : World
  process : Nat
  /-- The process that the script started in. -/
  main : Nat
  name : Octets
  arguments : List Octets
  bindings : List (Octets × Variable)
  /-- What local variables hide. -/
  hidden : List (Octets × Option Variable)
  functions : List (Octets × Command)
  aliases : List (Octets × Octets)
  /-- How many functions are being carried out. -/
  depth : Nat
  /-- How many scripts are being carried out around this one. -/
  nesting : Nat
  /-- How many loops are being carried out. -/
  loops : Nat
  line : Nat
  /-- The command of the shell that is being carried out. -/
  context : Octets
  status : Nat
  /-- The status of the last command whose output was put into a word. -/
  innerStatus : Nat
  channels : List (Nat × Nat)
  folder : Path
  lastFolder : Path
  /-- The time in units of which a thousand are a millisecond. -/
  now : Nat
  deadline : Nat
  /-- The letters of the options that are on. -/
  options : List Char
  /-- A failure only decides which way to go. -/
  guarded : Bool
  /-- What is done at a signal; nothing if the text is empty. -/
  traps : List (Signal × Octets)
  /-- Commands in the background, the last one first. -/
  works : List Work
  lastWork : Option Nat
  /-- How many letters of an argument were looked at. -/
  lettersRead : Nat
  umask : Nat
  /-- The names of programs whose places are known. -/
  known : List Octets
  /-- The process is no shell but the command itself. -/
  isCommand : Bool
  flow : Flow

namespace Session

def goesOn (s : Session) : Bool := s.flow == .next

def has (s : Session) (option : Char) : Bool := s.options.contains option

def path (s : Session) (name : Octets) : Path := s.folder.join ⟨textOf name⟩

/-! ## Channels -/

def opening? (s : Session) (channel : Nat) : Option Opening :=
  (s.channels.find? (·.1 == channel)).bind fun entry => s.world.openings[entry.2]?

/-- Connects a channel with an opening by its number. -/
def connect (s : Session) (channel opening : Nat) : Session :=
  { s with channels := (channel, opening) :: s.channels.filter (·.1 != channel) }

def disconnect (s : Session) (channel : Nat) : Session :=
  { s with channels := s.channels.filter (·.1 != channel) }

/-- Connects a channel with a new opening. -/
def openAs (s : Session) (channel : Nat) (o : Opening) : Session :=
  let n := s.world.openings.size
  { s with world := { s.world with openings := s.world.openings.push o } }.connect channel n

def setOpening (s : Session) (channel : Nat) (o : Opening) : Session :=
  match s.channels.find? (·.1 == channel) with
  | some (_, n) =>
    { s with world := { s.world with openings := s.world.openings.setIfInBounds n o } }
  | none => s

def written (outlet : Outlet) : Opening := ⟨outlet, 0, [], none, 0, false⟩

def readable (input : Octets) (size : Option Nat) : Opening := ⟨.closed, 0, input, size, 0, false⟩

/-- The buffers that the channels lead to. -/
def buffersHeld (s : Session) : List Nat :=
  s.channels.filterMap fun (_, n) => (s.world.openings[n]?).bind fun o => match o.outlet with
    | .buffer b => some b
    | _ => none

def write (s : Session) (channel : Nat) (text : Octets) : Session :=
  if text.isEmpty then s
  else match s.opening? channel with
    | none => s
    | some o =>
      match o.outlet with
      | .nowhere => s
      | .full => s
      | .closed => s
      | .buffer n =>
        let printed : Printed := ⟨s.now, s.process, text⟩
        { s with world := { s.world with
            buffers := s.world.buffers.modify n (printed :: ·) } }
      | .file number appends =>
        let files := s.world.files.writeInto number (if appends then none else some o.position)
          (fileContent text)
        { s with world := { s.world with files } }.setOpening channel
          { o with position := o.position + text.length }

/-- Why nothing can be written to a channel. -/
def outletFault? (s : Session) (channel : Nat) : Option String :=
  let outlet? : Option Outlet := (s.opening? channel).map (·.outlet)
  match outlet? with
  | none => some "Bad file descriptor"
  | some .closed => some "Bad file descriptor"
  | some .full => some "No space left on device"
  | some _ => none

/-- What was printed into a buffer, in the order of time. What a process printed behind its own
end does not count. -/
def contentOf (w : World) (n : Nat) : Octets :=
  let printed := ((w.buffers[n]?).getD []).reverse.filter fun p =>
    !w.deaths.any fun (process, time) => process == p.process && time < p.time
  (printed.mergeSort fun a b => a.time ≤ b.time).flatMap (·.text)

/-! ## Messages -/

/-- The front part of messages: the script, the line and the command. -/
def front (s : Session) : Octets :=
  s.name ++ octets s!": {s.line}: " ++ (if s.context.isEmpty then [] else s.context ++ [':', ' '])

/-- Says on channel 2 what is wrong. -/
def complain (s : Session) (message : Octets) (status : Nat) : Session :=
  { s.write 2 (s.front ++ message ++ ['\n']) with status }

def print (s : Session) (line : Octets) : Session :=
  { s.write 1 (line ++ ['\n']) with status := 0 }

def succeed (s : Session) : Session := { s with status := 0 }

def stop (s : Session) (status : Nat) : Session := { s with status, flow := .stopped }

/-- Complains and ends the session. -/
def abort (s : Session) (message : Octets) : Session := (s.complain message 2).stop 2

/-! ## Variables -/

def binding? (s : Session) (name : Octets) : Option Variable :=
  (s.bindings.find? (·.1 == name)).map (·.2)

def lookup? (s : Session) (name : Octets) : Option Octets := (s.binding? name).bind (·.value)

/-- Gives a name a variable. Another search path makes the places of programs unknown. -/
def setVariable (s : Session) (name : Octets) (v : Variable) : Session :=
  { s with
    bindings := (name, v) :: s.bindings.filter (·.1 != name)
    known := if name = "PATH".toList then [] else s.known }

/-- From now on the place of a program is known. -/
def remember (s : Session) (name : Octets) : Session :=
  if name.contains '/' || s.known.contains name then s else { s with known := s.known ++ [name] }

def forget (s : Session) (name : Octets) : Session :=
  { s with bindings := s.bindings.filter (·.1 != name) }

def isFixed (s : Session) (name : Octets) : Bool := (s.binding? name).any (·.fixed)

/-- Gives a variable a value; one that is fixed keeps its own and ends the session. -/
def assign (s : Session) (name value : Octets) : Session :=
  if s.isFixed name then s.abort (name ++ octets ": is read only")
  else
    let exported := (s.binding? name).any (·.exported) || s.has 'a'
    let s := if name = "OPTIND".toList then { s with lettersRead := 0 } else s
    s.setVariable name ⟨some value, exported, false⟩

/-- Gives a variable back what it was. -/
def restore (s : Session) (entry : Octets × Option Variable) : Session :=
  match entry.2 with
  | some v => s.setVariable entry.1 v
  | none => s.forget entry.1

def function? (s : Session) (name : Octets) : Option Command :=
  (s.functions.find? (·.1 == name)).map (·.2)

/-- The characters at which values are cut into fields. -/
def separators (s : Session) : Octets := (s.lookup? "IFS".toList).getD [' ', '\t', '\n']

/-- The options by their letters and names. -/
def optionNames : List (Char × String) :=
  [('e', "errexit"), ('f', "noglob"), ('I', "ignoreeof"), ('i', "interactive"), ('m', "monitor"),
    ('n', "noexec"), ('s', "stdin"), ('x', "xtrace"), ('v', "verbose"), ('V', "vi"),
    ('E', "emacs"), ('C', "noclobber"), ('a', "allexport"), ('b', "notify"), ('u', "nounset"),
    ('p', "privileged"), ('\x01', "nolog"), ('\x02', "debug")]

/-- The value of a parameter. -/
def parameter? (s : Session) (name : Octets) : Option Octets :=
  match name with
  | ['?'] => some (Text.digitsOf s.status)
  | ['#'] => some (Text.digitsOf s.arguments.length)
  | ['$'] => some (Text.digitsOf s.main)
  | ['!'] => s.lastWork.map Text.digitsOf
  | ['-'] => some (((optionNames.map (·.1)).filter fun c =>
    ' ' < c && s.options.contains c).reverse)
  | ['@'] => if s.arguments.isEmpty then none else some (joined [' '] s.arguments)
  | ['*'] =>
    if s.arguments.isEmpty then none
    else some (joined ((s.lookup? "IFS".toList).getD [' '] |>.take 1) s.arguments)
  | ['0'] => some s.name
  | _ =>
    if name.all Char.isDigit then
      s.arguments[name.foldl (fun n c => 10 * n + (c.toNat - '0'.toNat)) 0 - 1]?
    else s.lookup? name

/-- Names and values that programs see. -/
def environment (s : Session) : List (Octets × Octets) :=
  s.bindings.reverse.filterMap fun (name, v) =>
    if v.exported then v.value.map fun value => (name, value) else none

/-! ## Course -/

/-- Ends a session that fails where it may not. -/
def checked (s : Session) : Session :=
  if s.has 'e' && !s.guarded && s.status != 0 && s.goesOn then { s with flow := .stopped }
  else s

/-- Uses up time. -/
def wait (s : Session) (duration : Nat) : Session :=
  if s.now + duration < s.deadline then { s with now := s.now + duration }
  else { s with now := s.deadline, flow := .late }

/-- Waits up to a time. -/
def waitUntil (s : Session) (time : Nat) : Session :=
  if time ≤ s.now then s else s.wait (time - s.now)

def trap? (s : Session) (signal : Signal) : Option Octets :=
  (s.traps.find? (·.1 == signal)).map (·.2)

/-- The first number for a command in the background; one that is over and was waited for gives its
number away. -/
def freeSlot (s : Session) : Nat :=
  let taken := (s.works.filter fun w => !(w.isOver && w.finish ≤ s.now)).map (·.slot)
  ((List.range (taken.length + 1)).map (· + 1)).find? (!taken.contains ·) |>.getD 1

/-- A copy with a process of its own. Only signals that are ignored stay so. -/
def fork (s : Session) : Session :=
  let process := s.world.nextProcess
  { s with
    world := { s.world with nextProcess := process + 1 }
    process
    traps := s.traps.filter (·.2.isEmpty)
    works := [] }

/-- Goes on behind a copy that did a part of the work: what it did to the world stays, what it
changed in itself is gone. -/
def behind (s copy : Session) : Session :=
  let now := if s.now < copy.now then copy.now else s.now
  let t := { s with world := copy.world, now }
  match copy.flow with
  | .late => { t with flow := .late }
  | .endless => { t with flow := .endless }
  | .killed signal =>
    let report := signal.report
    let u := if report.isEmpty then t else t.write 2 (octets report ++ ['\n'])
    { u with status := signal.status }
  | _ => { t with status := copy.status % 256 }

/-- Whether a loop goes on behind its body, and the session then. -/
def behindBody (s : Session) : Bool × Session :=
  match s.flow with
  | .again (n + 2) => (false, { s with flow := .again (n + 1) })
  | .again _ => (true, { s with flow := .next })
  | .leave (n + 2) => (false, { s with flow := .leave (n + 1) })
  | .leave _ => (false, { s with flow := .next })
  | .next => (true, s)
  | _ => (false, s)

/-- What a utility finds in the session. -/
def desk (s : Session) : Desk :=
  let o := s.opening? 0
  ⟨s.world.files, s.world.executables, s.folder, (o.map (·.input)).getD [], o.bind (·.size),
    s.now⟩

end Session

end Signoff.Shell
