import Signoff.Shell.Octets

/-!
# Signals

A signal has a number and a name. Most signals end a process that does not catch them; some are
ignored, and some halt the process.
-/

namespace Signoff.Shell

/-- A signal by its number; number 0 is the end of a script. -/
abbrev Signal := Nat

namespace Signal

/-- The names of signals in the order of their numbers. -/
def names : List String :=
  ["EXIT", "HUP", "INT", "QUIT", "ILL", "TRAP", "ABRT", "BUS", "FPE", "KILL", "USR1", "SEGV",
    "USR2", "PIPE", "ALRM", "TERM", "16", "CHLD", "CONT", "STOP", "TSTP", "TTIN", "TTOU", "URG",
    "XCPU", "XFSZ", "VTALRM", "PROF", "WINCH", "IO", "PWR", "SYS"]

def name (s : Signal) : String := (names[s]?).getD (toString s)

def terminate : Signal := 15

/-- The signal of a number or a name in letters of any case. -/
def ofText? (cs : Octets) : Option Signal :=
  if cs.all Char.isDigit && !cs.isEmpty then
    let n := cs.foldl (fun n c => 10 * n + (c.toNat - '0'.toNat)) 0
    if n ≤ 64 then some n else none
  else names.findIdx? fun name => name.toList == cs.map Char.toUpper

/-- A process that does not catch the signal goes on. -/
def isHarmless (s : Signal) : Bool := [0, 17, 18, 23, 28].contains s

/-- The process halts until it is told to go on. -/
def isHalting (s : Signal) : Bool := [19, 20, 21, 22].contains s

/-- The signal cannot be caught. -/
def isSure (s : Signal) : Bool := s == 9 || s == 19

/-- The status of a command that the signal ended. -/
def status (s : Signal) : Nat := 128 + s

/-- What is told about a process that the signal ended; of some signals nothing is told. -/
def report (s : Signal) : String :=
  match s with
  | 1 => "Hangup"
  | 3 => "Quit"
  | 4 => "Illegal instruction"
  | 5 => "Trace/breakpoint trap"
  | 6 => "Aborted"
  | 7 => "Bus error"
  | 8 => "Floating point exception"
  | 9 => "Killed"
  | 10 => "User defined signal 1"
  | 11 => "Segmentation fault"
  | 12 => "User defined signal 2"
  | 14 => "Alarm clock"
  | 15 => "Terminated"
  | 24 => "CPU time limit exceeded"
  | 25 => "File size limit exceeded"
  | 26 => "Virtual timer expired"
  | 27 => "Profiling timer expired"
  | 29 => "I/O possible"
  | 30 => "Power failure"
  | 31 => "Bad system call"
  | _ => ""

end Signal

end Signoff.Shell
