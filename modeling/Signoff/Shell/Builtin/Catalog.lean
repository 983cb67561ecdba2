import Signoff.Shell.Builtin.Binding
import Signoff.Shell.Builtin.Input
import Signoff.Shell.Builtin.Printing
import Signoff.Shell.Builtin.Process
import Signoff.Shell.Reader
import Signoff.Shell.Utility.Basic

/-!
# The commands of the shell by their names

All commands but those that carry out further commands, and what a name stands for.
-/

namespace Signoff.Shell.Builtin

/-- Commands that end the session if they fail. -/
def isSpecial (name : Octets) : Bool := specialNames.contains (textOf name)

/-- Commands of the shell that carry out others. -/
def callingNames : List String := [".", "command", "eval", "exec"]

def otherNames : List String :=
  ["[", "alias", "bg", "cd", "chdir", "echo", "false", "fg", "getopts", "hash", "jobs", "kill",
    "printf", "pwd", "read", "test", "true", "type", "ulimit", "umask", "unalias", "wait"]

def isBuiltin (name : Octets) : Bool :=
  isSpecial name || callingNames.contains (textOf name) || otherNames.contains (textOf name)

/-- Where the program of a name lies on the session's search path. -/
def programPath? (s : Session) (name : Octets) : Option Octets :=
  let folders := cutAt ':' ((s.lookup? "PATH".toList).getD [])
  folders.findSome? fun folder =>
    let place := if folder.isEmpty then name
      else if folder.getLast? = some '/' then folder ++ name else folder ++ '/' :: name
    if (programAt? place).isSome then some place
    else match Condition.thing? s.desk place with
      | some (.file number _) =>
        if s.world.executables.contains number then some place else none
      | _ => none

/-- The place of the program that a command's name stands for. -/
def commandPath? (s : Session) (name : Octets) : Option Octets :=
  if name.contains '/' then
    match Condition.thing? s.desk name with
    | some (.file number _) => if s.world.executables.contains number then some name else none
    | some .program => some name
    | _ => none
  else programPath? s name

/-- What kind of command a name stands for, in words. -/
def describe (s : Session) (name : Octets) : Option Octets :=
  if Token.keywords.contains (textOf name) then some (name ++ octets " is a shell keyword")
  else match s.aliases.find? (·.1 == name) with
    | some (_, value) => some (name ++ octets " is an alias for " ++ value)
    | none =>
      if (s.function? name).isSome then some (name ++ octets " is a shell function")
      else if isSpecial name && name != "local".toList then
        some (name ++ octets " is a special shell builtin")
      else if isBuiltin name then some (name ++ octets " is a shell builtin")
      else (commandPath? s name).map fun path =>
        if s.known.contains name then name ++ octets " is a tracked alias for " ++ path
        else name ++ octets " is " ++ path

/-- The name stands for a program on the search path and nothing else. -/
def isProgram (s : Session) (name : Octets) : Bool :=
  !isBuiltin name && (s.function? name).isNone && !name.contains '/' &&
    (commandPath? s name).isSome

/-- The places of programs among some names are known from now on. -/
def rememberAll (s : Session) (names : List Octets) : Session :=
  names.foldl (fun (s : Session) name => if isProgram s name then s.remember name else s) s

def type (s : Session) (args : List Octets) : Session :=
  args.foldl (fun (s : Session) name => match describe s name with
    | some text => rememberAll (s.write 1 (text ++ ['\n'])) [name]
    | none => { s.write 1 (name ++ octets ": not found\n") with status := 127 }) s.succeed

/-- Shows what would be carried out for a name. -/
def showCommand (s : Session) (name : Octets) : Session :=
  if (s.function? name).isSome || isBuiltin name || Token.keywords.contains (textOf name) then
    s.print name
  else match s.aliases.find? (·.1 == name) with
    | some (_, value) => s.print (octets "alias " ++ name ++ '=' :: quoted value)
    | none => match commandPath? s name with
      | some path => (rememberAll s [name]).print path
      | none => { s with status := 127 }

/-- The row among 31 in which a known place is kept. -/
def rowOf (name : Octets) : Nat :=
  ((name.head?.map Char.toNat).getD 0 * 16 + name.foldl (fun n c => n + c.toNat) 0) % 32768 % 31

/-- Shows the known places of programs, or makes places known. -/
def hash (s : Session) (args : List Octets) : Session :=
  match args with
  | [] =>
    let names := s.known.mergeSort fun a b => rowOf a ≤ rowOf b
    (s.write 1 (unlines (names.map fun name => (programPath? s name).getD name))).succeed
  | ['-', 'r'] :: _ => { s.succeed with known := [] }
  | _ =>
    args.foldl (fun (s : Session) name =>
      if isBuiltin name || (s.function? name).isSome || (commandPath? s name).isSome then
        rememberAll s [name]
      else s.complain (name ++ octets ": not found") 1) s.succeed

/-- What the command of a name does; nothing if there is no such command. -/
def run? (name : Octets) (args : List Octets) (s : Session) : Option Outcome :=
  match textOf name with
  | ":" => some (.ok s.succeed)
  | "true" => some (.ok s.succeed)
  | "false" => some (.ok { s with status := 1 })
  | "exit" => some (withStatus s args .stopped)
  | "return" => some (withStatus s args .back)
  | "break" => some (leaveLoops s args .leave)
  | "continue" => some (leaveLoops s args .again)
  | "export" => some (markAll s "export" true false args)
  | "readonly" => some (markAll s "readonly" false true args)
  | "local" => some (makeLocal s args)
  | "set" => some (set s args)
  | "shift" => some (shift s args)
  | "unset" => some (unset s args)
  | "read" => some (read s args)
  | "getopts" => some (getopts s args)
  | "alias" => some (setAliases s args)
  | "unalias" => some (unalias s args)
  | "cd" => some (cd s args)
  | "chdir" => some (cd s args)
  | "pwd" => some (.ok (pwd s))
  | "umask" => some (umask s args)
  | "ulimit" => some (.ok (if args.length < 2 then s.print (octets "unlimited") else s.succeed))
  | "times" => some (.ok (s.write 1 (octets
      "0m0.000000s 0m0.000000s\n0m0.000000s 0m0.000000s\n")).succeed)
  | "kill" => some (kill s args)
  | "trap" => some (trap s args)
  | "wait" => some (wait s args)
  | "jobs" => some (jobs s args)
  | "fg" => some (.error (octets "No current job"))
  | "bg" => some (.error (octets "No current job"))
  | "echo" => some (.ok (echo s args))
  | "printf" => some (printf s args)
  | "test" => some (test s false args)
  | "[" => some (test s true args)
  | "type" => some (.ok (type s args))
  | "hash" => some (.ok (hash s args))
  | _ => none

end Signoff.Shell.Builtin
