import Signoff.Text.Lines

/-!
# Options on a command line

An option has a long name and maybe a letter. Its value stands behind an equal sign, right behind
the letter, or in the next argument; letters of flags may stand together. Behind `--` there are
only operands. An option that may not repeat stands there once.
-/

namespace Signoff.Command

structure OptionSpec where
  long : String
  letter : Option Char
  takesValue : Bool
  mayRepeat : Bool
  accepts : String → Bool
  help : String

/-- Why a command line is not carried out. -/
inductive Stop
  | misuse
  | help (command : Option String)
  | version
deriving DecidableEq, Repr

/-- What may stand at one level of a command line. -/
structure Level where
  command : Option String
  options : List OptionSpec
  operands : Nat
  commands : List String
  hasVersion : Bool

/-- The options with their values, and the operands, in order. -/
structure Found where
  options : List (String × String)
  operands : List String
deriving DecidableEq, Repr

namespace Found

def empty : Found := ⟨[], []⟩

def has (f : Found) (long : String) : Bool := f.options.any (·.1 == long)

def values (f : Found) (long : String) : List String :=
  (f.options.filter (·.1 == long)).map (·.2)

def value? (f : Found) (long : String) : Option String := (f.values long).head?

/-- Adds an option with its value, which is empty for a flag. -/
def add (f : Found) (o : OptionSpec) (value : String) : Except Stop Found :=
  if !o.mayRepeat && f.has o.long then .error .misuse
  else if o.takesValue && !o.accepts value then .error .misuse
  else .ok { f with options := f.options ++ [(o.long, value)] }

def addOperand (f : Found) (l : Level) (operand : String) : Except Stop Found :=
  if f.operands.length < l.operands && !operand.isEmpty then
    .ok { f with operands := f.operands ++ [operand] }
  else .error .misuse

end Found

namespace Level

def long? (l : Level) (name : List Char) : Option OptionSpec :=
  l.options.find? (·.long.toList == name)

def letter? (l : Level) (c : Char) : Option OptionSpec := l.options.find? (·.letter == some c)

/-- An argument behind two hyphens, and the option that still waits for its value. -/
def readLong (l : Level) (f : Found) (cs : List Char) : Except Stop (Found × Option OptionSpec) :=
  let name := cs.takeWhile (· != '=')
  let value := (cs.dropWhile (· != '=')).tail
  let hasValue := cs.contains '='
  match l.long? name with
  | some o =>
    if o.takesValue then
      if hasValue then (f.add o (String.ofList value)).map fun f => (f, none)
      else .ok (f, some o)
    else if hasValue then .error .misuse
    else (f.add o "").map fun f => (f, none)
  | none =>
    if hasValue then .error .misuse
    else if name = "help".toList then .error (.help l.command)
    else if name = "version".toList && l.hasVersion then .error .version
    else .error .misuse

/-- Letters behind one hyphen. -/
def readLetters (l : Level) (f : Found) : List Char → Except Stop (Found × Option OptionSpec)
  | [] => .ok (f, none)
  | c :: rest =>
    match l.letter? c with
    | some o =>
      if o.takesValue then
        match rest with
        | [] => .ok (f, some o)
        | '=' :: value => (f.add o (String.ofList value)).map fun f => (f, none)
        | value => (f.add o (String.ofList value)).map fun f => (f, none)
      else
        match f.add o "" with
        | .ok f => readLetters l f rest
        | .error stop => .error stop
    | none =>
      if c = 'h' then .error (.help l.command)
      else if c = 'V' && l.hasVersion then .error .version
      else .error .misuse

/-- Operands only. -/
def readOperands (l : Level) (f : Found) : List String → Except Stop Found
  | [] => .ok f
  | a :: rest =>
    match f.addOperand l a with
    | .ok f => readOperands l f rest
    | .error stop => .error stop

/-- Reads arguments up to a command, which is given with what follows it. `waiting` is an option
whose value is next. -/
def read (l : Level) (waiting : Option OptionSpec) (f : Found) :
    List String → Except Stop (Found × Option (String × List String))
  | [] => if waiting.isSome then .error .misuse else .ok (f, none)
  | a :: rest =>
    match waiting, a.toList with
    | some _, '-' :: _ :: _ => .error .misuse
    | some o, _ =>
      match f.add o a with
      | .ok f => read l none f rest
      | .error stop => .error stop
    | none, ['-', '-'] => (l.readOperands f rest).map fun f => (f, none)
    | none, '-' :: '-' :: cs =>
      match l.readLong f cs with
      | .ok (f, waiting) => read l waiting f rest
      | .error stop => .error stop
    | none, '-' :: c :: cs =>
      match l.readLetters f (c :: cs) with
      | .ok (f, waiting) => read l waiting f rest
      | .error stop => .error stop
    | none, _ =>
      if l.commands.contains a then .ok (f, some (a, rest))
      else match f.addOperand l a with
        | .ok f => read l none f rest
        | .error stop => .error stop

end Level

end Signoff.Command
