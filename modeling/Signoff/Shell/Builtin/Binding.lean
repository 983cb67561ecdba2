import Signoff.Shell.Builtin.Basic

/-!
# Commands for names and options

Variables get values, are handed on to programs, fixed, hidden or forgotten; the session's options
and arguments are set; functions and other names are told apart.
-/

namespace Signoff.Shell.Builtin

/-- A name with a value behind an equal sign, or without one. -/
def nameAndValue (cs : Octets) : Octets × Option Octets :=
  let name := cs.takeWhile (· != '=')
  match cs.drop name.length with
  | _ :: value => (name, some value)
  | [] => (name, none)

/-- Gives a variable a value and a mark. -/
def mark (exported fixed : Bool) (s : Session) (a : Octets) : Outcome :=
  let (name, value) := nameAndValue a
  if !isName name then .error (badName name)
  else if s.isFixed name && value.isSome then .error (name ++ octets ": is read only")
  else
    let old := (s.binding? name).getD ⟨none, false, false⟩
    .ok (s.setVariable name
      ⟨value <|> old.value, old.exported || exported, old.fixed || fixed⟩)

/-- All variables with a mark as commands that set them. -/
def listed (s : Session) (word : String) (holds : Variable → Bool) : Octets :=
  let chosen := (s.bindings.filter fun b => holds b.2).mergeSort fun a b =>
    compareOctets a.1 b.1 != .gt
  chosen.flatMap fun (name, v) => octets word ++ ' ' :: name ++
    (match v.value with
      | some value => '=' :: quoted value
      | none => []) ++ ['\n']

def markAll (s : Session) (word : String) (exported fixed : Bool) (args : List Octets) :
    Outcome := do
  let (given, operands) ← letters "p" args
  if operands.isEmpty || !given.isEmpty then
    return (s.write 1 (listed s word fun v => (exported && v.exported) || (fixed && v.fixed))
      ).succeed
  else return (← operands.foldlM (mark exported fixed) s).succeed

def makeLocal (s : Session) (args : List Octets) : Outcome :=
  if s.depth = 0 then .error (octets "not in a function")
  else do
    let t ← args.foldlM (fun (s : Session) a => do
      let (name, value) := nameAndValue a
      if !isName name then throw (badName name)
      else
        let s := { s with hidden := (name, s.binding? name) :: s.hidden }
        match value with
        | some v =>
          let exported := (s.binding? name).any (·.exported)
          return s.setVariable name ⟨some v, exported, false⟩
        | none => return s) s
    return t.succeed

def unset (s : Session) (args : List Octets) : Outcome := do
  let (given, operands) ← letters "fv" args
  let t ← operands.foldlM (fun (s : Session) name => do
    if given.contains 'f' then
      return { s with functions := s.functions.filter (·.1 != name) }
    else if s.isFixed name then throw (name ++ octets ": is read only")
    else if !isName name then throw (badName name)
    else return s.forget name) s
  return t.succeed

def withOption (on : Bool) (letter : Char) (s : Session) : Session :=
  let others := s.options.filter (· != letter)
  { s with options := if on then letter :: others else others }

def padRight (width : Nat) (cs : Octets) : Octets := cs ++ List.replicate (width - cs.length) ' '

def optionTable (s : Session) : Octets :=
  octets "Current option settings\n" ++ Session.optionNames.flatMap fun (letter, name) =>
    padRight 16 (octets name) ++ octets (if s.has letter then "on\n" else "off\n")

/-- The commands that set all options as they are. -/
def optionCommands (s : Session) : Octets :=
  Session.optionNames.flatMap fun (letter, name) =>
    octets (if s.has letter then "set -o " else "set +o ") ++ octets name ++ ['\n']

/-- The letters of one argument of `set`; behind `o` the next argument names an option. -/
def setLetters (on : Bool) : Octets → List Octets → Session → Except Octets (List Octets × Session)
  | [], rest, s => .ok (rest, s)
  | 'o' :: more, rest, s =>
    match rest with
    | [] => setLetters on more [] (s.write 1 (if on then optionTable s else optionCommands s))
    | name :: tail =>
      match Session.optionNames.find? (·.2.toList == name) with
      | some (letter, _) => setLetters on more tail (withOption on letter s)
      | none => .error (octets (if on then "Illegal option -o " else "Illegal option +o ") ++ name)
  | c :: more, rest, s =>
    if (Session.optionNames.map (·.1)).contains c then
      setLetters on more rest (withOption on c s)
    else .error (octets (if on then "Illegal option -" else "Illegal option +") ++ [c])

def setFrom : Nat → List Octets → Session → Outcome
  | 0, _, s => .ok s
  | _, [], s => .ok s.succeed
  | fuel + 1, a :: rest, s =>
    match a with
    | ['-', '-'] => .ok { s with arguments := rest, status := 0 }
    | ['-'] =>
      let s := withOption false 'x' (withOption false 'v' s)
      .ok { s with arguments := if rest.isEmpty then s.arguments else rest, status := 0 }
    | '-' :: flags => do
      let (rest, s) ← setLetters true flags rest s
      setFrom fuel rest s
    | '+' :: flags => do
      let (rest, s) ← setLetters false flags rest s
      setFrom fuel rest s
    | _ => .ok { s with arguments := a :: rest, status := 0 }

/-- Switches and new arguments; without any the variables are listed. -/
def set (s : Session) (args : List Octets) : Outcome :=
  if args.isEmpty then
    let chosen := (s.bindings.filter fun b => b.2.value.isSome).mergeSort fun a b =>
      compareOctets a.1 b.1 != .gt
    .ok (s.write 1 (chosen.flatMap fun (name, v) =>
      name ++ '=' :: quoted (v.value.getD []) ++ ['\n'])).succeed
  else setFrom (args.length + 1) args s

def shift (s : Session) (args : List Octets) : Outcome := do
  let n ← match args with
    | [] => pure 1
    | a :: _ => number a
  if s.arguments.length < n then throw (octets "can't shift that many")
  else return { s with arguments := s.arguments.drop n, status := 0 }

def setAliases (s : Session) (args : List Octets) : Outcome :=
  let shown (a : Octets × Octets) : Octets := a.1 ++ '=' :: quoted a.2 ++ ['\n']
  if args.isEmpty then
    .ok (s.write 1 ((s.aliases.mergeSort fun a b =>
      compareOctets a.1 b.1 != .gt).flatMap shown)).succeed
  else
    .ok (args.foldl (fun (s : Session) a =>
      match nameAndValue a with
      | (name, some value) =>
        { s with aliases := (name, value) :: s.aliases.filter (·.1 != name) }
      | (name, none) => match s.aliases.find? (·.1 == name) with
        | some entry => s.write 1 (shown entry)
        | none =>
          { s.write 2 (octets "alias: " ++ name ++ octets " not found\n") with status := 1 })
      s.succeed)

def unalias (s : Session) (args : List Octets) : Outcome := do
  let (given, operands) ← letters "a" args
  if given.contains 'a' then return { s with aliases := [], status := 0 }
  else
    return operands.foldl (fun (s : Session) name =>
      if s.aliases.any (·.1 == name) then
        { s with aliases := s.aliases.filter (·.1 != name) }
      else { s.write 2 (octets "unalias: " ++ name ++ octets " not found\n") with status := 1 })
      s.succeed

end Signoff.Shell.Builtin
