import Signoff.Shell.Builtin.Basic

/-!
# Commands that take input and arguments apart

A line of input is cut into fields, of which each variable gets one and the last variable the rest;
arguments are taken apart into letters with values.
-/

namespace Signoff.Shell.Builtin

/-- Characters of a line, and whether a backslash protects them; what is left behind the line; and
whether the line has an end. -/
def takeLine (raw : Bool) : Octets → List Marked × Octets × Bool
  | [] => ([], [], false)
  | '\n' :: rest => ([], rest, true)
  | '\\' :: '\n' :: rest =>
    if raw then ([('\\', false)], rest, true) else takeLine raw rest
  | '\\' :: c :: rest =>
    if raw then
      let (line, tail, ended) := takeLine raw (c :: rest)
      (('\\', false) :: line, tail, ended)
    else
      let (line, tail, ended) := takeLine raw rest
      ((c, true) :: line, tail, ended)
  | c :: rest =>
    let (line, tail, ended) := takeLine raw rest
    (if c = '\\' && !raw || c = '\x00' then line else (c, false) :: line, tail, ended)

/-- A character that cuts, and whether it is a blank. -/
def cuts (separators : Octets) (m : Marked) : Bool := !m.2 && separators.contains m.1

def cutsBlank (separators : Octets) (m : Marked) : Bool :=
  cuts separators m && Cutting.isBlank m.1

/-- What follows the separator at the front: blanks and at most one other separator. -/
def behindSeparator (separators : Octets) (line : List Marked) : List Marked :=
  let rest := line.dropWhile (cutsBlank separators)
  match rest with
  | m :: more => if cuts separators m then more.dropWhile (cutsBlank separators) else rest
  | [] => []

/-- The fields of a line for all names; the last name gets the rest, without a separator at its end
if there is but one. -/
def share (separators : Octets) : List Octets → List Marked → List (Octets × Octets)
  | [], _ => []
  | name :: names, line =>
    let line := line.dropWhile (cutsBlank separators)
    let field := line.takeWhile (!cuts separators ·)
    let rest := behindSeparator separators (line.drop field.length)
    if !names.isEmpty then (name, field.map (·.1)) :: share separators names rest
    else if rest.isEmpty then [(name, field.map (·.1))]
    else
      let back := line.reverse.dropWhile (cutsBlank separators)
      [(name, back.reverse.map (·.1))]

/-- Reads a line of input into variables. -/
def read (s : Session) (args : List Octets) : Outcome := do
  let (raw, names) ← switches args
  if names.isEmpty then throw (octets "arg count")
  else match names.find? fun name => !isName name with
    | some wrong => throw (badName wrong)
    | none =>
      let o := (s.opening? 0).getD (Session.readable [] none)
      let (line, rest, ended) := takeLine raw o.input
      let s := (s.waitUntil o.ready).setOpening 0 { o with input := rest }
      let s := if o.endless && !ended then { s with flow := .endless } else s
      let s := { s with status := if ended then 0 else 1 }
      return (share s.separators names line).foldl
        (fun (s : Session) (name, value) => s.assign name value) s
where
  /-- Whether backslashes stay, and the names. -/
  switches : List Octets → Except Octets (Bool × List Octets)
    | ['-', '-'] :: rest => .ok (false, rest)
    | ['-', 'r'] :: rest => (switches rest).map fun (_, names) => (true, names)
    | ['-', 'p'] :: _ :: rest => switches rest
    | ('-' :: c :: _) :: _ => .error (octets "Illegal option -" ++ [c])
    | names => .ok (false, names)

/-- What a letter means to a text of letters. -/
inductive Meaning
  | unknown
  | plain
  | valued

def meaningOf (letter : Char) : Octets → Meaning
  | [] => .unknown
  | c :: rest =>
    if c = letter && c != ':' then if rest.head? = some ':' then .valued else .plain
    else meaningOf letter rest

/-- Takes the next letter off the arguments. -/
def getopts (s : Session) (args : List Octets) : Outcome :=
  match args with
  | known :: name :: given =>
    let words := if given.isEmpty then s.arguments else given
    let index := ((s.lookup? "OPTIND".toList).bind number?).getD 1
    let index := if index = 0 then 1 else index
    let current := if index ≤ 1 || s.lettersRead = 0 then [] else
      ((words[index - 2]?).getD []).drop s.lettersRead
    -- the letters still to look at, and the index of the argument behind them
    let (letters, index) := if !current.isEmpty then (some current, index)
      else match words[index - 1]? with
        | some ['-', '-'] => (none, index + 1)
        | some ('-' :: c :: rest) => (some (c :: rest), index + 1)
        | _ => (none, index)
    let quiet := known.head? == some ':'
    let finish (s : Session) (letter : Char) (index read status : Nat) : Session :=
      let s := s.assign "OPTIND".toList (Text.digitsOf index)
      { s.assign name [letter] with lettersRead := read, status }
    let put (value : Octets) : Session := s.assign "OPTARG".toList value
    match letters with
    | none => .ok (finish s '?' index 0 1)
    | some [] => .ok (finish s '?' index 0 1)
    | some (c :: rest) =>
      let length := ((words[index - 2]?).getD []).length
      let read := if rest.isEmpty then 0 else length - rest.length
      match meaningOf c known with
      | .unknown =>
        if quiet then .ok (finish (put [c]) '?' index read 0)
        else
          let t := s.write 2 (octets "Illegal option -" ++ [c, '\n'])
          .ok (finish (t.forget "OPTARG".toList) '?' index read 0)
      | .plain => .ok (finish (put []) c index read 0)
      | .valued =>
        if !rest.isEmpty then .ok (finish (put rest) c index 0 0)
        else match words[index - 1]? with
          | some value => .ok (finish (put value) c (index + 1) 0 0)
          | none =>
            if quiet then .ok (finish (put [c]) ':' index 0 0)
            else
              let t := s.write 2 (octets "No arg for -" ++ c :: octets " option\n")
              .ok (finish (t.forget "OPTARG".toList) '?' index 0 0)
  | _ => .error (octets "Usage: getopts optstring var [arg...]")

end Signoff.Shell.Builtin
