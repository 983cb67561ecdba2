import Signoff.Shell.Utility.Basic

/-!
# Conditions

A condition asks about texts, whole numbers and files. Conditions can be negated, joined and put in
parentheses; a word counts as an operator only where an operand could not stand.
-/

namespace Signoff.Shell

namespace Condition

inductive Fault
  | unexpectedOperator (word : Octets)
  | noArgument (operator : String)
  | openGroup
  | illegalNumber (text : Octets)
  | openBracket

def Fault.message : Fault → String
  | .unexpectedOperator word =>
    if word.isEmpty then "unexpected operator" else s!"{textOf word}: unexpected operator"
  | .noArgument operator => s!"{operator}: argument expected"
  | .openGroup => "closing paren expected"
  | .illegalNumber text => s!"Illegal number: {textOf text}"
  | .openBracket => "missing ]"

/-- What a word can be. -/
inductive Role
  | unary (name : String)
  | binary (name : String)
  | not
  | both
  | either
  | opening
  | closing
  | operand
  | finish
deriving DecidableEq

def unaryNames : List String :=
  ["-r", "-w", "-x", "-e", "-f", "-d", "-c", "-b", "-p", "-u", "-g", "-k", "-s", "-t", "-z", "-n",
    "-h", "-O", "-G", "-L", "-S"]

def binaryNames : List String :=
  ["=", "!=", "<", ">", "-eq", "-ne", "-ge", "-gt", "-le", "-lt", "-nt", "-ot", "-ef"]

/-- The role of a word taken by itself. -/
def roleAlone (word : Octets) : Role :=
  let name := textOf word
  if unaryNames.contains name then .unary name
  else if binaryNames.contains name then .binary name
  else match name with
    | "!" => .not
    | "-a" => .both
    | "-o" => .either
    | "(" => .opening
    | ")" => .closing
    | _ => .operand

def isBinary (word : Octets) : Bool :=
  match roleAlone word with
  | .binary _ => true
  | _ => false

/-- The role of the first word in front of the others. -/
def role (words : List Octets) : Role :=
  match words with
  | [] => .finish
  | word :: rest =>
    match roleAlone word with
    | .unary name =>
      match rest with
      | [] => .operand
      | [_] => .unary name
      | second :: _ => if isBinary second then .operand else .unary name
    | .opening => if rest.isEmpty then .operand else .opening
    | r => r

/-- A whole number, with blanks around it. -/
def number (text : Octets) : Except Fault Int :=
  let cs := text.dropWhile isBlankOctet
  let (negative, digits) := match cs with
    | '-' :: rest => (true, rest)
    | '+' :: rest => (false, rest)
    | _ => (false, cs)
  let whole := digits.takeWhile Char.isDigit
  let n : Int := ((count? whole).getD 0 : Nat)
  let n := if negative then -n else n
  let limit : Int := (Nat.pow 2 63 : Nat)
  if whole.isEmpty || !(digits.drop whole.length).all isBlankOctet || n < -limit || limit ≤ n then
    .error (.illegalNumber text)
  else .ok n
where
  count? (cs : Octets) : Option Nat := if cs.isEmpty then none else
    some (cs.foldl (fun n c => 10 * n + (c.toNat - '0'.toNat)) 0)

/-- What there is at a path. -/
inductive Thing
  | folder
  | file (number size : Nat)
  | program
  | device

def thing? (d : Desk) (name : Octets) : Option Thing :=
  if ["/dev/null", "/dev/zero", "/dev/stdin", "/dev/stdout", "/dev/stderr"].contains
      (textOf name) then some .device
  else if name.isEmpty then none
  else match d.files.resolve (d.path name) with
    | .error _ => none
    | .ok p => match d.files.item? p with
      | some .folder => some .folder
      | some (.file number content) => some (.file number content.size)
      | none => (programAt? name).map fun _ => .program

def unary (d : Desk) (name : String) (operand : Octets) : Except Fault Bool :=
  let found := thing? d operand
  let isFile := match found with
    | some (.file ..) => true
    | some .program => true
    | _ => false
  match name with
  | "-z" => .ok operand.isEmpty
  | "-n" => .ok !operand.isEmpty
  | "-t" => (number operand).map fun _ => false
  | "-f" => .ok isFile
  | "-d" => .ok (match found with
    | some .folder => true
    | _ => false)
  | "-c" => .ok (match found with
    | some .device => true
    | _ => false)
  | "-s" => .ok (match found with
    | some (.file _ size) => size != 0
    | some .device => false
    | other => other.isSome)
  | "-x" => .ok (match found with
    | some (.file number _) => d.executables.contains number
    | some .device => false
    | other => other.isSome)
  | _ => .ok (["-e", "-r", "-w", "-O", "-G"].contains name && found.isSome)

/-- Files with a later number count as newer. -/
def ageOf (d : Desk) (name : Octets) : Option Nat :=
  match thing? d name with
  | some (.file number _) => some (number + 1)
  | some _ => some 0
  | none => none

def placeOf (d : Desk) (name : Octets) : Option Place :=
  match thing? d name with
  | some _ => (d.files.resolve (d.path name)).toOption
  | none => none

def binary (d : Desk) (name : String) (a b : Octets) : Except Fault Bool :=
  let numbers (holds : Int → Int → Bool) : Except Fault Bool := do
    let m ← number a
    let n ← number b
    return holds m n
  match name with
  | "=" => .ok (a == b)
  | "!=" => .ok (a != b)
  | "<" => .ok (compareOctets a b == .lt)
  | ">" => .ok (compareOctets a b == .gt)
  | "-eq" => numbers fun m n => m == n
  | "-ne" => numbers fun m n => m != n
  | "-ge" => numbers fun m n => n ≤ m
  | "-gt" => numbers fun m n => n < m
  | "-le" => numbers fun m n => m ≤ n
  | "-lt" => numbers fun m n => m < n
  | "-ef" => .ok ((placeOf d a).isSome && placeOf d a == placeOf d b)
  | "-nt" => .ok (match ageOf d a, ageOf d b with
    | some m, some n => n < m
    | _, _ => false)
  | _ => .ok (match ageOf d a, ageOf d b with
    | some m, some n => m < n
    | _, _ => false)

mutual

/-- Conditions joined by `-o`, and the words behind them. All of them are asked. -/
def anyOf (d : Desk) (fuel : Nat) (r : Role) (words : List Octets) :
    Except Fault (Bool × List Octets) :=
  match fuel with
  | 0 => .error .openGroup
  | fuel + 1 => do
    let (a, rest) ← allOf d fuel r words
    if role rest = .either then
      let (b, tail) ← anyOf d fuel (role rest.tail) rest.tail
      return (a || b, tail)
    else return (a, rest)

def allOf (d : Desk) (fuel : Nat) (r : Role) (words : List Octets) :
    Except Fault (Bool × List Octets) :=
  match fuel with
  | 0 => .error .openGroup
  | fuel + 1 => do
    let (a, rest) ← negation d fuel r words
    if role rest = .both then
      let (b, tail) ← allOf d fuel (role rest.tail) rest.tail
      return (a && b, tail)
    else return (a, rest)

def negation (d : Desk) (fuel : Nat) (r : Role) (words : List Octets) :
    Except Fault (Bool × List Octets) :=
  match fuel with
  | 0 => .error .openGroup
  | fuel + 1 => do
    if r = .not then
      let (a, rest) ← negation d fuel (role words.tail) words.tail
      return (!a, rest)
    else single d fuel r words

def single (d : Desk) (fuel : Nat) (r : Role) (words : List Octets) :
    Except Fault (Bool × List Octets) :=
  match fuel with
  | 0 => .error .openGroup
  | fuel + 1 => do
    match r, words with
    | .finish, _ => return (false, [])
    | .opening, _ :: inner =>
      if role inner = .closing then return (false, inner.tail)
      else
        let (a, rest) ← anyOf d fuel (role inner) inner
        if role rest = .closing then return (a, rest.tail) else throw .openGroup
    | .unary name, _ :: rest =>
      match rest with
      | [] => throw (.noArgument name)
      | operand :: tail => return (← unary d name operand, tail)
    | _, word :: rest =>
      match role rest, rest.tail with
      | .binary name, [] => throw (.noArgument name)
      | .binary name, other :: tail => return (← binary d name word other, tail)
      | _, _ => return (!word.isEmpty, rest)
    | _, [] => return (false, [])

end

/-- Asks a whole condition; nothing may be left over. -/
def whole (d : Desk) (r : Role) (words : List Octets) : Except Fault Bool := do
  let (a, rest) ← anyOf d (4 * words.length + 8) r words
  if rest.isEmpty then return a
  else throw (.unexpectedOperator ((words[words.length - rest.length - 1]?).getD []))

/-- With three or four words the place of a word tells what it is. -/
def holds (d : Desk) (words : List Octets) : Except Fault Bool :=
  let grouped := words.head? == some ['('] && words.getLast? == some [')']
  match words with
  | [] => .ok false
  | [a, op, b] =>
    if isBinary op then whole d .operand [a, op, b]
    else if grouped then whole d (role [op]) [op]
    else if a = ['!'] then (whole d (role [op, b]) [op, b]).map (!·)
    else whole d (role words) words
  | [a, b, c, e] =>
    if grouped then whole d (role [b, c]) [b, c]
    else if a = ['!'] then
      (if isBinary c then whole d .operand [b, c, e]
      else if b = ['!'] then (whole d (role [c, e]) [c, e]).map (!·)
      else if b = ['('] && e = [')'] then whole d (role [c]) [c]
      else whole d (role [b, c, e]) [b, c, e]).map (!·)
    else whole d (role words) words
  | _ => whole d (role words) words

/-- A condition in brackets, of which the opening one was the name of the command. -/
def inBrackets (d : Desk) (words : List Octets) : Except Fault Bool :=
  if words.getLast? = some [']'] then holds d words.dropLast else .error .openBracket

end Condition

end Signoff.Shell
