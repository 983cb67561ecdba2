import Signoff.Shell.Token

/-!
# Sums

Whole numbers of 64 bits with the usual operators. From the loosest to the tightest these are
assignment, choice, or, and, the three on bits, equality, order, shift, sum, product and sign. A
comparison gives 1 or 0, and a name stands for the number in a variable.
-/

namespace Signoff.Shell.Arithmetic

inductive Symbol
  | number (n : Int)
  | name (cs : Octets)
  | mark (text : String)
deriving DecidableEq

inductive Term
  | number (n : Int)
  | name (cs : Octets)
  | unary (op : String) (a : Term)
  | binary (op : String) (a b : Term)
  | choice (condition yes no : Term)
  | assign (name : Octets) (op : String) (value : Term)

inductive Fault
  | noPrimary
  | noEnd
  | noColon
  | noParenthesis
  | divisionByZero
  | illegalNumber (text : Octets)

def limit : Nat := Nat.pow 2 63

/-- The number with the same lowest 64 bits. -/
def wrap (n : Int) : Int := n.bmod (Nat.pow 2 64)

/-- Numbers stay within 64 bits. -/
def clamp (n : Int) : Int :=
  if n < -(limit : Int) then -(limit : Int) else if n < (limit : Int) then n else (limit : Int) - 1

def hexValue? (c : Char) : Option Nat :=
  if c.isDigit then some (digitValue c)
  else if 'a' ≤ c && c ≤ 'f' then some (c.toNat - 'a'.toNat + 10)
  else if 'A' ≤ c && c ≤ 'F' then some (c.toNat - 'A'.toNat + 10)
  else none

def valueIn (base : Nat) (digits : Octets) : Nat :=
  digits.foldl (fun n c => base * n + (hexValue? c).getD 0) 0

/-- The number at the front, hexadecimal behind `0x`, octal behind a zero, and the rest. -/
def readNumber (cs : Octets) : Nat × Octets :=
  let decimal := (valueIn 10 (cs.takeWhile Char.isDigit), cs.dropWhile Char.isDigit)
  let octal (cs : Octets) :=
    let digits := cs.takeWhile fun c => '0' ≤ c && c ≤ '7'
    (valueIn 8 digits, cs.drop digits.length)
  match cs with
  | '0' :: x :: more =>
    let digits := more.takeWhile fun c => (hexValue? c).isSome
    if (x = 'x' || x = 'X') && !digits.isEmpty then (valueIn 16 digits, more.drop digits.length)
    else octal cs
  | _ => decimal

/-- The number that a whole text spells, with blanks around it; an empty text spells none. -/
def numeral? (text : Octets) : Option Int :=
  let cs := text.dropWhile isBlankOctet
  let (negative, digits) := match cs with
    | '-' :: rest => (true, rest)
    | '+' :: rest => (false, rest)
    | _ => (false, cs)
  let (n, rest) := readNumber digits
  if digits.head?.any Char.isDigit && rest.all isBlankOctet then
    some (clamp (if negative then -(n : Int) else n))
  else none

def marks : List String :=
  ["<<=", ">>=", "<<", ">>", "<=", ">=", "==", "!=", "&&", "||", "+=", "-=", "*=", "/=", "%=",
    "&=", "|=", "^=", "<", ">", "=", "+", "-", "*", "/", "%", "!", "~", "&", "|", "^", "?", ":",
    "(", ")"]

/-- The symbols of a source. A character that starts none ends them with a mark of its own. -/
def symbols : Nat → Octets → List Symbol
  | 0, _ => []
  | fuel + 1, cs =>
    match cs.dropWhile isBlankOctet with
    | [] => []
    | c :: rest =>
      if c.isDigit then
        let (n, tail) := readNumber (c :: rest)
        .number (clamp n) :: symbols fuel tail
      else if isNameStart c then
        .name (c :: rest.takeWhile isNameChar) :: symbols fuel (rest.dropWhile isNameChar)
      else match firstOf? marks (c :: rest) with
        | some (m, tail) => .mark m :: symbols fuel tail
        | none => [.mark ""]

/-- The operators of each level, loosest first. -/
def levels : List (List String) :=
  [["||"], ["&&"], ["|"], ["^"], ["&"], ["==", "!="], ["<", ">", "<=", ">="], ["<<", ">>"],
    ["+", "-"], ["*", "/", "%"]]

/-- Operators that give a variable a value, with what they do to the old one. -/
def assignments : List (String × String) :=
  [("=", ""), ("+=", "+"), ("-=", "-"), ("*=", "*"), ("/=", "/"), ("%=", "%"), ("<<=", "<<"),
    (">>=", ">>"), ("&=", "&"), ("|=", "|"), ("^=", "^")]

abbrev Parsed := Except Fault (Term × List Symbol)

mutual

def readTerm (fuel : Nat) (ss : List Symbol) : Parsed :=
  match fuel with
  | 0 => .error .noPrimary
  | fuel + 1 =>
    match ss with
    | .name name :: .mark m :: rest =>
      match assignments.find? (·.1 == m) with
      | some (_, op) => do
        let (value, tail) ← readTerm fuel rest
        return (.assign name op value, tail)
      | none => readChoice fuel ss
    | _ => readChoice fuel ss

def readChoice (fuel : Nat) (ss : List Symbol) : Parsed :=
  match fuel with
  | 0 => .error .noPrimary
  | fuel + 1 => do
    let (condition, rest) ← readLevel fuel levels ss
    match rest with
    | .mark "?" :: more =>
      let (yes, rest) ← readTerm fuel more
      match rest with
      | .mark ":" :: more =>
        let (no, tail) ← readChoice fuel more
        return (.choice condition yes no, tail)
      | _ => .error .noColon
    | _ => return (condition, rest)

/-- A term with the operators of some levels. -/
def readLevel (fuel : Nat) (ops : List (List String)) (ss : List Symbol) : Parsed :=
  match fuel with
  | 0 => .error .noPrimary
  | fuel + 1 =>
    match ops with
    | [] => readSingle fuel ss
    | these :: tighter => do
      let (a, rest) ← readLevel fuel tighter ss
      readMore fuel these tighter a rest

def readMore (fuel : Nat) (these : List String) (tighter : List (List String)) (a : Term)
    (ss : List Symbol) : Parsed :=
  match fuel with
  | 0 => .error .noPrimary
  | fuel + 1 =>
    match ss with
    | .mark m :: rest =>
      if these.contains m then do
        let (b, tail) ← readLevel fuel tighter rest
        readMore fuel these tighter (.binary m a b) tail
      else return (a, ss)
    | _ => return (a, ss)

def readSingle (fuel : Nat) (ss : List Symbol) : Parsed :=
  match fuel with
  | 0 => .error .noPrimary
  | fuel + 1 =>
    match ss with
    | .number n :: rest => .ok (.number n, rest)
    | .name name :: rest => .ok (.name name, rest)
    | .mark "(" :: rest => do
      let (a, rest) ← readTerm fuel rest
      match rest with
      | .mark ")" :: tail => return (a, tail)
      | _ => .error .noParenthesis
    | .mark m :: rest =>
      if ["-", "+", "!", "~"].contains m then do
        let (a, tail) ← readSingle fuel rest
        return (.unary m a, tail)
      else .error .noPrimary
    | [] => .error .noPrimary

end

def read (source : Octets) : Except Fault Term :=
  let ss := symbols (source.length + 1) source
  match readTerm (14 * ss.length + 40) ss with
  | .ok (t, []) => .ok t
  | .ok (_, _ :: _) => .error .noEnd
  | .error fault => .error fault

def ofBool (b : Bool) : Int := if b then 1 else 0

def onBits (f : BitVec 64 → BitVec 64 → BitVec 64) (a b : Int) : Int :=
  (f (BitVec.ofInt 64 a) (BitVec.ofInt 64 b)).toInt

/-- The result of an operator; nothing can be divided by zero. -/
def compute (op : String) (a b : Int) : Except Fault Int :=
  let places := (b % 64).toNat
  match op with
  | "|" => .ok (onBits (· ||| ·) a b)
  | "^" => .ok (onBits (· ^^^ ·) a b)
  | "&" => .ok (onBits (· &&& ·) a b)
  | "==" => .ok (ofBool (a == b))
  | "!=" => .ok (ofBool (a != b))
  | "<=" => .ok (ofBool (a ≤ b))
  | ">=" => .ok (ofBool (b ≤ a))
  | "<" => .ok (ofBool (a < b))
  | ">" => .ok (ofBool (b < a))
  | "<<" => .ok (wrap (a * (Nat.pow 2 places : Nat)))
  | ">>" => .ok (Int.fdiv a (Nat.pow 2 places : Nat))
  | "+" => .ok (wrap (a + b))
  | "-" => .ok (wrap (a - b))
  | "*" => .ok (wrap (a * b))
  | "/" => if b = 0 then .error .divisionByZero else .ok (wrap (Int.tdiv a b))
  | "%" => if b = 0 then .error .divisionByZero else .ok (Int.tmod a b)
  | _ => .ok b

/-- The variables that a sum sees, and changes. -/
abbrev Variables := List (Octets × Octets)

/-- The number in a variable; an empty one counts as zero. -/
def valueOf (vars : Variables) (name : Octets) : Except Fault Int :=
  match (vars.find? (·.1 == name)).map (·.2) with
  | none => .ok 0
  | some [] => .ok 0
  | some text => match numeral? text with
    | some n => .ok n
    | none => .error (.illegalNumber text)

/-- The value of a term and the variables then. -/
def eval (vars : Variables) : Term → Except Fault (Int × Variables)
  | .number n => .ok (n, vars)
  | .name name => (valueOf vars name).map (·, vars)
  | .unary op a => do
    let (n, vars) ← eval vars a
    return (match op with
      | "-" => wrap (-n)
      | "!" => ofBool (n == 0)
      | "~" => -n - 1
      | _ => n, vars)
  | .binary op a b => do
    let (m, vars) ← eval vars a
    if op = "||" && m != 0 then return (1, vars)
    else if op = "&&" && m == 0 then return (0, vars)
    else
      let (n, vars) ← eval vars b
      if op = "||" || op = "&&" then return (ofBool (n != 0), vars)
      else return (← compute op m n, vars)
  | .choice condition yes no => do
    let (n, vars) ← eval vars condition
    if n != 0 then eval vars yes else eval vars no
  | .assign name op value => do
    let (n, vars) ← eval vars value
    let n ← if op = "" then pure n else do compute op (← valueOf vars name) n
    return (n, (name, (toString n).toList) :: vars)

/-- What is wrong with a source. -/
def Fault.message (source : Octets) (fault : Fault) : String :=
  let about (text : String) := s!"arithmetic expression: {text}: \"{textOf source}\""
  match fault with
  | .noPrimary => about "expecting primary"
  | .noEnd => about "expecting EOF"
  | .noColon => about "expecting ':'"
  | .noParenthesis => about "expecting ')'"
  | .divisionByZero => about "division by zero"
  | .illegalNumber text => s!"Illegal number: {textOf text}"

end Signoff.Shell.Arithmetic
