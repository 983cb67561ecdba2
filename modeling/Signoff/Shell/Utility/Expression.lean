import Signoff.Shell.Regex.Reader
import Signoff.Shell.Utility.Options

/-!
# Expressions

The utility `expr` takes an expression apart into operators and operands, an argument each, and
prints its value. From the loosest to the tightest the operators are choice, both, comparison, sum,
product and match.
-/

namespace Signoff.Shell

namespace Expression

inductive Value
  | number (n : Int)
  | text (cs : Octets)

inductive Fault
  | noOperand
  | missingBehind (word : Octets)
  | unexpected (word : Octets)
  | openBehind (word : Octets)
  | openInstead (word : Octets)
  | strayClosing
  | notNumber
  | divisionByZero
  | badPattern (fault : Regex.Fault)

def Fault.message : Fault → Octets
  | .noOperand => octets "missing operand"
  | .missingBehind word => octets "syntax error: missing argument after " ++ quoteWord word
  | .unexpected word => octets "syntax error: unexpected argument " ++ quoteWord word
  | .openBehind word => octets "syntax error: expecting ')' after " ++ quoteWord word
  | .openInstead word => octets "syntax error: expecting ')' instead of " ++ quoteWord word
  | .strayClosing => octets "syntax error: unexpected ')'"
  | .notNumber => octets "non-integer argument"
  | .divisionByZero => octets "division by zero"
  | .badPattern fault => octets fault.message

namespace Value

def shown : Value → Octets
  | number n => (toString n).toList
  | text cs => cs

/-- Nothing: an empty text or a zero. -/
def isNull : Value → Bool
  | number n => n == 0
  | text cs => match cs with
    | '-' :: c :: rest => (c :: rest).all (· == '0')
    | _ => cs.all (· == '0')

def number? : Value → Option Int
  | number n => some n
  | text cs =>
    let (negative, digits) := match cs with
      | '-' :: rest => (true, rest)
      | _ => (false, cs)
    (count? digits).map fun n => if negative then -(n : Int) else n

def ofBool (b : Bool) : Value := number (if b then 1 else 0)

end Value

/-- Two numbers compare as numbers, all else as texts. -/
def compare (op : String) (a b : Value) : Value :=
  let order := match a.number?, b.number? with
    | some m, some n => if m < n then Ordering.lt else if n < m then .gt else .eq
    | _, _ => compareOctets a.shown b.shown
  Value.ofBool (match op with
    | "<" => order == .lt
    | "<=" => order != .gt
    | ">" => order == .gt
    | ">=" => order != .lt
    | "!=" => order != .eq
    | _ => order == .eq)

def compute (op : String) (a b : Value) : Except Fault Value :=
  match a.number?, b.number? with
  | some m, some n =>
    match op with
    | "+" => .ok (.number (m + n))
    | "-" => .ok (.number (m - n))
    | "*" => .ok (.number (m * n))
    | _ =>
      if n = 0 then .error .divisionByZero
      else .ok (.number (if op = "/" then Int.tdiv m n else Int.tmod m n))
  | _, _ => .error .notNumber

/-- What the group of a pattern takes from the front of a text, or else the count of characters
that the pattern takes. -/
def matchFront (subject pattern : Octets) : Except Fault Value :=
  match Regex.read .expression pattern with
  | .error fault => .error (.badPattern fault)
  | .ok r =>
    let hasGroup := (Regex.groups r) != 0
    let s : Regex.Subject := ⟨subject.toArray, false⟩
    match Regex.run s ((r.size + 4) * (subject.length + 4) * 4) [.part r] 0 [] with
    | none => .ok (if hasGroup then .text [] else .number 0)
    | some (stop, spans) =>
      if hasGroup then
        .ok (.text (((spans.find? (·.index == 1)).map fun span =>
          (subject.drop span.start).take (span.stop - span.start)).getD []))
      else .ok (.number stop)

/-- The place of the first character that is one of some, counted from one. -/
def indexOf (subject chars : Octets) : Nat :=
  let front := subject.takeWhile (!chars.contains ·)
  if front.length = subject.length then 0 else front.length + 1

def substring (subject : Octets) (start length : Value) : Octets :=
  match start.number?, length.number? with
  | some m, some n =>
    if m ≤ 0 || n ≤ 0 then [] else (subject.drop (m.toNat - 1)).take n.toNat
  | _, _ => []

/-- The operators of each level, loosest first. -/
def levels : List (List String) :=
  [["|"], ["&"], ["<", "<=", "=", "==", "!=", ">=", ">"], ["+", "-"], ["*", "/", "%"], [":"]]

/-- A value, the last word that was used and the words behind it. -/
structure Progress where
  value : Value
  last : Octets
  rest : List Octets

abbrev Read := Except Fault Progress

mutual

/-- What the operators of some levels make of the words. Without `evaluates` nothing can go wrong
but the form. -/
def readLevel (fuel : Nat) (ops : List (List String)) (evaluates : Bool) (last : Octets)
    (words : List Octets) : Read :=
  match fuel with
  | 0 => .error .noOperand
  | fuel + 1 =>
    match ops with
    | [] => readSingle fuel evaluates last words
    | these :: tighter => do
      let p ← readLevel fuel tighter evaluates last words
      readMore fuel these tighter evaluates p

def readMore (fuel : Nat) (these : List String) (tighter : List (List String)) (evaluates : Bool)
    (p : Progress) : Read :=
  match fuel with
  | 0 => .error .noOperand
  | fuel + 1 =>
    match p.rest with
    | [] => .ok p
    | word :: rest =>
      let op := textOf word
      if !these.contains op then .ok p
      else do
        let wanted := match op with
          | "|" => p.value.isNull
          | "&" => !p.value.isNull
          | _ => true
        let q ← readLevel fuel tighter (evaluates && wanted) word rest
        let value ← match op with
          | "|" => pure (if !p.value.isNull then p.value
            else if q.value.isNull then .number 0 else q.value)
          | "&" => pure (if p.value.isNull || q.value.isNull then .number 0 else p.value)
          | ":" => if evaluates then matchFront p.value.shown q.value.shown else pure (.number 0)
          | _ =>
            if ["+", "-", "*", "/", "%"].contains op then
              if evaluates then compute op p.value q.value else pure (.number 0)
            else pure (compare op p.value q.value)
        readMore fuel these tighter evaluates { q with value }

/-- A group, a function or a word. -/
def readSingle (fuel : Nat) (evaluates : Bool) (last : Octets) (words : List Octets) : Read :=
  match fuel with
  | 0 => .error .noOperand
  | fuel + 1 =>
    match words with
    | [] => .error (.missingBehind last)
    | word :: rest =>
      match textOf word with
      | "(" => do
        let p ← readLevel fuel levels evaluates word rest
        match p.rest with
        | [] => throw (.openBehind p.last)
        | [')'] :: tail => return { p with last := [')'], rest := tail }
        | other :: _ => throw (.openInstead other)
      | ")" => .error .strayClosing
      | "+" =>
        match rest with
        | [] => .error (.missingBehind word)
        | plain :: tail => .ok ⟨.text plain, plain, tail⟩
      | "length" => do
        let p ← readSingle fuel evaluates word rest
        return { p with value := .number p.value.shown.length }
      | "match" => do
        let p ← readSingle fuel evaluates word rest
        let q ← readSingle fuel evaluates p.last p.rest
        let value ← if evaluates then matchFront p.value.shown q.value.shown
          else pure (.number 0)
        return { q with value }
      | "index" => do
        let p ← readSingle fuel evaluates word rest
        let q ← readSingle fuel evaluates p.last p.rest
        return { q with value := .number (indexOf p.value.shown q.value.shown) }
      | "substr" => do
        let p ← readSingle fuel evaluates word rest
        let q ← readSingle fuel evaluates p.last p.rest
        let r ← readSingle fuel evaluates q.last q.rest
        return { r with value := .text (substring p.value.shown q.value r.value) }
      | _ => .ok ⟨.text word, word, rest⟩

end

def read (words : List Octets) : Except Fault Value := do
  if words.isEmpty then throw .noOperand
  else
    let p ← readLevel (10 * words.length + 20) levels true [] words
    match p.rest with
    | [] => return p.value
    | word :: _ => throw (.unexpected word)

end Expression

namespace Utility

def expr (d : Desk) (args : List Octets) : Ended :=
  let args := match args with
    | ['-', '-'] :: rest => rest
    | _ => args
  match Expression.read args with
  | .ok value => d.done (value.shown ++ ['\n']) (if value.isNull then 1 else 0)
  | .error .noOperand => d.refuse "expr" (octets "missing operand") 2
  | .error fault => d.complain (octets "expr: " ++ fault.message) 2

end Utility

end Signoff.Shell
