import Signoff.Shell.Octets
import Signoff.Shell.Regex.Reader

/-!
# Programs of the pattern language

A program is a row of rules. A rule has a condition on the current line and an action, which is a
statement; there are also rules for the start and the end of the input, and functions.
-/

namespace Signoff.Shell.Awk

/-- What is done with the value of a place and a new value. -/
inductive Operator
  | add
  | subtract
  | multiply
  | divide
  | remainder
  | power
deriving DecidableEq

inductive Comparison
  | less
  | atMost
  | equal
  | unequal
  | atLeast
  | greater
deriving DecidableEq

mutual

inductive Expr
  | number (x : Float)
  | text (cs : Octets)
  /-- Whether the current line fits. -/
  | regex (r : Regex)
  | name (n : Octets)
  | field (index : Expr)
  | element (array : Octets) (keys : List Expr)
  | assign (place : Expr) (op : Option Operator) (value : Expr)
  | choice (condition yes no : Expr)
  | both (a b : Expr)
  | either (a b : Expr)
  | member (keys : List Expr) (array : Octets)
  | fits (negated : Bool) (subject pattern : Expr)
  | compare (op : Comparison) (a b : Expr)
  | joined (a b : Expr)
  | arithmetic (op : Operator) (a b : Expr)
  | negated (a : Expr)
  | minus (a : Expr)
  | plus (a : Expr)
  /-- One more or less than the place holds; the value before or after that. -/
  | step (before : Bool) (by_ : Operator) (place : Expr)
  | call (function : Octets) (args : List Expr)
  | builtin (function : Octets) (args : List Expr)
  | getline (place : Option Expr) (source : Option Source)
  /-- Expressions in parentheses. -/
  | group (items : List Expr)

/-- Where a line is read from. -/
inductive Source
  | file (name : Expr)
  | command (text : Expr)

end

instance : Inhabited Expr := ⟨.text []⟩

/-- Where output goes. -/
inductive Target
  | file (name : Expr)
  | append (name : Expr)
  | command (text : Expr)

inductive Statement
  | nothing
  | expression (e : Expr)
  | print (items : List Expr) (target : Option Target)
  | printFormat (items : List Expr) (target : Option Target)
  | branch (condition : Expr) (yes no : Statement)
  | loop (condition : Expr) (step body : Statement)
  | loopAfter (body : Statement) (condition : Expr)
  | each (name array : Octets) (body : Statement)
  | sequence (first second : Statement)
  | leave
  | again
  | next
  | exit (status : Option Expr)
  | back (value : Option Expr)
  | delete (array : Octets) (keys : List Expr)

instance : Inhabited Statement := ⟨.nothing⟩

/-- When a rule applies. -/
inductive Condition
  | atStart
  | atEnd
  | always
  | holds (e : Expr)
  | between (first last : Expr)

structure Rule where
  condition : Condition
  /-- Without an action the line is printed. -/
  action : Option Statement

structure Function where
  name : Octets
  parameters : List Octets
  body : Statement

structure Program where
  rules : List Rule
  functions : List Function

/-- Why a text is no program, with the line where that shows. -/
inductive Fault
  | unexpected (line : Nat) (found : Octets)
  | character (line : Nat) (c : Char)
  | openText (line : Nat) (front : Octets)
  | openRegex (line : Nat) (front : Octets)
  | badRegex (line : Nat) (fault : Regex.Fault) (source : Octets)
  /-- A parenthesis was not closed before what was found. -/
  | openGroup (line : Nat) (found : Octets)
  | closedGroup (line : Nat)
  | openBlock (line : Nat)
  | undefined (line : Nat) (function : Octets)

def regexMessage (fault : Regex.Fault) (source : Octets) : Octets :=
  let reason := match fault with
    | .openGroup => "missing ')'"
    | .closedGroup => "missing '('"
    | .noOperand => "missing operand"
    | .repeatedAnchor => "syntax error ^* or ^+"
    | .badBrace => "bad interval expression"
    | .badClass => "bad class -- [], [^] or ["
    | _ => fault.message
  octets s!"regular expression compile failed ({reason})\n" ++ source

def Fault.message : Fault → Octets
  | .unexpected line found => octets s!"line {line}: syntax error at or near " ++ found
  | .character line c => octets s!"{line}: unexpected character '" ++ [c, '\'']
  | .openText line front => octets s!"line {line}: runaway string constant \"" ++ front.take 10 ++
      octets " ..."
  | .openRegex line front => octets s!"line {line}: runaway regular expression /" ++ front.take 10 ++
      octets " ..."
  | .badRegex line fault source => octets s!"line {line}: " ++ regexMessage fault source
  | .openGroup line found => octets s!"line {line}: missing ) near " ++ found
  | .closedGroup line => octets s!"line {line}: extra ')'"
  | .openBlock line => octets s!"line {line}: missing \x7d near end of file"
  | .undefined line function =>
    octets s!"line {line}: function " ++ function ++ octets " never defined"

end Signoff.Shell.Awk
