import Signoff.Shell.Regex.Basic
import Signoff.Shell.Token

/-!
# Reading regular expressions

In a basic dialect parentheses, braces, bars, plus and question marks have a meaning behind a
backslash, in an extended dialect without one. The utilities differ in what they refuse.
-/

namespace Signoff.Shell.Regex

/-- The rules by which a utility reads its expressions. -/
inductive Dialect
  /-- Searching: an operator with nothing to repeat is passed over, or stands for itself. -/
  | search (extended : Bool)
  /-- Editing: what is not well formed is refused. -/
  | edit (extended : Bool)
  /-- Computing with words. -/
  | expression
  /-- Programs on records: a backslash makes control characters, also inside brackets. -/
  | awk
  /-- Searching with classes such as `\d`, also inside brackets. -/
  | perl
deriving DecidableEq

namespace Dialect

def isExtended : Dialect → Bool
  | search extended => extended
  | edit extended => extended
  | expression => false
  | awk => true
  | perl => true

/-- A range may end in front of its start, and then holds nothing. -/
def allowsEmptyRanges (d : Dialect) : Bool := d == expression || d == awk

/-- An operator must have something in front of it. -/
def needsOperands (d : Dialect) : Bool := d == edit true || d == awk || d == perl

end Dialect

/-- Why a text is no regular expression. -/
inductive Fault
  | openGroup
  | closedGroup
  | openBracket
  /-- Nothing stands behind an opening bracket. -/
  | nothing
  | openBrace
  | badBrace
  | badReference
  | badClass
  | badRange
  | noOperand
  | repeatedAnchor
  | tooBig
  | lastBackslash
  /-- Brackets hold a class that wants brackets of its own. -/
  | bareClass
deriving DecidableEq

def Fault.message : Fault → String
  | .openGroup => "Unmatched ( or \\("
  | .closedGroup => "Unmatched ) or \\)"
  | .nothing => "Invalid regular expression"
  | .openBracket => "Unmatched [, [^, [:, [., or [="
  | .openBrace => "Unmatched \\\x7b"
  | .badBrace => "Invalid content of \\\x7b\\\x7d"
  | .badReference => "Invalid back reference"
  | .badClass => "Invalid character class name"
  | .badRange => "Invalid range end"
  | .noOperand | .repeatedAnchor => "Invalid preceding regular expression"
  | .tooBig => "Regular expression too big"
  | .lastBackslash => "Trailing backslash"
  | .bareClass => "character class syntax is [[:space:]], not [:space:]"

/-- A part of an expression as it is spelled. -/
inductive Lexeme
  | atom (r : Regex)
  /-- What takes no character and cannot be repeated. -/
  | anchor (r : Regex)
  | groupStart
  | groupEnd
  | bar
  | star
  | plus
  | question
  | brace
  | caret
  | dollar

/-- Characters that an escape names. -/
def controlEscape? (c : Char) : Option Char :=
  match c with
  | 'n' => some '\n'
  | 't' => some '\t'
  | 'r' => some '\r'
  | 'f' => some '\x0c'
  | 'v' => some '\x0b'
  | 'a' => some '\x07'
  | _ => none

def wordRanges : List CharRange := [('0', '9'), ('A', 'Z'), ('_', '_'), ('a', 'z')]

def spaceRanges : List CharRange := [('\t', '\r'), (' ', ' ')]

/-- The class that a letter behind a backslash names; a capital names what is not in it. -/
def letterClass? (c : Char) : Option (Bool × List CharRange) :=
  match c with
  | 'd' => some (false, [('0', '9')])
  | 'D' => some (true, [('0', '9')])
  | 'w' => some (false, wordRanges)
  | 'W' => some (true, wordRanges)
  | 's' => some (false, spaceRanges)
  | 'S' => some (true, spaceRanges)
  | 'h' => some (false, [('\t', '\t'), (' ', ' ')])
  | _ => none

/-- The lexeme behind a backslash. -/
def escaped (d : Dialect) (c : Char) : Lexeme :=
  let special (l : Lexeme) : Lexeme := if d.isExtended then .atom (.one c) else l
  if d = .awk then .atom (.one ((controlEscape? c).getD c))
  else if d = .perl && (controlEscape? c).isSome then .atom (.one ((controlEscape? c).getD c))
  else if d = .perl && (letterClass? c).isSome then
    let (negated, ranges) := (letterClass? c).getD (false, [])
    .atom (.oneOf negated ranges)
  else match c with
  | '(' => special .groupStart
  | ')' => special .groupEnd
  | '\x7b' => special .brace
  | '|' => special .bar
  | '+' => special .plus
  | '?' => special .question
  | 'w' => .atom (.oneOf false wordRanges)
  | 'W' => .atom (.oneOf true wordRanges)
  | 's' => .atom (.oneOf false spaceRanges)
  | 'S' => .atom (.oneOf true spaceRanges)
  | '<' => .anchor (.edge true false false)
  | '>' => .anchor (.edge false true false)
  | 'b' => .anchor (.edge true true false)
  | 'B' => .anchor (.edge true true true)
  | '\x60' => .anchor .start
  | '\'' => .anchor .finish
  | _ => if c.isDigit && c != '0' then .atom (.same (digitValue c)) else .atom (.one c)

def plainLexeme (d : Dialect) (c : Char) : Lexeme :=
  let special (l : Lexeme) : Lexeme := if d.isExtended then l else .atom (.one c)
  match c with
  | '.' => .atom .any
  | '*' => .star
  | '^' => .caret
  | '$' => .dollar
  | '(' => special .groupStart
  | ')' => special .groupEnd
  | '\x7b' => special .brace
  | '|' => special .bar
  | '+' => special .plus
  | '?' => special .question
  | _ => .atom (.one c)

/-- The range that starts with a character, and what follows it. -/
def rangeFrom (d : Dialect) (a : Char) (rest : Octets) : Except Fault (CharRange × Octets) :=
  match rest with
  | '-' :: b :: tail =>
    let (b, tail) := match b, tail with
      | '[', '.' :: c :: '.' :: ']' :: tail => (c, tail)
      | _, _ => (b, tail)
    if rest[1]? = some ']' then .ok ((a, a), rest)
    else if b < a && !d.allowsEmptyRanges then .error .badRange
    else .ok ((a, b), tail)
  | _ => .ok ((a, a), rest)

/-- The character that a backslash and another one stand for inside brackets. -/
def bracketEscape? (d : Dialect) (c : Char) : Option Char :=
  match d with
  | .awk => (controlEscape? c) <|> (if ['\\', ']', '/', '"'].contains c then some c else none)
  | .perl => some ((controlEscape? c).getD c)
  | _ => none

/-- The ranges up to the closing bracket. -/
def readRanges (d : Dialect) (fuel : Nat) (cs : Octets) :
    Except Fault (List CharRange × Octets) :=
  match fuel with
  | 0 => .error .openBracket
  | fuel + 1 => do
    match cs with
    | [] => .error .openBracket
    | ']' :: rest => return ([], rest)
    | '[' :: ':' :: rest =>
      match classAt? (':' :: rest) with
      | some (ranges, tail) =>
        let (more, tail) ← readRanges d fuel tail
        return (ranges ++ more, tail)
      | none => .error (if endsClass rest then .badClass else .openBracket)
    | '\\' :: c :: rest =>
      match if d = .perl then letterClass? c else none with
      | some (_, ranges) =>
        let (more, tail) ← readRanges d fuel rest
        return (ranges ++ more, tail)
      | none =>
        let (a, rest) := match bracketEscape? d c with
          | some e => (e, rest)
          | none => ('\\', c :: rest)
        let (range, tail) ← rangeFrom d a rest
        let (more, tail) ← readRanges d fuel tail
        return (range :: more, tail)
    | '[' :: '=' :: c :: '=' :: ']' :: rest =>
      let (more, tail) ← readRanges d fuel rest
      return ((c, c) :: more, tail)
    | a :: rest =>
      let (a, rest) := match a, rest with
        | '[', '.' :: c :: '.' :: ']' :: more => (c, more)
        | _, _ => (a, rest)
      let (range, tail) ← rangeFrom d a rest
      let (more, tail) ← readRanges d fuel tail
      return (range :: more, tail)

where
  /-- A colon and a closing bracket end the name of a class. -/
  endsClass : Octets → Bool
    | ':' :: ']' :: _ => true
    | _ :: rest => endsClass rest
    | [] => false

/-- Brackets hold a name between colons and nothing else. -/
def holdsBareClass (d : Dialect) (cs : Octets) : Bool :=
  match d with
  | .search _ | .edit _ =>
    match cs with
    | ':' :: rest =>
      let name := rest.takeWhile (· != ']')
      name.length < rest.length && name.getLast? == some ':' && name.any (· != ':') &&
        !name.contains '-' && !name.contains '['
    | _ => false
  | _ => false

/-- What follows an opening bracket; a closing bracket right behind it stands for itself. -/
def readSet (d : Dialect) (cs : Octets) : Except Fault (Regex × Octets) := do
  let (negated, cs) := match cs with
    | '^' :: rest => (true, rest)
    | _ => (false, cs)
  if holdsBareClass d cs then .error .bareClass
  else match cs with
  | [] => .error .nothing
  | ']' :: rest =>
    let (range, rest) ← rangeFrom d ']' rest
    let (ranges, tail) ← readRanges d (rest.length + 1) rest
    return (.oneOf negated (range :: ranges), tail)
  | _ =>
    let (ranges, tail) ← readRanges d (cs.length + 1) cs
    return (.oneOf negated ranges, tail)

/-- The largest count of a repetition. -/
def mostRepeats : Nat := 32767

/-- The counts of a repetition up to its closing brace. -/
def readBrace (d : Dialect) (cs : Octets) : Except Fault (Nat × Option Nat × Octets) :=
  let stops (rest : Octets) : Bool := match rest with
    | '\x7d' :: _ => d.isExtended
    | '\\' :: '\x7d' :: _ => !d.isExtended
    | _ => false
  let inner := upTo stops cs
  let rest := cs.drop inner.length
  if rest.isEmpty then .error .openBrace
  else
    let tail := rest.drop (if d.isExtended then 1 else 2)
    let least := inner.takeWhile Char.isDigit
    let bounded (n : Nat) (most : Option Nat) : Except Fault (Nat × Option Nat × Octets) :=
      if most.any (· < n) then .error .badBrace
      else if mostRepeats < most.getD n then .error .tooBig
      else .ok (n, most, tail)
    match inner.drop least.length with
    | [] =>
      if least.isEmpty then .error .badBrace
      else bounded (digitsValue least) (some (digitsValue least))
    | ',' :: most =>
      if !most.all Char.isDigit then .error .badBrace
      else bounded (digitsValue least) (if most.isEmpty then none else some (digitsValue most))
    | _ => .error .badBrace
where
  digitsValue (ds : Octets) : Nat := ds.foldl (fun n c => 10 * n + digitValue c) 0
  upTo (stops : Octets → Bool) : Octets → Octets
    | [] => []
    | c :: rest => if stops (c :: rest) then [] else c :: upTo stops rest

/-- The byte that up to three octal digits give, and what follows them. -/
def octalEscape (cs : Octets) : Char × Octets :=
  let digits := (cs.take 3).takeWhile fun c => '0' ≤ c && c ≤ '7'
  (Char.ofNat (digits.foldl (fun n c => 8 * n + digitValue c) 0 % 256), cs.drop digits.length)

/-- The lexeme at the front and what follows it. -/
def lexeme? (d : Dialect) (cs : Octets) : Except Fault (Option (Lexeme × Octets)) :=
  match cs with
  | [] => .ok none
  | '\\' :: [] => .error .lastBackslash
  | '\\' :: c :: rest =>
    if d = .awk && '0' ≤ c && c ≤ '7' then
      let (byte, tail) := octalEscape (c :: rest)
      .ok (some (.atom (.one byte), tail))
    else .ok (some (escaped d c, rest))
  | '[' :: rest => (readSet d rest).map fun (r, tail) => some (.atom r, tail)
  | '(' :: '?' :: ':' :: rest => if d = .perl then .ok (some (.groupStart, rest))
    else .ok (some (plainLexeme d '(', '?' :: ':' :: rest))
  | c :: rest => .ok (some (plainLexeme d c, rest))

/-- A dollar sign is an anchor at the end, and in front of what ends a group or an alternative. -/
def endsHere (d : Dialect) (cs : Octets) : Bool :=
  d.isExtended || match cs with
    | [] => true
    | '\\' :: c :: _ => c == ')' || c == '|'
    | _ => false

/-- A place while reading: what is left, how many groups were opened, and which operators had
nothing to repeat, the last one first. -/
structure Progress where
  rest : Octets
  groups : Nat
  idle : List String

/-- One expression behind another one. -/
def andThen (before next : Regex) : Regex :=
  match before with
  | .empty => next
  | _ => .sequence before next

/-- No character was read yet. -/
def onlyAnchors : Regex → Bool
  | .empty | .start | .finish | .edge .. => true
  | .sequence a b => onlyAnchors a && onlyAnchors b
  | _ => false

mutual

/-- Alternatives up to the end of a group or of the text. -/
def readChoice (d : Dialect) (fuel depth : Nat) (p : Progress) : Except Fault (Regex × Progress) :=
  match fuel with
  | 0 => .error .openGroup
  | fuel + 1 => do
    let (first, p) ← readRow d fuel depth .empty true p
    if d = .awk && first = .empty && !p.rest.isEmpty then .error .noOperand
    else match ← lexeme? d p.rest with
    | some (.bar, rest) =>
      let (second, p) ← readChoice d fuel depth { p with rest }
      if d = .awk && second = .empty then .error .noOperand
      else return (.either first second, p)
    | _ => return (first, p)

/-- Repeated atoms one behind the other; `before` was read so far, and `idle` says that there is
nothing to repeat. -/
def readRow (d : Dialect) (fuel depth : Nat) (before : Regex) (idle : Bool) (p : Progress) :
    Except Fault (Regex × Progress) :=
  match fuel with
  | 0 => .error .openGroup
  | fuel + 1 => do
    let add (r : Regex) (q : Progress) : Except Fault (Regex × Progress) := do
      let (r, q) ← readRepeats d fuel false r q
      readRow d fuel depth (andThen before r) false q
    let anchored (r : Regex) (q : Progress) : Except Fault (Regex × Progress) :=
      readRow d fuel depth (andThen before r) true q
    match ← lexeme? d p.rest with
    | none => return (before, p)
    | some (l, rest) =>
      let q := { p with rest }
      let operator (c : Char) (shown : String) (q : Progress) : Except Fault (Regex × Progress) :=
        if !d.isExtended then
          if d = .edit false && c = '\x7b' then .error .noOperand else add (.one c) { p with rest }
        else if d = .awk && before != .empty then .error .repeatedAnchor
        else if d.needsOperands then .error .noOperand
        else readRow d fuel depth before idle
          { q with idle := if onlyAnchors before then shown :: q.idle else q.idle }
      match l with
      | .bar => return (before, p)
      | .groupEnd =>
        if 0 < depth then return (before, p)
        else if d = .search true || d = .awk then add (.one ')') q
        else .error .closedGroup
      | .groupStart =>
        let index := p.groups + 1
        let (inner, q) ← readChoice d fuel (depth + 1) { q with groups := index }
        match ← lexeme? d q.rest with
        | some (.groupEnd, rest) => add (.group index inner) { q with rest }
        | _ => .error .openGroup
      | .atom (.same n) =>
        if n ≤ p.groups then add (.same n) q else .error .badReference
      | .atom r => add r q
      | .anchor r => anchored r q
      | .caret =>
        if d.isExtended || before = .empty then anchored .start q else add (.one '^') q
      | .dollar =>
        if endsHere d rest then
          -- the dialect that is read as programs repeats it all the same
          if d = .awk then add .finish q else anchored .finish q
        else add (.one '$') q
      | .star => operator '*' "*" q
      | .plus => operator '+' "+" q
      | .question => operator '?' "?" q
      | .brace =>
        match readBrace d rest with
        | .ok (_, _, tail) => operator '\x7b' "\x7b...\x7d" { q with rest := tail }
        | .error _ => if d.needsOperands then .error .noOperand else add (.one '\x7b') q

/-- The repetitions behind an atom; `again` says that one was read. -/
def readRepeats (d : Dialect) (fuel : Nat) (again : Bool) (r : Regex) (p : Progress) :
    Except Fault (Regex × Progress) :=
  match fuel with
  | 0 => .error .openGroup
  | fuel + 1 => do
    let once : Except Fault Unit :=
      if again && d = .edit false then .error .noOperand else .ok ()
    match ← lexeme? d p.rest with
    | some (.star, rest) =>
      once
      readRepeats d fuel true (.times r 0 none) { p with rest }
    | some (.plus, rest) => readRepeats d fuel true (.times r 1 none) { p with rest }
    | some (.question, rest) => readRepeats d fuel true (.times r 0 (some 1)) { p with rest }
    | some (.brace, rest) =>
      once
      match readBrace d rest with
      | .ok (least, most, rest) => readRepeats d fuel true (.times r least most) { p with rest }
      | .error fault =>
        if d = .search true && isLiteral fault rest then return (r, p) else .error fault
    | _ => return (r, p)
where
  /-- A brace that starts no counts stands for itself. -/
  isLiteral (fault : Fault) (rest : Octets) : Bool :=
    match fault with
    | .badBrace =>
      -- counts in the wrong order are refused
      let inner := rest.takeWhile (· != '\x7d')
      !inner.all (fun c => c.isDigit || c == ',') || 1 < inner.count ','
    | .openBrace => true
    | _ => false

end

/-- The expression, and the operators that had nothing to repeat. -/
def readNoting (d : Dialect) (cs : Octets) : Except Fault (Regex × List String) := do
  let (r, p) ← readChoice d (4 * cs.length + 10) 0 ⟨cs, 0, []⟩
  if p.rest.isEmpty then return (r, p.idle.reverse) else .error .closedGroup

def read (d : Dialect) (cs : Octets) : Except Fault Regex := (readNoting d cs).map (·.1)

end Signoff.Shell.Regex
