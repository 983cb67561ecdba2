import Signoff.Shell.Awk.Token

/-!
# Reading programs of the pattern language

From the loosest to the tightest the operators are assignment, choice, or, and, membership, match,
comparison, concatenation, sum, product, sign, power and step. Reading takes fuel, which the number
of tokens bounds.
-/

namespace Signoff.Shell.Awk

/-- Where output is read a greater sign means a file, and in the head of a loop `in` means what the
loop is about. -/
structure Scope where
  comparesGreater : Bool
  readsMember : Bool

abbrev Reading := StateT (List Located) (Except Fault)

namespace Reading

def inside : Scope := ⟨true, true⟩

/-- Fails at the next token. -/
def unexpected {α : Type} : Reading α := fun ts =>
  match ts with
  | t :: _ =>
    match t.token with
    | .mark ")" => .error (.closedGroup t.line)
    | _ => .error (.unexpected t.line t.token.shown)
  | [] => .error (.openBlock 1)

/-- Fails at the next token, in front of which a parenthesis should have been closed. -/
def notClosed {α : Type} : Reading α := fun ts =>
  match ts with
  | ⟨.mark "\x7d", line⟩ :: _ => .error (.openGroup line ['\x7d'])
  | ⟨.mark ";", line⟩ :: _ => .error (.openGroup line [';'])
  | ⟨.lineEnd, line⟩ :: _ => .error (.openGroup line (octets "end of line"))
  | _ => unexpected ts

def peek : Reading (Option Token) := return (← get).head?.map (·.token)

def drop : Reading Unit := modify List.tail

def isMark (t : Option Token) (m : String) : Bool :=
  match t with
  | some (.mark n) => n == m
  | _ => false

def isKeyword (t : Option Token) (word : String) : Bool :=
  match t with
  | some (.keyword w) => w == word
  | _ => false

/-- Takes a mark if it comes next. -/
def accept (m : String) : Reading Bool := do
  if isMark (← peek) m then
    drop
    return true
  else return false

def expect (m : String) : Reading Unit := do
  if ← accept m then return () else unexpected

def acceptKeyword (word : String) : Reading Bool := do
  if isKeyword (← peek) word then
    drop
    return true
  else return false

def skipLines : Reading Unit := modify fun ts => ts.dropWhile fun t =>
  match t.token with
  | .lineEnd => true
  | _ => false

/-- Passes over line ends and semicolons. -/
def skipEnds : Reading Unit := modify fun ts => ts.dropWhile fun t =>
  match t.token with
  | .lineEnd => true
  | .mark m => m == ";"
  | _ => false

def regexOf (source : Octets) : Reading Regex := do
  match Regex.read .awk source with
  | .ok r => return r
  | .error fault => throw (.badRegex (((← get).head?.map (·.line)).getD 1) fault source)

def assignments : List (String × Option Operator) :=
  [("=", none), ("+=", some .add), ("-=", some .subtract), ("*=", some .multiply),
    ("/=", some .divide), ("%=", some .remainder), ("^=", some .power)]

def comparisons : List (String × Comparison) :=
  [("<", .less), ("<=", .atMost), ("==", .equal), ("!=", .unequal), (">=", .atLeast),
    (">", .greater)]

def isPlace : Expr → Bool
  | .name _ => true
  | .field _ => true
  | .element .. => true
  | _ => false

/-- An operand can start with the token, so that two values stand side by side. -/
def startsOperand (t : Option Token) : Bool :=
  match t with
  | some (.number _) => true
  | some (.text _) => true
  | some (.regex _) => true
  | some (.name _) => true
  | some (.function _) => true
  | some (.builtin _) => true
  | some (.mark m) => ["$", "!", "(", "++", "--"].contains m
  | _ => false

mutual

/-- An expression with all operators. -/
def expr (fuel : Nat) (s : Scope) : Reading Expr :=
  match fuel with
  | 0 => unexpected
  | fuel + 1 => do
    let a ← choice fuel s
    match ← peek with
    | some (.mark m) =>
      match assignments.find? (·.1 == m) with
      | some (_, op) =>
        if isPlace a then
          drop
          skipLines
          return .assign a op (← expr fuel s)
        else unexpected
      | none => return a
    | _ => return a

def choice (fuel : Nat) (s : Scope) : Reading Expr :=
  match fuel with
  | 0 => unexpected
  | fuel + 1 => do
    let condition ← either fuel s
    if ← accept "?" then
      skipLines
      let yes ← expr fuel s
      skipLines
      expect ":"
      skipLines
      return .choice condition yes (← expr fuel s)
    else return condition

def either (fuel : Nat) (s : Scope) : Reading Expr :=
  match fuel with
  | 0 => unexpected
  | fuel + 1 => do eitherMore fuel s (← both fuel s)

def eitherMore (fuel : Nat) (s : Scope) (a : Expr) : Reading Expr :=
  match fuel with
  | 0 => unexpected
  | fuel + 1 => do
    if ← accept "||" then
      skipLines
      eitherMore fuel s (.either a (← both fuel s))
    else return a

def both (fuel : Nat) (s : Scope) : Reading Expr :=
  match fuel with
  | 0 => unexpected
  | fuel + 1 => do bothMore fuel s (← membership fuel s)

def bothMore (fuel : Nat) (s : Scope) (a : Expr) : Reading Expr :=
  match fuel with
  | 0 => unexpected
  | fuel + 1 => do
    if ← accept "&&" then
      skipLines
      bothMore fuel s (.both a (← membership fuel s))
    else return a

def membership (fuel : Nat) (s : Scope) : Reading Expr :=
  match fuel with
  | 0 => unexpected
  | fuel + 1 => do membershipMore fuel s (← matching fuel s)

def membershipMore (fuel : Nat) (s : Scope) (a : Expr) : Reading Expr :=
  match fuel with
  | 0 => unexpected
  | fuel + 1 => do
    if s.readsMember && isKeyword (← peek) "in" then
      drop
      match ← peek with
      | some (.name array) =>
        drop
        let keys := match a with
          | .group items => items
          | _ => [a]
        membershipMore fuel s (.member keys array)
      | _ => unexpected
    else return a

def matching (fuel : Nat) (s : Scope) : Reading Expr :=
  match fuel with
  | 0 => unexpected
  | fuel + 1 => do matchingMore fuel s (← comparison fuel s)

def matchingMore (fuel : Nat) (s : Scope) (a : Expr) : Reading Expr :=
  match fuel with
  | 0 => unexpected
  | fuel + 1 => do
    if ← accept "~" then matchingMore fuel s (.fits false a (← comparison fuel s))
    else if ← accept "!~" then matchingMore fuel s (.fits true a (← comparison fuel s))
    else return a

def comparison (fuel : Nat) (s : Scope) : Reading Expr :=
  match fuel with
  | 0 => unexpected
  | fuel + 1 => do
    let a ← pipedLine fuel s (← joining fuel s)
    match ← peek with
    | some (.mark m) =>
      match comparisons.find? (·.1 == m) with
      | some (_, op) =>
        if m = ">" && !s.comparesGreater then return a
        else
          drop
          return .compare op a (← joining fuel s)
      | none => return a
    | _ => return a

/-- A line from a command whose text stands in front of a bar. -/
def pipedLine (fuel : Nat) (s : Scope) (a : Expr) : Reading Expr :=
  match fuel with
  | 0 => unexpected
  | fuel + 1 => do
    match ← get with
    | ⟨.mark "|", _⟩ :: ⟨.keyword "getline", _⟩ :: rest =>
      set rest
      pipedLine fuel s (.getline (← place? fuel) (some (.command a)))
    | _ => return a

/-- A place for a value, if one comes next. -/
def place? (fuel : Nat) : Reading (Option Expr) :=
  match fuel with
  | 0 => unexpected
  | fuel + 1 => do
    match ← peek with
    | some (.name _) => return some (← single fuel)
    | some (.mark "$") => return some (← single fuel)
    | _ => return none

def joining (fuel : Nat) (s : Scope) : Reading Expr :=
  match fuel with
  | 0 => unexpected
  | fuel + 1 => do joiningMore fuel s (← sum fuel s)

def joiningMore (fuel : Nat) (s : Scope) (a : Expr) : Reading Expr :=
  match fuel with
  | 0 => unexpected
  | fuel + 1 => do
    if startsOperand (← peek) then joiningMore fuel s (.joined a (← sum fuel s))
    else return a

def sum (fuel : Nat) (s : Scope) : Reading Expr :=
  match fuel with
  | 0 => unexpected
  | fuel + 1 => do sumMore fuel s (← product fuel s)

def sumMore (fuel : Nat) (s : Scope) (a : Expr) : Reading Expr :=
  match fuel with
  | 0 => unexpected
  | fuel + 1 => do
    if ← accept "+" then sumMore fuel s (.arithmetic .add a (← product fuel s))
    else if ← accept "-" then sumMore fuel s (.arithmetic .subtract a (← product fuel s))
    else return a

def product (fuel : Nat) (s : Scope) : Reading Expr :=
  match fuel with
  | 0 => unexpected
  | fuel + 1 => do productMore fuel s (← signed fuel s)

def productMore (fuel : Nat) (s : Scope) (a : Expr) : Reading Expr :=
  match fuel with
  | 0 => unexpected
  | fuel + 1 => do
    if ← accept "*" then productMore fuel s (.arithmetic .multiply a (← signed fuel s))
    else if ← accept "/" then productMore fuel s (.arithmetic .divide a (← signed fuel s))
    else if ← accept "%" then productMore fuel s (.arithmetic .remainder a (← signed fuel s))
    else return a

def signed (fuel : Nat) (s : Scope) : Reading Expr :=
  match fuel with
  | 0 => unexpected
  | fuel + 1 => do
    if ← accept "!" then return .negated (← signed fuel s)
    else if ← accept "-" then return .minus (← signed fuel s)
    else if ← accept "+" then return .plus (← signed fuel s)
    else power fuel s

/-- A power, which ties tighter than a sign in front; a sign may stand in the exponent. -/
def power (fuel : Nat) (s : Scope) : Reading Expr :=
  match fuel with
  | 0 => unexpected
  | fuel + 1 => do
    let a ← stepped fuel
    if ← accept "^" then
      return .arithmetic .power a (← signed fuel s)
    else return a

def stepped (fuel : Nat) : Reading Expr :=
  match fuel with
  | 0 => unexpected
  | fuel + 1 => do
    if ← accept "++" then return .step true .add (← single fuel)
    else if ← accept "--" then return .step true .subtract (← single fuel)
    else
      let a ← single fuel
      if !isPlace a then return a
      else if ← accept "++" then return .step false .add a
      else if ← accept "--" then return .step false .subtract a
      else return a

/-- A value without operators around it. -/
def single (fuel : Nat) : Reading Expr :=
  match fuel with
  | 0 => unexpected
  | fuel + 1 => do
    match ← peek with
    | some (.number x) =>
      drop
      return .number x
    | some (.text cs) =>
      drop
      return .text cs
    | some (.regex source) =>
      drop
      return .regex (← regexOf source)
    | some (.name n) =>
      drop
      if ← accept "[" then return .element n (← items fuel "]")
      else return .name n
    | some (.function n) =>
      drop
      expect "("
      return .call n (← items fuel ")")
    | some (.builtin n) =>
      drop
      if ← accept "(" then return .builtin n (← items fuel ")")
      else if n = "length".toList then return .builtin n []
      else unexpected
    | some (.keyword "getline") =>
      drop
      let place ← place? fuel
      if ← accept "<" then return .getline place (some (.file (← stepped fuel)))
      else return .getline place none
    | some (.mark m) =>
      if m = "(" then
        drop
        let inner ← items fuel ")"
        if inner.isEmpty then unexpected else return .group inner
      else if m = "$" then
        drop
        if ← accept "++" then return .field (.step true .add (← single fuel))
        else if ← accept "--" then return .field (.step true .subtract (← single fuel))
        else if ← accept "-" then return .field (.minus (← single fuel))
        else return .field (← single fuel)
      else if m = "-" then
        drop
        return .minus (← signed fuel inside)
      else if m = "!" then
        drop
        return .negated (← signed fuel inside)
      else unexpected
    | _ => unexpected

/-- Expressions between commas up to a closing mark. -/
def items (fuel : Nat) (closing : String) : Reading (List Expr) :=
  match fuel with
  | 0 => unexpected
  | fuel + 1 => do
    skipLines
    if ← accept closing then return []
    else
      let e ← expr fuel inside
      skipLines
      if ← accept "," then
        let rest ← items fuel closing
        if rest.isEmpty then unexpected else return e :: rest
      else if ← accept closing then return [e]
      else notClosed

end

/-- The expressions of a command that prints, with nothing around them. -/
def outputItems (fuel : Nat) : Reading (List Expr) :=
  match fuel with
  | 0 => unexpected
  | fuel + 1 => do
    let e ← expr fuel ⟨false, true⟩
    if ← accept "," then
      skipLines
      return e :: (← outputItems fuel)
    else
      return match e with
        | .group inner => inner
        | _ => [e]

/-- Nothing more of a simple statement follows. -/
def endsStatement (t : Option Token) : Bool :=
  match t with
  | none => true
  | some .lineEnd => true
  | some (.mark m) => [";", "\x7d", ">", ">>", "|"].contains m
  | _ => false

def target? (fuel : Nat) : Reading (Option Target) := do
  if ← accept ">" then return some (.file (← choice fuel ⟨false, true⟩))
  else if ← accept ">>" then return some (.append (← choice fuel ⟨false, true⟩))
  else if ← accept "|" then return some (.command (← choice fuel ⟨false, true⟩))
  else return none

/-- The end of a simple statement. -/
def finish : Reading Unit := do
  match ← peek with
  | none => return ()
  | some .lineEnd => drop
  | some (.mark m) => if m = ";" then drop else if m = "\x7d" then return () else unexpected
  | _ => unexpected

/-- A statement without others in it. -/
def simple (fuel : Nat) : Reading Statement := do
  match ← peek with
  | some (.keyword "print") =>
    drop
    let items ← if endsStatement (← peek) then pure [] else outputItems fuel
    return .print items (← target? fuel)
  | some (.keyword "printf") =>
    drop
    let items ← if endsStatement (← peek) then pure [] else outputItems fuel
    if items.isEmpty then unexpected else return .printFormat items (← target? fuel)
  | some (.keyword "delete") =>
    drop
    match ← peek with
    | some (.name array) =>
      drop
      if ← accept "[" then return .delete array (← items fuel "]")
      else return .delete array []
    | _ => unexpected
  | _ => return .expression (← expr fuel inside)

mutual

/-- A statement, with its end. -/
def statement (fuel : Nat) : Reading Statement :=
  match fuel with
  | 0 => unexpected
  | fuel + 1 => do
    match ← peek with
    | some (.mark "\x7b") =>
      drop
      block fuel
    | some (.mark ";") =>
      drop
      return .nothing
    | some (.keyword "if") =>
      drop
      expect "("
      let condition ← expr fuel inside
      expect ")"
      skipLines
      let yes ← statement fuel
      let before ← get
      skipEnds
      if ← acceptKeyword "else" then
        skipLines
        return .branch condition yes (← statement fuel)
      else
        set before
        return .branch condition yes .nothing
    | some (.keyword "while") =>
      drop
      expect "("
      let condition ← expr fuel inside
      expect ")"
      if ← accept ";" then return .loop condition .nothing .nothing
      else
        skipLines
        return .loop condition .nothing (← statement fuel)
    | some (.keyword "do") =>
      drop
      skipLines
      let body ← statement fuel
      skipEnds
      if ← acceptKeyword "while" then
        expect "("
        let condition ← expr fuel inside
        expect ")"
        finish
        return .loopAfter body condition
      else unexpected
    | some (.keyword "for") =>
      drop
      expect "("
      forLoop fuel
    | some (.keyword "break") =>
      drop
      finish
      return .leave
    | some (.keyword "continue") =>
      drop
      finish
      return .again
    | some (.keyword "next") =>
      drop
      finish
      return .next
    | some (.keyword "exit") =>
      drop
      let status ← if endsStatement (← peek) then pure none else some <$> expr fuel inside
      finish
      return .exit status
    | some (.keyword "return") =>
      drop
      let value ← if endsStatement (← peek) then pure none else some <$> expr fuel inside
      finish
      return .back value
    | _ =>
      let s ← simple fuel
      finish
      return s

/-- A loop behind its opening parenthesis. -/
def forLoop (fuel : Nat) : Reading Statement :=
  match fuel with
  | 0 => unexpected
  | fuel + 1 => do
    match ← get with
    | ⟨.name n, _⟩ :: ⟨.keyword "in", _⟩ :: ⟨.name array, _⟩ :: ⟨.mark ")", _⟩ :: rest =>
      set rest
      skipLines
      return .each n array (← statement fuel)
    | _ =>
      let first ← if isMark (← peek) ";" then pure .nothing else simple fuel
      expect ";"
      skipLines
      let condition ← if isMark (← peek) ";" then pure (Expr.number 1) else expr fuel inside
      expect ";"
      skipLines
      let step ← if isMark (← peek) ")" then pure .nothing else simple fuel
      expect ")"
      if ← accept ";" then return .sequence first (.loop condition step .nothing)
      else
        skipLines
        return .sequence first (.loop condition step (← statement fuel))

/-- Statements up to a closing brace. -/
def block (fuel : Nat) : Reading Statement :=
  match fuel with
  | 0 => unexpected
  | fuel + 1 => do
    skipEnds
    if ← accept "\x7d" then return .nothing
    else
      let s ← statement fuel
      return .sequence s (← block fuel)

end

/-- The names of parameters up to the closing parenthesis. -/
def parameters (fuel : Nat) : Reading (List Octets) :=
  match fuel with
  | 0 => unexpected
  | fuel + 1 => do
    skipLines
    match ← peek with
    | some (.mark ")") =>
      drop
      return []
    | some (.name n) =>
      drop
      skipLines
      if ← accept "," then return n :: (← parameters fuel)
      else
        expect ")"
        return [n]
    | _ => unexpected

def action? (fuel : Nat) : Reading (Option Statement) := do
  if ← accept "\x7b" then return some (← block fuel) else return none

/-- All rules and functions. -/
def program (fuel : Nat) (p : Program) : Reading Program :=
  match fuel with
  | 0 => unexpected
  | fuel + 1 => do
    skipEnds
    match ← peek with
    | none => return p
    | some (.keyword "BEGIN") =>
      drop
      let action ← action? fuel
      if action.isNone then unexpected
      else program fuel { p with rules := p.rules ++ [⟨.atStart, action⟩] }
    | some (.keyword "END") =>
      drop
      let action ← action? fuel
      if action.isNone then unexpected
      else program fuel { p with rules := p.rules ++ [⟨.atEnd, action⟩] }
    | some (.keyword "function") =>
      drop
      let name ← match ← peek with
        | some (.function n) => pure n
        | some (.name n) => pure n
        | _ => unexpected
      drop
      expect "("
      let names ← parameters fuel
      skipLines
      expect "\x7b"
      let body ← block fuel
      program fuel { p with functions := p.functions ++ [⟨name, names, body⟩] }
    | some (.mark "\x7b") =>
      let action ← action? fuel
      program fuel { p with rules := p.rules ++ [⟨.always, action⟩] }
    | _ =>
      let first ← expr fuel inside
      let condition ← if ← accept "," then
          skipLines
          pure (Condition.between first (← expr fuel inside))
        else pure (Condition.holds first)
      let action ← action? fuel
      if action.isNone then finish
      program fuel { p with rules := p.rules ++ [⟨condition, action⟩] }

end Reading

/-- The first function in a row of calls that the program does not have. -/
def missing? (p : Program) (ts : List Located) : Option Octets :=
  ts.findSome? fun t => match t.token with
    | .function n => if p.functions.any (·.name == n) then none else some n
    | _ => none

/-- The program that a text spells. -/
def read (source : Octets) : Except Fault Program :=
  match tokens (source.length + 1) 1 .lineEnd source with
  | .error fault => .error fault
  | .ok ts =>
    let lines := source.count '\n' + 1
    match (Reading.program (20 * ts.length + 60) ⟨[], []⟩).run ts with
    | .ok (p, _) => match missing? p ts with
      | some n => .error (.undefined (lines + 1) n)
      | none => .ok p
    | .error (.openBlock _) => .error (.openBlock (lines + 1))
    | .error fault => .error fault

end Signoff.Shell.Awk
