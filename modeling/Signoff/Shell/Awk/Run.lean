import Signoff.Shell.Awk.Reader
import Signoff.Shell.Awk.State

/-!
# Running programs of the pattern language

Statements and expressions are carried out together, since each may need the other. Fuel bounds the
turns of loops and the depth of calls; a program that needs more counts as one without end.
-/

namespace Signoff.Shell.Awk

/-- What a program finds besides its state. -/
structure Surroundings where
  /-- The name that the program was called by. -/
  name : Octets
  functions : List Function
  /-- Carries out a command with an input. -/
  carryOut : Desk → Octets → Octets → Ended

/-- A place that can hold a value. -/
inductive Place
  | named (name : Octets)
  | field (index : Nat)
  | element (array : Nat) (key : Octets)

namespace Act

/-- How many lines one input can be asked for at most. -/
def lineFuel : Nat := 1000000

/-- How deep functions may call each other. -/
def callLimit : Nat := 1000

/-- Carries out a step and tells why it was left. -/
def attempt (a : Act Unit) : Act (Option Stop) := fun s =>
  match a s with
  | (.ok _, t) => (.ok none, t)
  | (.error e, t) => (.ok (some e), t)

def valueAt (p : Place) : Act Value :=
  match p with
  | .named name => scalar name
  | .field n => field n
  | .element array key => element array key

def setAt (p : Place) (v : Value) : Act Unit :=
  match p with
  | .named name => setScalar name v
  | .field n => setField n v
  | .element array key => setElement array key v

/-- The regular expression that a text spells. -/
def regexOf (cs : Octets) : Act Regex :=
  match Regex.read .awk cs with
  | .ok r => return r
  | .error fault => throw (.broken (octets "line 1: " ++ regexMessage fault cs))

def firstMatch (r : Regex) (cs : Octets) : Option Regex.Match :=
  Regex.find? r ⟨cs.toArray, false⟩ 0

/-! ## Commands -/

/-- Lets a command run with an input of its own or with what is left of the program's. -/
def carryOut (w : Surroundings) (command : Octets) (input : Option Octets) : Act Ended := do
  let d := (← get).desk
  let e := w.carryOut d command (input.getD d.input)
  modify fun s => { s with
    desk := { s.desk with
      files := e.files, input := if input.isNone then e.restOfInput else s.desk.input }
    said := .complaint e.complaint :: s.said }
  return e

/-- Prints at once, in front of what is still held back. -/
def printAtOnce (cs : Octets) : Act Unit := modify fun s => { s with said := .output cs :: s.said }

def runWriter (w : Surroundings) (writer : Writer) : Act Nat := do
  let e ← carryOut w writer.name (some writer.text.reverse.flatten)
  printAtOnce e.output
  return e.status

/-- Closes all that is open under a name; -1 if nothing is. -/
def close (w : Surroundings) (name : Octets) : Act Float := do
  let s ← get
  match s.writers.find? (·.name == name), s.sources.find? (·.name == name) with
  | some writer, _ =>
    set { s with writers := s.writers.filter (·.name != name) }
    if writer.isCommand then return Float.ofNat (← runWriter w writer) else return 0
  | none, some source =>
    set { s with sources := s.sources.filter (·.name != name) }
    return Float.ofNat source.status
  | none, none => return -1

/-- What can be read under a name, which is opened if need be; nothing if that fails. -/
def feed? (w : Surroundings) (isCommand : Bool) (name : Octets) : Act (Option Feed) := do
  let s ← get
  match s.sources.find? fun f => f.name == name && f.isCommand == isCommand with
  | some f => return some f
  | none =>
    let opened ← if isCommand then do
        flush
        let e ← carryOut w name none
        pure (some (Feed.mk name true e.output e.status))
      else match s.desk.content name with
        | .ok cs => do
          if name = ['-'] || name = "/dev/stdin".toList then
            modify fun s => { s with desk := { s.desk with input := [] } }
          pure (some (Feed.mk name false cs 0))
        | .error _ => pure none
    match opened with
    | none => return none
    | some f =>
      modify fun s => { s with sources := s.sources ++ [f] }
      return some f

def Feed.leave (rest : Octets) (f g : Feed) : Feed :=
  if g.name = f.name && g.isCommand == f.isCommand then { g with rest } else g

/-- A line for a place, or for the whole line. -/
def takeLine (place : Option Place) (line : Octets) : Act Unit :=
  match place with
  | none => setRecord (.input line)
  | some p => setAt p (.input line)

/-- Reads a line: 1 if there was one, 0 at the end, -1 if there is nothing to read. -/
def readLine (w : Surroundings) (place : Option Place) (source : Option (Bool × Octets)) :
    Act Float := do
  match source with
  | none =>
    match ← nextLine? lineFuel with
    | none => return 0
    | some line =>
      takeLine place line
      return 1
  | some (isCommand, name) =>
    match ← feed? w isCommand name with
    | none => return -1
    | some f =>
      match ← record? f.rest with
      | none => return 0
      | some (line, rest) =>
        modify fun s => { s with sources := s.sources.map (Feed.leave rest f) }
        takeLine place line
        return 1

/-! ## Functions of the language -/

/-- A part of a text from a position on; positions are rounded. -/
def part (cs : Octets) (start : Float) (size : Option Float) : Octets :=
  let nearest (x : Float) : Int :=
    let b := ofFloat x
    if b.isNaN then 0
    else if !b.isFinite then (if b.negative then -1000000000 else 1000000000)
    else
      let low := x.floor
      let n := truncated (ofFloat low)
      if x - low < 0.5 then n
      else if x - low > 0.5 then n + 1
      else if n % 2 = 0 then n
      else n + 1
  let first := nearest start
  let last := match size with
    | none => (cs.length : Int) + 1
    | some n => nearest (start + n)
  let from_ := if first < 1 then 1 else first
  (cs.drop (from_ - 1).toNat).take (last - from_).toNat

/-- What stands for a match: an ampersand means the match itself. -/
def replacement (found : Octets) : Octets → Octets
  | '\\' :: '&' :: rest => '&' :: replacement found rest
  | '\\' :: '\\' :: rest => '\\' :: replacement found rest
  | '&' :: rest => found ++ replacement found rest
  | c :: rest => c :: replacement found rest
  | [] => []

/-- A text with its first match or all of them replaced, and their number. -/
def replaced (r : Regex) (all : Bool) (template cs : Octets) : Octets × Nat :=
  let text := cs.toArray
  let found := if all then Regex.findAll r ⟨text, false⟩ else (firstMatch r cs).toList
  let (front, place) := found.foldl (fun (front, place) m =>
    (replacement (text.extract m.start m.stop).toList template ::
      (text.extract place m.start).toList :: front, m.stop)) (([] : List Octets), 0)
  (((text.extract place text.size).toList :: front).reverse.flatten, found.length)

/-- The place of a text in another one, from 1 on; 0 if it is not there. -/
def indexOf (wanted : Octets) (fuel place : Nat) (cs : Octets) : Nat :=
  match fuel with
  | 0 => 0
  | fuel + 1 =>
    if wanted.isPrefixOf cs then place
    else match cs with
      | [] => 0
      | _ :: rest => indexOf wanted fuel (place + 1) rest

/-- The next of a row of numbers that look accidental. -/
def nextRandom (n : Nat) : Nat := (n * 1103515245 + 12345) % 2147483648

def wrongCount (f : Octets) : Octets :=
  octets "line 1: wrong number of arguments in call to " ++ f

/-- The functions of one number. -/
def numeric? (f : String) : Option (Float → Float) :=
  match f with
  | "sin" => some Float.sin
  | "cos" => some Float.cos
  | "exp" => some Float.exp
  | "log" => some Float.log
  | "sqrt" => some Float.sqrt
  | "int" => some fun x => if x < 0 then x.ceil else x.floor
  | _ => none

/-- The functions whose arguments are plain values. -/
def plainCall (w : Surroundings) (f : Octets) (args : List Value) : Act Value := do
  match textOf f, args with
  | "length", [] => return .ofNat (← text (← field 0)).length
  | "length", [v] => return .ofNat (← text v).length
  | "substr", [v, start] => return .text (part (← text v) start.toNumber none)
  | "substr", [v, start, size] =>
    return .text (part (← text v) start.toNumber (some size.toNumber))
  | "index", [v, wanted] =>
    let cs ← text v
    return .ofNat (indexOf (← text wanted) (cs.length + 1) 1 cs)
  | "sprintf", format :: values =>
    let format ← text format
    let shown ← special "CONVFMT"
    let out := formatted (Value.shown shown) (format.length + 1) format values
    if out.isShort then
      fail (octets "not enough arguments passed to sprintf(\"" ++ format ++ octets "\")")
    else return .text out.output
  | "atan2", [y, x] => return .number (Float.atan2 y.toNumber x.toNumber)
  | "rand", [] =>
    let n := nextRandom (truncated (ofFloat (← get).seed.toNumber)).toNat
    modify fun s => { s with seed := .ofNat n }
    return .number (Float.ofNat n / 2147483648)
  | "srand", values =>
    let before := (← get).seed
    modify fun s => { s with seed := values.head?.getD (.number 0) }
    return before
  | "tolower", [v] => return .text ((← text v).map Char.toLower)
  | "toupper", [v] => return .text ((← text v).map Char.toUpper)
  | "system", [v] =>
    flush
    let e ← carryOut w (← text v) none
    printAtOnce e.output
    return .ofNat e.status
  | "close", [v] => return .number (← close w (← text v))
  | "fflush", [] =>
    flush
    return .number 0
  | "fflush", [v] =>
    flush
    let name ← text v
    let isOpen := (← get).writers.any (·.name == name)
    return .number (if isOpen then 0 else -1)
  | name, [v] => match numeric? name with
    | some g => return .number (g v.toNumber)
    | none => throw (.broken (wrongCount f))
  | _, _ => throw (.broken (wrongCount f))

/-- The items of a command that prints, with the separator between them. -/
def printedLine (values : List Value) : Act Octets := do
  let format ← special "OFMT"
  let end_ ← special "ORS"
  match values with
  | [] => return (← text (← field 0)) ++ end_
  | _ => return joined (← special "OFS") (values.map (Value.shown format)) ++ end_

/-- The slot that a function gets for an argument that is a bare name. -/
def handOver (name : Octets) : Act Slot := do
  match ← slot name with
  | .unset =>
    let n ← newArray
    setSlot name (.maybe n)
    return .maybe n
  | other => return other

mutual

def eval (w : Surroundings) (fuel : Nat) (e : Expr) : Act Value :=
  match fuel with
  | 0 => throw .endless
  | fuel + 1 =>
    match e with
    | .number x => return .number x
    | .text cs => return .text cs
    | .regex r => do return .ofBool (firstMatch r (← text (← field 0))).isSome
    | .name n => scalar n
    | .field i => do field (← fieldNumber (← eval w fuel i))
    | .element array keys => do
      let key ← evalKey w fuel keys
      element (← arrayOf array) key
    | .assign place op value => do
      let p ← placeOf w fuel place
      let v ← eval w fuel value
      let v ← match op with
        | none => pure v
        | some op => do
          pure (Value.number (compute op (← valueAt p).toNumber v.toNumber))
      setAt p v
      return v
    | .choice condition yes no => do
      if (← eval w fuel condition).isTrue then eval w fuel yes else eval w fuel no
    | .both a b => do
      if (← eval w fuel a).isTrue then return .ofBool (← eval w fuel b).isTrue
      else return .ofBool false
    | .either a b => do
      if (← eval w fuel a).isTrue then return .ofBool true
      else return .ofBool (← eval w fuel b).isTrue
    | .member keys array => do
      let key ← evalKey w fuel keys
      return .ofBool ((← elements (← arrayOf array)).any (·.1 == key))
    | .fits negated subject pattern => do
      let cs ← text (← eval w fuel subject)
      let r ← evalRegex w fuel pattern
      return .ofBool ((firstMatch r cs).isSome != negated)
    | .compare op a b => do
      let x ← eval w fuel a
      let y ← eval w fuel b
      return .ofBool (compareValues (← special "CONVFMT") op x y)
    | .joined a b => do
      let x ← text (← eval w fuel a)
      return .text (x ++ (← text (← eval w fuel b)))
    | .arithmetic op a b => do
      let x ← eval w fuel a
      let y ← eval w fuel b
      return .number (compute op x.toNumber y.toNumber)
    | .negated a => do return .ofBool (!(← eval w fuel a).isTrue)
    | .minus a => do return .number (-(← eval w fuel a).toNumber)
    | .plus a => do return .number (← eval w fuel a).toNumber
    | .step before by_ place => do
      let p ← placeOf w fuel place
      let x := (← valueAt p).toNumber
      let y := compute by_ x 1
      setAt p (.number y)
      return .number (if before then y else x)
    | .call f args => callFunction w fuel f args
    | .builtin f args => callBuiltin w fuel f args
    | .getline place source => do
      let p ← match place with
        | none => pure none
        | some e => some <$> placeOf w fuel e
      let from_ ← match source with
        | none => pure none
        | some (.file e) => do pure (some (false, ← text (← eval w fuel e)))
        | some (.command e) => do pure (some (true, ← text (← eval w fuel e)))
      return .number (← readLine w p from_)
    | .group items => do return ((← evalAll w fuel items).getLast?).getD .unset

def evalAll (w : Surroundings) (fuel : Nat) (es : List Expr) : Act (List Value) :=
  match fuel with
  | 0 => throw .endless
  | fuel + 1 =>
    match es with
    | [] => return []
    | e :: rest => do
      let v ← eval w fuel e
      return v :: (← evalAll w fuel rest)

/-- The key of an element; several values are put together. -/
def evalKey (w : Surroundings) (fuel : Nat) (keys : List Expr) : Act Octets :=
  match fuel with
  | 0 => throw .endless
  | fuel + 1 => do
    let texts ← (← evalAll w fuel keys).mapM text
    return joined (← special "SUBSEP") texts

/-- A regular expression, or one that a text spells. -/
def evalRegex (w : Surroundings) (fuel : Nat) (e : Expr) : Act Regex :=
  match fuel with
  | 0 => throw .endless
  | fuel + 1 =>
    match e with
    | .regex r => return r
    | .group [inner] => evalRegex w fuel inner
    | _ => do regexOf (← text (← eval w fuel e))

def placeOf (w : Surroundings) (fuel : Nat) (e : Expr) : Act Place :=
  match fuel with
  | 0 => throw .endless
  | fuel + 1 =>
    match e with
    | .name n => return .named n
    | .field i => do return .field (← fieldNumber (← eval w fuel i))
    | .element array keys => do
      let key ← evalKey w fuel keys
      return .element (← arrayOf array) key
    | .group [inner] => placeOf w fuel inner
    | _ => throw (.broken (octets "line 1: syntax error"))

def slots (w : Surroundings) (fuel : Nat) (args : List Expr) : Act (List Slot) :=
  match fuel with
  | 0 => throw .endless
  | fuel + 1 =>
    match args with
    | [] => return []
    | .name n :: rest => do
      let first ← handOver n
      return first :: (← slots w fuel rest)
    | e :: rest => do
      let first ← eval w fuel e
      return .scalar first :: (← slots w fuel rest)

def callFunction (w : Surroundings) (fuel : Nat) (name : Octets) (args : List Expr) : Act Value :=
  match fuel with
  | 0 => throw .endless
  | fuel + 1 => do
    match w.functions.find? (·.name == name) with
    | none => fail (octets "function " ++ name ++ octets " never defined")
    | some f =>
      let given ← slots w fuel args
      let s ← get
      if callLimit ≤ s.depth then
        throw (.broken (octets "function call nesting too deep in " ++ name))
      let padding := List.replicate (f.parameters.length - given.length) Slot.unset
      set { s with locals := f.parameters.zip (given ++ padding), depth := s.depth + 1 }
      let stop ← attempt (exec w fuel f.body)
      modify fun t => { t with locals := s.locals, depth := s.depth }
      match stop with
      | none => return .unset
      | some (.back v) => return v
      | some other => throw other

def callBuiltin (w : Surroundings) (fuel : Nat) (f : Octets) (args : List Expr) : Act Value :=
  match fuel with
  | 0 => throw .endless
  | fuel + 1 => do
    match textOf f, args with
    | "length", [.name n] =>
      match ← slot n with
      | .array k => return .ofNat (← elements k).length
      | .maybe k => return .ofNat (← elements k).length
      | _ => plainCall w f [← scalar n]
    | "split", subject :: .name array :: rest =>
      let cs ← text (← eval w fuel subject)
      let separator ← match rest with
        | [] => separator
        | .regex r :: _ => pure (Separator.regex r)
        | e :: _ => do
          let spelled ← text (← eval w fuel e)
          match separatorOf spelled with
          | .ok s => pure s
          | .error fault => throw (.broken (octets "line 1: " ++ regexMessage fault spelled))
      let pieces := fieldsOf separator false cs
      let n ← arrayOf array
      setElements n (pieces.zipIdx.map fun (piece, i) =>
        (Text.digitsOf (i + 1), Value.input piece))
      return .ofNat pieces.length
    | "match", [subject, pattern] =>
      let cs ← text (← eval w fuel subject)
      let (start, size) := match firstMatch (← evalRegex w fuel pattern) cs with
        | some m => (m.start + 1, Float.ofNat (m.stop - m.start))
        | none => (0, -1)
      setSpecial "RSTART" (.ofNat start)
      setSpecial "RLENGTH" (.number size)
      return .ofNat start
    | "sub", pattern :: template :: rest => substitute w fuel false pattern template rest.head?
    | "gsub", pattern :: template :: rest => substitute w fuel true pattern template rest.head?
    | _, _ => plainCall w f (← evalAll w fuel args)

/-- Replaces matches at a place; the number of them is the value. -/
def substitute (w : Surroundings) (fuel : Nat) (all : Bool) (pattern template : Expr)
    (target : Option Expr) : Act Value :=
  match fuel with
  | 0 => throw .endless
  | fuel + 1 => do
    let r ← evalRegex w fuel pattern
    let template ← text (← eval w fuel template)
    let p ← placeOf w fuel (target.getD (.field (.number 0)))
    let (cs, n) := replaced r all template (← text (← valueAt p))
    if n ≠ 0 then setAt p (.text cs)
    return .ofNat n

def targetOf (w : Surroundings) (fuel : Nat) (target : Option Target) :
    Act (Option (Bool × Bool × Octets)) :=
  match fuel with
  | 0 => throw .endless
  | fuel + 1 => do
    match target with
    | none => return none
    | some (.file e) => return some (false, false, ← text (← eval w fuel e))
    | some (.append e) => return some (false, true, ← text (← eval w fuel e))
    | some (.command e) => return some (true, false, ← text (← eval w fuel e))

def exec (w : Surroundings) (fuel : Nat) (s : Statement) : Act Unit :=
  match fuel with
  | 0 => throw .endless
  | fuel + 1 =>
    match s with
    | .nothing => return ()
    | .expression e => do
      let _ ← eval w fuel e
      return ()
    | .print items target => do
      let line ← printedLine (← evalAll w fuel items)
      put (← targetOf w fuel target) line
    | .printFormat items target => do
      match ← evalAll w fuel items with
      | [] => return ()
      | format :: values =>
        let target ← targetOf w fuel target
        let format ← text format
        let out := formatted (Value.shown (← special "CONVFMT")) (format.length + 1) format values
        put target out.output
        if out.isShort then
          fail (octets "not enough arguments passed to printf(\"" ++ format ++ octets "\")")
    | .branch condition yes no => do
      if (← eval w fuel condition).isTrue then exec w fuel yes else exec w fuel no
    | .loop condition step body => do
      if (← eval w fuel condition).isTrue then
        match ← attempt (exec w fuel body) with
        | none =>
          exec w fuel step
          exec w fuel (.loop condition step body)
        | some .again =>
          exec w fuel step
          exec w fuel (.loop condition step body)
        | some .leave => return ()
        | some other => throw other
    | .loopAfter body condition => do
      match ← attempt (exec w fuel body) with
      | none =>
        if (← eval w fuel condition).isTrue then exec w fuel (.loopAfter body condition)
      | some .again =>
        if (← eval w fuel condition).isTrue then exec w fuel (.loopAfter body condition)
      | some .leave => return ()
      | some other => throw other
    | .each name array body => do
      let keys := (← elements (← arrayOf array)).map (·.1)
      execEach w fuel name (inLoopOrder keys) body
    | .sequence first second => do
      exec w fuel first
      exec w fuel second
    | .leave => throw .leave
    | .again => throw .again
    | .next => throw .next
    | .exit status => do
      match status with
      | none => pure ()
      | some e =>
        let v ← eval w fuel e
        modify fun s => { s with
          status := ((truncated (ofFloat v.toNumber)) % 256).toNat }
      throw .exit
    | .back value => do
      match value with
      | none => throw (.back .unset)
      | some e => throw (.back (← eval w fuel e))
    | .delete array keys => do
      let n ← arrayOf array
      if keys.isEmpty then setElements n []
      else
        let key ← evalKey w fuel keys
        setElements n ((← elements n).filter (·.1 != key))

def execEach (w : Surroundings) (fuel : Nat) (name : Octets) (keys : List Octets)
    (body : Statement) : Act Unit :=
  match fuel with
  | 0 => throw .endless
  | fuel + 1 =>
    match keys with
    | [] => return ()
    | key :: rest => do
      setScalar name (.input key)
      match ← attempt (exec w fuel body) with
      | none => execEach w fuel name rest body
      | some .again => execEach w fuel name rest body
      | some .leave => return ()
      | some other => throw other

end

/-! ## Rules -/

/-- The turns that all loops together may take. -/
def turns : Nat := 1000000

def act (w : Surroundings) (action : Option Statement) : Act Unit :=
  match action with
  | some s => exec w turns s
  | none => do put none (← printedLine [])

/-- The rules for the start or the end. -/
def outerRules (w : Surroundings) (atStart : Bool) : List Rule → Act Unit
  | [] => return ()
  | r :: rest => do
    match r.condition with
    | .atStart => if atStart then act w r.action
    | .atEnd => if !atStart then act w r.action
    | _ => pure ()
    outerRules w atStart rest

/-- The rules for one line; `n` is the number of the first of them. -/
def lineRules (w : Surroundings) (n : Nat) : List Rule → Act Unit
  | [] => return ()
  | r :: rest => do
    match r.condition with
    | .always => act w r.action
    | .holds e => if (← eval w turns e).isTrue then act w r.action
    | .between first last =>
      let isOpen := (← get).open_.contains n
      let applies ← if isOpen then pure true else do pure (← eval w turns first).isTrue
      if applies then
        let closes := (← eval w turns last).isTrue
        modify fun s => { s with
          open_ := if closes then s.open_.filter (· != n)
            else if isOpen then s.open_ else n :: s.open_ }
        act w r.action
    | _ => pure ()
    lineRules w (n + 1) rest

def eachLine (w : Surroundings) (rules : List Rule) (fuel : Nat) : Act Unit :=
  match fuel with
  | 0 => throw .endless
  | fuel + 1 => do
    match ← nextLine? lineFuel with
    | none => return ()
    | some line =>
      setRecord (.input line)
      match ← attempt (lineRules w 0 rules) with
      | none => eachLine w rules fuel
      | some .next => eachLine w rules fuel
      | some other => throw other

def isOuter (r : Rule) : Bool :=
  match r.condition with
  | .atStart => true
  | _ => false

def closeAll (w : Surroundings) : List Writer → Act Unit
  | [] => return ()
  | writer :: rest => do
    if writer.isCommand then
      let _ ← runWriter w writer
    closeAll w rest

/-- What is left to do after a failure: it is told, with the place in the input. -/
def tell (w : Surroundings) (stop : Option Stop) : Act Unit := do
  match stop with
  | some (.broken message) =>
    complain (w.name ++ octets ": " ++ message ++ ['\n'])
    modify fun s => { s with status := 2 }
  | some (.failed message) =>
    complain (w.name ++ octets ": run time error: " ++ message ++ octets "\n\tFILENAME=\"" ++
      (← special "FILENAME") ++ octets "\" FNR=" ++ (← special "FNR") ++ octets " NR=" ++
      (← special "NR") ++ ['\n'])
    modify fun s => { s with status := 2 }
  | _ => pure ()

/-- A whole program, and whether it ended at all. -/
def runProgram (w : Surroundings) (p : Program) : Act Bool := do
  let start ← attempt (outerRules w true p.rules)
  let middle ← match start with
    | none => if p.rules.all isOuter then pure none else attempt (eachLine w p.rules lineFuel)
    | stop => pure stop
  let stop ← match middle with
    | none => attempt (outerRules w false p.rules)
    | some .exit => do
      modify fun s => { s with locals := [], depth := 0 }
      attempt (outerRules w false p.rules)
    | stop => pure stop
  tell w stop
  match stop with
  | some .endless => return false
  | _ =>
    closeAll w (← get).writers
    flush
    return true

end Act

end Signoff.Shell.Awk
