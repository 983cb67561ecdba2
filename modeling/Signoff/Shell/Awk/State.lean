import Signoff.Shell.Awk.Value
import Signoff.Shell.Utility.Basic

/-!
# The state of a program of the pattern language

Variables and arrays by their names, the current line and its fields, and all that is open for
reading and writing.
-/

namespace Signoff.Shell.Awk

/-- What a name stands for. A name that was handed to a function before it stood for anything may
yet become the array of a number. -/
inductive Slot
  | unset
  | scalar (v : Value)
  | array (number : Nat)
  | maybe (number : Nat)

/-- Why the course of statements is left. -/
inductive Stop
  | leave
  | again
  | next
  | exit
  | back (value : Value)
  /-- An error on the way, of which the place in the input is told. -/
  | failed (message : Octets)
  | broken (message : Octets)
  | endless

/-- What is written to: nothing yet, a file, or the input of a command. -/
structure Writer where
  name : Octets
  isCommand : Bool
  /-- The input of the command so far, the last part first. -/
  text : List Octets

def Writer.take (name cs : Octets) (w : Writer) : Writer :=
  if w.name = name && w.isCommand then { w with text := cs :: w.text } else w

/-- What is left to read of a file or of the output of a command. -/
structure Feed where
  name : Octets
  isCommand : Bool
  rest : Octets
  /-- The status of the command. -/
  status : Nat

structure State where
  desk : Desk
  /-- What was said, the last part first. -/
  said : List Said
  /-- What is printed and still held back, the last part first. -/
  pending : List Octets
  globals : List (Octets × Slot)
  locals : List (Octets × Slot)
  /-- How many functions are under way. -/
  depth : Nat
  arrays : Array (List (Octets × Value))
  record : Value
  fields : Array Value
  /-- What is left of the current input. -/
  current : Option Octets
  /-- How many arguments were used. -/
  used : Nat
  /-- Some argument was a file. -/
  hasFile : Bool
  sources : List Feed
  writers : List Writer
  /-- The rules whose range of lines is open. -/
  open_ : List Nat
  status : Nat
  seed : Value

/-- Steps of a program. -/
abbrev Act := ExceptT Stop (StateM State)

namespace Act

def fail {α : Type} (message : Octets) : Act α := throw (.failed message)

def slot (name : Octets) : Act Slot := do
  let s ← get
  match s.locals.find? (·.1 == name) with
  | some (_, v) => return v
  | none => return ((s.globals.find? (·.1 == name)).map (·.2)).getD .unset

def replaceSlot (name : Octets) (v : Slot) : List (Octets × Slot) → List (Octets × Slot)
  | [] => [(name, v)]
  | entry :: rest => if entry.1 = name then (name, v) :: rest else entry :: replaceSlot name v rest

def setGlobal (name : Octets) (v : Slot) : Act Unit :=
  modify fun s => { s with globals := replaceSlot name v s.globals }

def setSlot (name : Octets) (v : Slot) : Act Unit := do
  if (← get).locals.any (·.1 == name) then
    modify fun s => { s with locals := replaceSlot name v s.locals }
  else setGlobal name v

def newArray : Act Nat := do
  let n := (← get).arrays.size
  modify fun s => { s with arrays := s.arrays.push [] }
  return n

/-- The number of the array of a name. -/
def arrayOf (name : Octets) : Act Nat := do
  match ← slot name with
  | .array n => return n
  | .maybe n =>
    setSlot name (.array n)
    return n
  | .unset =>
    let n ← newArray
    setSlot name (.array n)
    return n
  | .scalar _ => throw (.broken (octets "line 1: type error in " ++ name))

def scalar (name : Octets) : Act Value := do
  match ← slot name with
  | .scalar v => return v
  | .array _ => throw (.broken (octets "line 1: illegal reference to array " ++ name))
  | _ => return .unset

/-- The text of a special variable. -/
def special (name : String) : Act Octets := do
  let found : Option Slot := ((← get).globals.find? (·.1 == name.toList)).map (·.2)
  match found with
  | some (.scalar v) => return v.shown (octets "%.6g")
  | _ => return []

def text (v : Value) : Act Octets := return v.shown (← special "CONVFMT")

def setSpecial (name : String) (v : Value) : Act Unit := setGlobal name.toList (.scalar v)

def elements (n : Nat) : Act (List (Octets × Value)) := return ((← get).arrays[n]?).getD []

def setElements (n : Nat) (es : List (Octets × Value)) : Act Unit :=
  modify fun s => { s with arrays := s.arrays.setIfInBounds n es }

def replaceElement (key : Octets) (v : Value) : List (Octets × Value) → List (Octets × Value)
  | [] => [(key, v)]
  | entry :: rest =>
    if entry.1 = key then (key, v) :: rest else entry :: replaceElement key v rest

def setElement (n : Nat) (key : Octets) (v : Value) : Act Unit :=
  modify fun s => { s with arrays := s.arrays.modify n (replaceElement key v) }

/-- The value of an element, which is there from now on. -/
def element (n : Nat) (key : Octets) : Act Value := do
  match (← elements n).find? (·.1 == key) with
  | some (_, v) => return v
  | none =>
    setElement n key .unset
    return .unset

/-! ## The line and its fields -/

def separator : Act Separator := do
  match separatorOf (← special "FS") with
  | .ok s => return s
  | .error fault => throw (.broken (regexMessage fault (← special "FS")))

/-- Takes a line apart. -/
def setRecord (v : Value) : Act Unit := do
  let cs ← text v
  let fields := (fieldsOf (← separator) ((← special "RS").isEmpty) cs).map Value.input
  modify fun s => { s with record := v, fields := fields.toArray }
  setSpecial "NF" (.ofNat fields.length)

/-- Puts the line together from its fields. -/
def joinFields : Act Unit := do
  let separator ← special "OFS"
  let texts ← (← get).fields.toList.mapM text
  modify fun s => { s with record := .input (joined separator texts) }

/-- The number of a field from a value. -/
def fieldNumber (v : Value) : Act Nat := do
  let n := truncated (ofFloat v.toNumber)
  if n < 0 then fail (octets s!"negative field index $" ++ octets (toString n)) else return n.toNat

def field (n : Nat) : Act Value := do
  let s ← get
  if n = 0 then return s.record else return (s.fields[n - 1]?).getD .unset

def setFieldCount (n : Nat) : Act Unit := do
  modify fun s =>
    { s with fields := (s.fields.extract 0 n) ++ Array.replicate (n - s.fields.size) (.text []) }
  setSpecial "NF" (.ofNat n)
  joinFields

def setField (n : Nat) (v : Value) : Act Unit := do
  if n = 0 then setRecord (.input (← text v))
  else
    let size := (← get).fields.size
    if size < n then setFieldCount n
    modify fun s => { s with fields := s.fields.setIfInBounds (n - 1) v }
    joinFields

def setScalar (name : Octets) (v : Value) : Act Unit := do
  match ← slot name with
  | .array _ => throw (.broken (octets "line 1: illegal reference to array " ++ name))
  | _ =>
    setSlot name (.scalar v)
    if name = ['N', 'F'] then setFieldCount (truncated (ofFloat v.toNumber)).toNat

/-! ## Output -/

def print (cs : Octets) : Act Unit := modify fun s => { s with pending := cs :: s.pending }

/-- Nothing that was printed is held back any more. -/
def flush : Act Unit := modify fun s => { s with
  said := .output s.pending.reverse.flatten :: s.said, pending := [] }

def complain (cs : Octets) : Act Unit := modify fun s => { s with said := .complaint cs :: s.said }

/-- Takes in what a command left. -/
def takeEnded (e : Ended) : Act Unit :=
  modify fun s => { s with
    desk := { s.desk with files := e.files }
    said := e.said.reverse ++ s.said }

/-- Writes to a file, which is empty when it is opened unless more is put at its end. -/
def writeFile (name cs : Octets) (appends : Bool) : Act Unit := do
  let s ← get
  let d := s.desk
  let isOpen := s.writers.any fun w => w.name == name && !w.isCommand
  let before := if isOpen || appends then ((d.files.read (d.path name)).toOption).getD
      ByteArray.empty
    else ByteArray.empty
  match d.files.write (d.path name) (before ++ fileContent cs) with
  | .ok files =>
    set { s with
      desk := { d with files }
      writers := if isOpen then s.writers else s.writers ++ [Writer.mk name false []] }
  | .error fault =>
    throw (.broken (octets "cannot open \"" ++ name ++
      octets s!"\" for output ({reasonOf fault})"))

/-- Writes to the input of a command. What was printed before it began stands in front of its own
output. -/
def feedCommand (name cs : Octets) : Act Unit := do
  if (← get).writers.any (fun w => w.name == name && w.isCommand) then
    modify fun s => { s with writers := s.writers.map (Writer.take name cs) }
  else
    flush
    modify fun s => { s with writers := s.writers ++ [Writer.mk name true [cs]] }

def put (target : Option (Bool × Bool × Octets)) (cs : Octets) : Act Unit :=
  match target with
  | none => print cs
  | some (isCommand, appends, name) =>
    if isCommand then feedCommand name cs
    else if name = octets "/dev/stdout" || name = ['-'] then print cs
    else if name = octets "/dev/stderr" then complain cs
    else if name = octets "/dev/null" then return ()
    else writeFile name cs appends

/-! ## Input -/

/-- The first line of a text and what follows its end, as a separator of lines says. -/
def takeRecord (separator : Octets) (cs : Octets) : Except Regex.Fault (Option (Octets × Octets)) :=
  let upTo (c : Char) (cs : Octets) : Option (Octets × Octets) :=
    if cs.isEmpty then none
    else
      let line := cs.takeWhile (· != c)
      some (line, cs.drop (line.length + 1))
  match separator with
  | [c] => .ok (upTo c cs)
  | [] =>
    let cs := cs.dropWhile (· == '\n')
    if cs.isEmpty then .ok none
    else
      let lines := (cutAt '\n' cs).takeWhile (!·.isEmpty)
      let taken := joined ['\n'] lines
      .ok (some (taken, cs.drop (taken.length + 1)))
  | _ => match Regex.read .awk separator with
    | .error fault => .error fault
    | .ok r =>
      if cs.isEmpty then .ok none
      else
        let text := cs.toArray
        match (Regex.findAll r ⟨text, false⟩).find? fun m => m.start < m.stop with
        | some m => .ok (some ((text.extract 0 m.start).toList,
            (text.extract m.stop text.size).toList))
        | none => .ok (some (cs, []))

def record? (cs : Octets) : Act (Option (Octets × Octets)) := do
  match takeRecord (← special "RS") cs with
  | .ok r => return r
  | .error fault => throw (.broken (regexMessage fault (← special "RS")))

/-- Gives a variable the value that an argument spells. -/
def assignArgument (a : Octets) : Act Bool := do
  let name := a.takeWhile (· != '=')
  if isName name && name.length < a.length then
    let value := a.drop (name.length + 1)
    setScalar name (.input (unescape (value.length + 1) value))
    return true
  else return false
where
  isName (cs : Octets) : Bool :=
    match cs with
    | c :: rest => (c.isAlpha || c == '_') && rest.all fun d => d.isAlphanum || d == '_'
    | [] => false

/-- Opens the next input; nothing if there is none. -/
def openNext (fuel : Nat) : Act Bool :=
  match fuel with
  | 0 => return false
  | fuel + 1 => do
    let s ← get
    let count := (truncated (ofFloat (← scalar "ARGC".toList).toNumber)).toNat
    let used := if s.used = 0 then 1 else s.used
    let standard : Act Bool := do
      modify fun s => { s with
        current := some s.desk.input, hasFile := true
        desk := { s.desk with input := [] } }
      setSpecial "FILENAME" (.text ['-'])
      setSpecial "FNR" (.ofNat 0)
      return true
    if count ≤ used then
      modify fun s => { s with used := count + 1 }
      if s.hasFile || count < s.used then return false else standard
    else
      modify fun s => { s with used := used + 1 }
      let arguments ← elements (← arrayOf "ARGV".toList)
      match (arguments.find? (·.1 == Text.digitsOf used)).map (·.2) with
      | none => openNext fuel
      | some v =>
        let a ← text v
        if a.isEmpty then openNext fuel
        else if ← assignArgument a then openNext fuel
        else if a = ['-'] then standard
        else
          match s.desk.content a with
          | .error .isADirectory => throw (.broken (octets "read error (Is a directory)"))
          | .error fault =>
            throw (.broken (octets "cannot open \"" ++ a ++ octets s!"\" ({reasonOf fault})"))
          | .ok cs =>
            modify fun s => { s with current := some cs, hasFile := true }
            setSpecial "FILENAME" (.text a)
            setSpecial "FNR" (.ofNat 0)
            return true

/-- One more line was read. -/
def countUp (name : String) : Act Unit := do
  let v ← scalar name.toList
  setSpecial name (.number (v.toNumber + 1))

/-- The next line of all inputs. -/
def nextLine? (fuel : Nat) : Act (Option Octets) :=
  match fuel with
  | 0 => return none
  | fuel + 1 => do
    match (← get).current with
    | none => if ← openNext (fuel + 1) then nextLine? fuel else return none
    | some cs =>
      match ← record? cs with
      | none =>
        modify fun s => { s with current := none }
        nextLine? fuel
      | some (line, rest) =>
        modify fun s => { s with current := some rest }
        countUp "NR"
        countUp "FNR"
        return some line

end Act

end Signoff.Shell.Awk
