import Signoff.Shell.Edit.Run

/-!
# The stream editor as a utility

Its script comes from options or is the first operand; the other operands are the files to edit,
as one stream or each on its own.
-/

namespace Signoff.Shell

namespace Edit

def kinds : OptionKinds :=
  ⟨"nErsuz", "efl", [("quiet", 'n'), ("silent", 'n'), ("expression", 'e'), ("file", 'f'),
    ("regexp-extended", 'E'), ("separate", 's'), ("unbuffered", 'u'), ("null-data", 'z')]⟩

/-- Takes the option to edit in place, and the ending of copies, out of an argument. -/
def inPlace? (a : Octets) : Option (Octets × Octets) :=
  match a with
  | '-' :: '-' :: word =>
    if word.takeWhile (· != '=') = "in-place".toList then
      some ([], (word.dropWhile (· != '=')).tail)
    else none
  | '-' :: letters =>
    let front := letters.takeWhile fun c => ['n', 'E', 'r', 's', 'u', 'z'].contains c
    match letters.drop front.length with
    | 'i' :: ending => some (if front.isEmpty then [] else '-' :: front, ending)
    | _ => none
  | _ => none

/-- The arguments without the option to edit in place. -/
def withoutInPlace : List Octets → Option Octets × List Octets
  | [] => (none, [])
  | a :: rest =>
    if a = ['-', '-'] then (none, a :: rest)
    else if a = ['-', 'e'] || a = ['-', 'f'] then
      let (found, more) := withoutInPlace rest.tail
      (found, a :: rest.head?.toList ++ more)
    else
      let (found, more) := withoutInPlace rest
      match inPlace? a with
      | some (front, ending) => (some ending, if front.isEmpty then more else front :: more)
      | none => (found, a :: more)
termination_by args => args.length
decreasing_by
  · simp only [List.length_tail, List.length_cons]; omega
  · simp only [List.length_cons]; omega

/-- The parts of the script that options give. A part that ends with a backslash goes on. -/
def partsOf (d : Desk) : List (Char × Octets) → Except Failure (List Part)
  | [] => .ok []
  | ('e', text) :: rest => do
    let more ← partsOf d rest
    match text.getLast?, more with
    | some '\\', ⟨source, none⟩ :: others => return ⟨text ++ '\n' :: source, none⟩ :: others
    | _, _ => return ⟨text, none⟩ :: more
  | ('f', name) :: rest => do
    match d.content name with
    | .error fault => throw (.noScriptFile name (reasonOf fault))
    | .ok source => return ⟨source, some name⟩ :: (← partsOf d rest)
  | _ :: rest => partsOf d rest

/-- A first line `#n` asks for no printing. -/
def isSilent (parts : List Part) : Bool :=
  match parts with
  | p :: _ => match p.source with
    | ['#', 'n'] => true
    | '#' :: 'n' :: '\n' :: _ => true
    | _ => false
  | [] => false

def startState (d : Desk) : State :=
  { desk := d, printed := [], owes := false, pattern := [], ended := true, file := [], held := []
    number := 0, lines := [], behind := [], ranges := [], replaced := false, lastRegex := none
    status := none, failure := none }

/-- The content of an input, or the complaint about it. -/
inductive Input
  | lines (name : Octets) (ls : List Line)
  | missing (complaint : Octets)
  /-- Nothing behind it is read. -/
  | broken (failure : Failure)

def inputOf (d : Desk) (ending : Char) (name : Octets) : Input :=
  match d.content name with
  | .ok cs => .lines name (linesIn ending name cs)
  | .error .isADirectory => .broken (.notReadable name (reasonOf .isADirectory))
  | .error fault => .missing (octets "sed: can't read " ++ name ++
      octets s!": {reasonOf fault}\n")

/-- Edits all inputs as one stream. -/
def editStream (k : Setting) (s : State) (inputs : List Input) : State :=
  let readable := inputs.takeWhile fun i => match i with
    | .broken _ => false
    | _ => true
  let lines := readable.flatMap fun i => match i with
    | .lines _ ls => ls
    | _ => []
  let t := edit k { s with lines }
  match t.failure, inputs.drop readable.length with
  | none, .broken failure :: _ => if t.status.isSome then t else { t with failure := some failure }
  | _, _ => t

/-- Edits each input on its own, in place if there is an ending for copies. -/
def editEach (k : Setting) (copies : Option Octets) (s : State) (inputs : List Input) : State :=
  inputs.foldl (fun s i =>
    match i with
    | .lines name ls =>
      if s.status.isSome || s.failure.isSome then s
      else
        let t := edit k { s with lines := ls, number := 0, ranges := [] }
        match copies with
        | none => t
        | some ending =>
          let d := t.desk
          let before := (d.files.read (d.path name)).toOption.getD ByteArray.empty
          let rest := t.lines.flatMap fun l => l.text ++ if l.ended then [k.ending] else []
          let content := fileContent (t.printed.reverse.flatten ++ rest)
          let copied := if ending.isEmpty then d.files
            else (d.files.write (d.path (name ++ ending)) before).toOption.getD d.files
          let files := (copied.write (d.path name) content).toOption.getD copied
          { t with desk := { d with files }, printed := [], owes := false }
    | _ => s) s

end Edit

namespace Utility

def sed (d : Desk) (args : List Octets) : Ended :=
  let (copies, args) := Edit.withoutInPlace args
  Edit.kinds.use d "sed" 1 args fun o =>
    let given := o.given.filter fun (letter, _) => letter == 'e' || letter == 'f'
    let (given, names) := match given, o.operands with
      | [], script :: names => ([('e', script)], names)
      | _, names => (given, names)
    if given.isEmpty then
      d.complain (octets "Usage: sed [OPTION]... \x7bscript-only-if-no-other-script\x7d [input-file]...")
        1
    else
      let dialect := .edit (o.has 'E' || o.has 'r')
      let prepared : Except Edit.Failure (List Edit.Part × List Edit.Step) := do
        let parts ← Edit.partsOf d given
        return (parts, ← Edit.read dialect parts)
      match prepared with
      | .error failure => d.complain (octets "sed: " ++ failure.message) failure.status
      | .ok (parts, steps) =>
        let ending := if o.has 'z' then '\x00' else '\n'
        let k : Edit.Setting :=
          ⟨steps.toArray, !(o.has 'n' || Edit.isSilent parts), ending⟩
        let names := Desk.orInput names
        let inputs := names.map (Edit.inputOf d ending)
        let s := (Edit.writtenFiles steps).foldl (fun (s : Edit.State) name =>
          match s.desk.files.write (d.path name) ByteArray.empty with
          | .ok files => { s with desk := { s.desk with files } }
          | .error _ => s) (Edit.startState d)
        let t := if copies.isSome || o.has 's' then Edit.editEach k copies s inputs
          else Edit.editStream k s inputs
        let missing := inputs.flatMap fun i => match i with
          | .missing complaint => complaint
          | _ => []
        let (failed, status) := match t.failure with
          | some failure => (octets "sed: " ++ failure.message ++ ['\n'], failure.status)
          | none => ([], t.status.getD (if missing.isEmpty then 0 else 2))
        -- a file as input is left at the first line that was not read
        let rest := if names = [['-']] && (d.inputSize.isSome || o.has 'u') then
            t.lines.flatMap fun l => l.text ++ if l.ended then [ending] else []
          else d.inputAfter names
        ⟨[.complaint (missing ++ failed), .output t.printed.reverse.flatten], status, rest,
          t.desk.files⟩

end Utility

end Signoff.Shell
