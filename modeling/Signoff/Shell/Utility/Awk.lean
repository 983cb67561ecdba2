import Signoff.Shell.Awk.Run

/-!
# The pattern language as a utility

Its program comes from files or is the first operand; the other operands are inputs and values of
variables.
-/

namespace Signoff.Shell.Awk

structure Setting where
  separator : Option Octets
  /-- Names and values, in order. -/
  assignments : List (Octets × Octets)
  programs : List Octets
  operands : List Octets

inductive UsageFault
  | unknown (option : Octets)
  | noValue (letter : Char)
  | noAssignment (text : Octets)
  | noProgram

def UsageFault.message : UsageFault → Octets
  | .unknown option => octets "not an option: " ++ option
  | .noValue letter => octets "option -" ++ letter :: octets " lacks argument"
  | .noAssignment text => octets "improper assignment: -v " ++ text
  | .noProgram => octets "no program given"

/-- A name and a value with an equals sign between them. -/
def assignment? (cs : Octets) : Option (Octets × Octets) :=
  let name := cs.takeWhile (· != '=')
  if Act.assignArgument.isName name && name.length < cs.length then
    let value := cs.drop (name.length + 1)
    some (name, unescape (value.length + 1) value)
  else none

/-- An option with its value. -/
def withOption (k : Setting) (letter : Char) (value : Octets) : Except UsageFault Setting :=
  match letter with
  | 'F' => .ok { k with separator := some (unescape (value.length + 1) value) }
  | 'f' => .ok { k with programs := k.programs ++ [value] }
  | _ => match assignment? value with
    | some a => .ok { k with assignments := k.assignments ++ [a] }
    | none => .error (.noAssignment value)

def readArguments (k : Setting) : List Octets → Except UsageFault Setting
  | [] => .ok k
  | ['-', '-'] :: rest => .ok { k with operands := rest }
  | ['-', c] :: rest =>
    if ['F', 'f', 'v'].contains c then
      match rest with
      | [] => .error (.noValue c)
      | value :: more => match withOption k c value with
        | .error fault => .error fault
        | .ok k => readArguments k more
    else .error (.unknown ['-', c])
  | ('-' :: c :: value) :: rest =>
    if ['F', 'f', 'v'].contains c then
      match withOption k c value with
      | .error fault => .error fault
      | .ok k => readArguments k rest
    else .error (.unknown ('-' :: c :: value))
  | operands => .ok { k with operands }

/-- The variables that every program has from its start. -/
def firstGlobals : List (Octets × Slot) :=
  let text (name value : String) : Octets × Slot := (name.toList, .scalar (.text value.toList))
  let number (name : String) (x : Float) : Octets × Slot := (name.toList, .scalar (.number x))
  [text "FS" " ", text "OFS" " ", text "ORS" "\n", text "RS" "\n", text "SUBSEP" "\x1c",
    text "CONVFMT" "%.6g", text "OFMT" "%.6g", text "FILENAME" "", number "NF" 0, number "NR" 0,
    number "FNR" 0, number "RSTART" 0, number "RLENGTH" (-1)]

def startState (d : Desk) (name : Octets) (environment : List (Octets × Octets)) (k : Setting) :
    State :=
  let arguments := (name :: k.operands).zipIdx.map fun (a, i) =>
    (Text.digitsOf i, Value.input a)
  let variables_ := environment.map fun (n, v) => (n, Value.input v)
  let globals := firstGlobals ++ [("ARGC".toList, .scalar (.ofNat arguments.length)),
    ("ARGV".toList, .array 0), ("ENVIRON".toList, .array 1)]
  let globals := match k.separator with
    | some cs => Act.replaceSlot ['F', 'S'] (.scalar (.text cs)) globals
    | none => globals
  let globals := k.assignments.foldl (fun (gs : List (Octets × Slot)) a =>
    Act.replaceSlot a.1 (.scalar (.input a.2)) gs) globals
  { desk := d, said := [], pending := [], globals, locals := [], depth := 0
    arrays := #[arguments, variables_], record := .text [], fields := #[], current := none
    used := 0, hasFile := false, sources := [], writers := [], open_ := [], status := 0
    seed := .number 0 }

/-- The text of a program, or the file that cannot be read. -/
def programText (d : Desk) : List Octets → Except (Octets × Signoff.Fault) Octets
  | [] => .ok []
  | name :: rest => match d.content name with
    | .error fault => .error (name, fault)
    | .ok cs => (programText d rest).map (cs ++ ·)

/-- Carries out a program under a name; nothing if it does not end. -/
def utility (carryOut : Desk → Octets → Octets → Ended) (environment : List (Octets × Octets))
    (name : Octets) (d : Desk) (args : List Octets) : Option Ended :=
  let refuse (message : Octets) : Option Ended := some (d.complain (name ++ octets ": " ++ message) 2)
  match readArguments ⟨none, [], [], []⟩ args with
  | .error fault => refuse fault.message
  | .ok k =>
    let given : Except (Octets × Signoff.Fault) (Option (Octets × List Octets)) :=
      if k.programs.isEmpty then
        .ok (match k.operands with
          | [] => none
          | text :: rest => some (text, rest))
      else (programText d k.programs).map fun text => some (text, k.operands)
    match given with
    | .error (file, fault) =>
      refuse (octets "cannot open \"" ++ file ++ octets s!"\" ({reasonOf fault})")
    | .ok none => refuse UsageFault.noProgram.message
    | .ok (some (text, operands)) =>
      match read text with
      | .error fault =>
        let place := match fault, k.programs with
          | .character .., _ => []
          | _, file :: _ => file ++ octets ": "
          | _, [] => []
        refuse (place ++ fault.message)
      | .ok p =>
        if p.rules.isEmpty then some (d.done [] 0)
        else
          let w : Surroundings := ⟨name, p.functions, carryOut⟩
          match Act.runProgram w p (startState d name environment { k with operands }) with
          | (.ok false, _) => none
          | (_, s) => some
            { said := s.said.reverse, status := s.status, restOfInput := s.desk.input, files := s.desk.files }

end Signoff.Shell.Awk
