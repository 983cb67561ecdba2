import Signoff.Shell.Utility.Basic

/-!
# Options of utilities

Options are letters behind a hyphen, some with a value, or words behind two hyphens. They may
stand anywhere up to a lone pair of hyphens; all other arguments are operands.
-/

namespace Signoff.Shell

structure Options where
  /-- The letters with their values, in order. -/
  given : List (Char × Octets)
  operands : List Octets

namespace Options

def has (o : Options) (letter : Char) : Bool := o.given.any (·.1 == letter)

/-- The last value of a letter. -/
def value? (o : Options) (letter : Char) : Option Octets :=
  (o.given.reverse.find? (·.1 == letter)).map (·.2)

def values (o : Options) (letter : Char) : List Octets :=
  (o.given.filter (·.1 == letter)).map (·.2)

end Options

/-- What letters there are; those of `valued` take a value, and those that are also in `plain` may
go without it. A word stands for a letter. -/
structure OptionKinds where
  plain : String
  valued : String
  words : List (String × Char)

namespace OptionKinds

inductive Fault
  | unknown (letter : Char)
  | unknownWord (word : Octets)
  | noValue (letter : Char)
  | strayValue (word : String)

def Fault.message : Fault → Octets
  | .unknown letter => octets "invalid option -- '" ++ letter :: ['\'']
  | .unknownWord word => octets "unrecognized option '" ++ word ++ ['\'']
  | .noValue letter => octets "option requires an argument -- '" ++ letter :: ['\'']
  | .strayValue word => octets s!"option '--{word}' doesn't allow an argument"

/-- A letter must have a value. -/
def wantsValue (k : OptionKinds) (c : Char) : Bool :=
  k.valued.toList.contains c && !k.plain.toList.contains c

/-- A letter may have a value. -/
def takesValue (k : OptionKinds) (c : Char) : Bool := k.valued.toList.contains c

/-- The letters of one argument; the last may want a value from the next argument. -/
def readLetters (k : OptionKinds) : Octets → Except Fault (List (Char × Octets) × Option Char)
  | [] => .ok ([], none)
  | c :: rest =>
    if k.takesValue c then
      .ok (if rest.isEmpty && k.wantsValue c then ([], some c) else ([(c, rest)], none))
    else if k.plain.toList.contains c then
      (readLetters k rest).map fun (more, wanting) => ((c, []) :: more, wanting)
    else .error (.unknown c)

def addGiven (these : List (Char × Octets)) (o : Options) : Options :=
  { o with given := these ++ o.given }

def addOperand (a : Octets) (o : Options) : Options := { o with operands := a :: o.operands }

/-- The option that a word behind two hyphens stands for; its front is enough. -/
def word? (k : OptionKinds) (word : Octets) : Option (String × Char) :=
  (k.words.find? fun (w, _) => word == w.toList) <|>
    (k.words.find? fun (w, _) => word.isPrefixOf w.toList)

/-- Reads arguments; `permutes` says that options may stand behind operands. -/
def readFrom (k : OptionKinds) (permutes : Bool) : Nat → List Octets → Except Fault Options
  | 0, _ => .ok ⟨[], []⟩
  | _, [] => .ok ⟨[], []⟩
  | fuel + 1, arg :: rest =>
    match arg with
    | ['-', '-'] => .ok ⟨[], rest⟩
    | '-' :: '-' :: word =>
      let name := word.takeWhile (· != '=')
      match k.word? name with
      | none => .error (.unknownWord arg)
      | some (full, letter) =>
        if k.wantsValue letter then
          match word.drop name.length, rest with
          | _ :: value, _ => (readFrom k permutes fuel rest).map (addGiven [(letter, value)])
          | [], value :: more => (readFrom k permutes fuel more).map (addGiven [(letter, value)])
          | [], [] => .error (.noValue letter)
        else if name.length < word.length && !k.takesValue letter then .error (.strayValue full)
        else (readFrom k permutes fuel rest).map (addGiven [(letter, word.drop (name.length + 1))])
    | '-' :: c :: letters =>
      match readLetters k (c :: letters) with
      | .error fault => .error fault
      | .ok (these, none) => (readFrom k permutes fuel rest).map (addGiven these)
      | .ok (these, some letter) =>
        match rest with
        | value :: more =>
          (readFrom k permutes fuel more).map (addGiven (these ++ [(letter, value)]))
        | [] => .error (.noValue letter)
    | _ =>
      if permutes then (readFrom k permutes fuel rest).map (addOperand arg)
      else .ok ⟨[], arg :: rest⟩

def read (k : OptionKinds) (permutes : Bool) (args : List Octets) : Except Fault Options :=
  readFrom k permutes (args.length + 1) args

/-- What a utility does with its options, or its complaint about them. -/
def use (k : OptionKinds) (d : Desk) (utility : String) (status : Nat) (args : List Octets)
    (act : Options → Ended) : Ended :=
  match k.read true args with
  | .ok o => act o
  | .error fault => d.refuse utility fault.message status

end OptionKinds

/-- A count that an option gives. -/
def count? (cs : Octets) : Option Nat :=
  if cs.isEmpty || !cs.all Char.isDigit then none
  else some (cs.foldl (fun n c => 10 * n + (c.toNat - '0'.toNat)) 0)

/-- How much a unit behind a count stands for: powers of 1024, or of 1000 with a `B`. -/
def unit? (cs : Octets) : Option Nat :=
  let scale (c : Char) (base : Nat) : Option Nat :=
    (("KMGTPE".toList.findIdx? (· == c)) <|> (if c = 'k' then some 0 else none) <|>
      (if c = 'm' then some 1 else none)).map fun i => Nat.pow base (i + 1)
  match cs with
  | [] => some 1
  | ['b'] => some 512
  | [c] => scale c 1024
  | [c, 'B'] => scale c 1000
  | [c, 'i', 'B'] => scale c 1024
  | _ => none

/-- A count with an optional unit. -/
def scaledCount? (cs : Octets) : Option Nat :=
  let digits := cs.takeWhile Char.isDigit
  (count? digits).bind fun n => (unit? (cs.drop digits.length)).map (n * ·)

end Signoff.Shell
