import Signoff.Shell.Format
import Signoff.Shell.Utility.Condition
import Signoff.Shell.Utility.Files

/-!
# Utilities about texts of their own and about the system

Printing arguments, asking conditions, and telling what the system and its files are.
-/

namespace Signoff.Shell.Utility

/-- The letters in front of what `echo` prints: whether there is a line feed at the end, and
whether escapes count. -/
def echoSwitches (lineFeed escapes : Bool) : List Octets → Bool × Bool × List Octets
  | ('-' :: c :: letters) :: rest =>
    if (c :: letters).all (fun l => l == 'n' || l == 'e' || l == 'E') then
      let last := ((c :: letters).reverse.find? (· != 'n'))
      echoSwitches (lineFeed && !(c :: letters).contains 'n')
        (match last with
          | some 'e' => true
          | some _ => false
          | none => escapes) rest
    else (lineFeed, escapes, ('-' :: c :: letters) :: rest)
  | args => (lineFeed, escapes, args)

/-- Prints its arguments; escapes count only if they are asked for. -/
def echo (d : Desk) (args : List Octets) : Ended :=
  let (lineFeed, escapes, words) := echoSwitches true false args
  let text := joined [' '] words
  let (text, goesOn) := if escapes then Format.unescapeAll text else (text, true)
  d.done (if lineFeed && goesOn then text ++ ['\n'] else text) 0

def printf (d : Desk) (args : List Octets) : Ended :=
  let args := match args with
    | ['-', '-'] :: rest => rest
    | _ => args
  match args with
  | [] => d.refuse "printf" (octets "missing operand") 1
  | format :: rest =>
    let p := Format.print format rest
    let complaints := p.complaints.map fun c => octets "printf: " ++ numeric (octets c) ++ ['\n']
    let excess := if hasPlaces format then [] else match rest with
      | [] => []
      | extra :: _ => octets "printf: warning: ignoring excess arguments, starting with " ++
          quoteWord extra ++ ['\n']
    ((((d.done [] (if p.complaints.isEmpty then 0 else 1)).warn complaints.flatten).say
      p.output)).warn excess
where
  /-- What is said of an argument that is no number. -/
  numeric (complaint : Octets) : Octets :=
    let ended (old new : String) : Option Octets :=
      if (octets old).isSuffixOf complaint then
        some (quoteWord (complaint.take (complaint.length - old.length)) ++ octets new)
      else none
    ((ended ": expected numeric value" ": expected a numeric value") <|>
      (ended ": not completely converted" ": value not completely converted")).getD complaint
  /-- The format has a place for an argument. -/
  hasPlaces : Octets → Bool
    | '%' :: '%' :: rest => hasPlaces rest
    | c :: rest => c == '%' || hasPlaces rest
    | [] => false

/-- What is wrong with the form of a condition of two or three words. -/
def formFault? (words : List Octets) : Option Octets :=
  match words with
  | [a, b] =>
    if a = ['!'] then none
    else if a.head? = some '-' && a.length = 2 then
      if Condition.unaryNames.contains (textOf a) then none
      else some (quoteWord a ++ octets ": unary operator expected")
    else some (octets "missing argument after " ++ quoteWord b)
  | [a, op, b] =>
    if Condition.isBinary op || (a = ['('] && b = [')']) || ["-a", "-o"].contains (textOf op) then none
    else if a = ['!'] then formFault? [op, b]
    else some (quoteWord op ++ octets ": binary operator expected")
  | _ => none

def conditionMessage : Condition.Fault → Octets
  | .unexpectedOperator word => octets "extra argument " ++ quoteWord word
  | .noArgument operator => octets "missing argument after " ++ quoteWord (octets operator)
  | .openGroup => octets "')' expected"
  | .illegalNumber text => octets "invalid integer " ++ quoteWord text
  | .openBracket => octets "missing ']'"

def test (d : Desk) (brackets : Bool) (args : List Octets) : Ended :=
  let front := octets (if brackets then "[: " else "test: ")
  if brackets && args.getLast? != some [']'] then
    d.complain (front ++ conditionMessage .openBracket) 2
  else
    let words := if brackets then args.dropLast else args
    match formFault? words with
    | some message => d.complain (front ++ message) 2
    | none => match Condition.holds d words with
      | .ok holds => d.done [] (if holds then 0 else 1)
      | .error fault => d.complain (front ++ conditionMessage fault) 2

def unameKinds : OptionKinds :=
  ⟨"asnrvmpio", "", [("all", 'a'), ("kernel-name", 's'), ("machine", 'm'), ("operating-system", 'o')]⟩

/-- The name of the system, as far as it is the same everywhere. -/
def uname (d : Desk) (args : List Octets) : Ended :=
  unameKinds.use d "uname" 1 args fun o =>
    let parts := (if o.given.isEmpty || o.has 's' || o.has 'a' then ["Linux"] else []) ++
      (if o.has 'm' || o.has 'a' then ["x86_64"] else []) ++
      (if o.has 'o' || o.has 'a' then ["GNU/Linux"] else [])
    d.refuseExtra "uname" 1 0 o.operands
      (d.done (octets (String.intercalate " " parts) ++ ['\n']) 0)

/-- Prints a word of the system; there is no use for operands. -/
def tell (utility text : String) (d : Desk) (args : List Octets) : Ended :=
  (⟨"", "", []⟩ : OptionKinds).use d utility 1 args fun o =>
    d.refuseExtra utility 1 0 o.operands (d.done (octets text ++ ['\n']) 0)

/-- The number of processors: one. -/
def nproc (d : Desk) (args : List Octets) : Ended :=
  (⟨"a", "i", [("all", 'a'), ("ignore", 'i')]⟩ : OptionKinds).use d "nproc" 1 args fun o =>
    d.refuseExtra "nproc" 1 0 o.operands (d.done ['1', '\n'] 0)

def identityKinds : OptionKinds :=
  ⟨"ugGnrza", "", [("user", 'u'), ("group", 'g'), ("groups", 'G'), ("name", 'n'), ("real", 'r')]⟩

def identity (d : Desk) (args : List Octets) : Ended :=
  identityKinds.use d "id" 1 args fun o =>
    let line := octets (if o.has 'u' || o.has 'g' || o.has 'G' then
        if o.has 'n' then "root\n" else "0\n"
      else "uid=0(root) gid=0(root) groups=0(root)\n")
    if o.operands.isEmpty then d.done line 0
    else o.operands.foldl (fun (e : Ended) name =>
      if name = octets "root" || name = ['0'] then e.say line
      else e.fail (octets "id: " ++ quoteWord name ++ octets ": no such user") 1) (d.done [] 0)

/-- Where programs lie. -/
def which (d : Desk) (args : List Octets) : Ended :=
  let names := args.filter (·.head? != some '-')
  let found := names.filterMap fun name =>
    if name.contains '/' then (programAt? name).map fun _ => name
    else if isProgramName (textOf name) then some (octets "/usr/bin/" ++ name) else none
  d.done (unlines found) (if found.length = names.length && !names.isEmpty then 0 else 1)

/-- The name of a place from the root on. -/
def fullName (p : Place) : Octets :=
  let names := (p.filter (· != "/")).map octets
  let front := if p.head? = some "/" then [] else octets "/work"
  let path := joined ['/'] (front :: names)
  if path.isEmpty then ['/'] else path

/-- Prints the folder. -/
def pwd (d : Desk) (args : List Octets) : Ended :=
  (⟨"LP", "", [("logical", 'L'), ("physical", 'P')]⟩ : OptionKinds).use d "pwd" 1 args fun o =>
    let e := (d.done [] 0).warn
      (if o.operands.isEmpty then [] else octets "pwd: ignoring non-option arguments\n")
    e.say (fullName ((d.files.resolve d.folder).toOption.getD []) ++ ['\n'])

def realpathKinds : OptionKinds :=
  ⟨"emLPqszf", "", [("canonicalize-existing", 'e'), ("canonicalize-missing", 'm'), ("quiet", 'q')]⟩

def realpath (d : Desk) (args : List Octets) : Ended :=
  realpathKinds.use d "realpath" 1 args fun o =>
    if o.operands.isEmpty then d.refuse "realpath" (octets "missing operand") 1
    else d.gather [] (o.operands.map fun name =>
    match d.files.resolve (d.path name) with
    | .ok p => d.done (fullName p ++ ['\n']) 0
    | .error fault => d.complain (aboutFile "realpath" name fault) 1)

/-- Links there are none of. -/
def readlink (d : Desk) (args : List Octets) : Ended :=
  if args.any fun a => a.head? == some '-' && a.any fun c => c == 'f' || c == 'e' || c == 'm' then
    realpath d args
  else d.done [] 1

def statKinds : OptionKinds := ⟨"Lt", "cf", [("format", 'c'), ("printf", 'c')]⟩

/-- The text of a format for a file of a name and size. -/
def statText (name : Octets) (isFolder : Bool) (size : Nat) : Octets → Octets
  | '%' :: c :: rest =>
    (match c with
      | 's' => Text.digitsOf size
      | 'n' => name
      | 'F' => octets (if isFolder then "directory"
          else if size = 0 then "regular empty file" else "regular file")
      | 'U' => octets "root"
      | 'G' => octets "root"
      | 'u' => ['0']
      | 'g' => ['0']
      | 'a' => octets (if isFolder then "755" else "644")
      | '%' => ['%']
      | _ => ['?']) ++ statText name isFolder size rest
  | c :: rest => c :: statText name isFolder size rest
  | [] => []

def stat (d : Desk) (args : List Octets) : Ended :=
  statKinds.use d "stat" 1 args fun o =>
    let format := (o.value? 'c').getD (octets "%n")
    d.gather [] (o.operands.map fun name => match d.files.resolve (d.path name) with
      | .error fault => d.complain (octets "stat: cannot statx " ++ quoteName name ++
          octets s!": {reasonOf fault}") 1
      | .ok p => match d.files.item? p with
        | some (.file _ content) => d.done (statText name false content.size format ++ ['\n']) 0
        | some .folder => d.done (statText name true 4096 format ++ ['\n']) 0
        | none => d.complain (octets "stat: cannot statx " ++ quoteName name ++
            octets ": No such file or directory") 1)

/-- The prime factors of a number from a divisor on. -/
def factorsFrom (fuel divisor n : Nat) : List Nat :=
  match fuel with
  | 0 => [n]
  | fuel + 1 =>
    if n < 2 then []
    else if n < divisor * divisor then [n]
    else if n % divisor = 0 then divisor :: factorsFrom fuel divisor (n / divisor)
    else factorsFrom fuel (divisor + 1) n

def factor (d : Desk) (args : List Octets) : Ended :=
  (⟨"h", "", [("exponents", 'h')]⟩ : OptionKinds).use d "factor" 1 args fun o =>
  let args := o.operands
  let words := if args.isEmpty then
      (cutAt ' ' (d.input.map fun c => if isBlankOctet c then ' ' else c)).filter (!·.isEmpty)
    else args
  let e := d.gather [] (words.map fun word => match count? word with
      | some n => d.done (Text.digitsOf n ++ ':' ::
          (factorsFrom 1000000 2 n).flatMap (fun k => ' ' :: Text.digitsOf k) ++ ['\n']) 0
      | none => d.complain (octets "factor: " ++ quoteWord word ++
          octets " is not a valid positive integer") 1)
  -- the output is held back until the end
  { e with
    said := [.complaint e.complaint, .output e.output]
    restOfInput := if args.isEmpty then [] else d.input }

/-- No input is a terminal. -/
def tty (d : Desk) (args : List Octets) : Ended :=
  (⟨"s", "", [("silent", 's'), ("quiet", 's')]⟩ : OptionKinds).use d "tty" 2 args fun o =>
    d.refuseExtra "tty" 2 0 o.operands
      (d.done (if o.has 's' then [] else octets "not a tty\n") 1)

def truncateKinds : OptionKinds := ⟨"co", "sr", [("size", 's'), ("no-create", 'c')]⟩

/-- Gives files a size; what is new is zero. -/
def truncate (d : Desk) (args : List Octets) : Ended :=
  truncateKinds.use d "truncate" 1 args fun o =>
    match (o.value? 's').bind count? with
    | none => d.refuse "truncate" (octets "you must specify either '--size' or '--reference'") 1
    | some size =>
      o.operands.foldl (fun (e : Ended) name =>
        let before := ((e.files.read (d.path name)).toOption).getD ByteArray.empty
        let gap := ByteArray.mk (Array.replicate (size - before.size) 0)
        match e.files.write (d.path name) (before.extract 0 size ++ gap) with
        | .ok files => { e with files }
        | .error fault =>
          e.fail (octets "truncate: cannot open " ++ quoteName name ++
            octets s!" for writing: {reasonOf fault}") 1) (d.done [] 0)

end Signoff.Shell.Utility
