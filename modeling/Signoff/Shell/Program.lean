import Signoff.Shell.Builtin.Catalog
import Signoff.Shell.Channel
import Signoff.Shell.Utility.Catalog
import Signoff.Shell.Utility.Find

/-!
# Starting programs

What a session does around the programs that it starts: finding them, telling why they cannot be
started, reading their switches, and taking in what they leave.
-/

namespace Signoff.Shell.Session

/-- Says why a command is no program that can be started. -/
def refuse (s : Session) (name : Octets) : Session :=
  let put (reason : String) (status : Nat) : Session :=
    s.complain (name ++ octets s!": {reason}") status
  if name.contains '/' then
    match s.world.files.resolve (s.path name) with
    | .ok p => match s.world.files.item? p with
      | some _ => put "Permission denied" 126
      | none => put "not found" 127
    | .error .nameTooLong => put "File name too long" 126
    | .error _ => put "not found" 127
  else put "not found" 127

/-- What a program that starts others says of one that cannot be started. -/
def refuseFor (s : Session) (message : Octets) (status : Nat) : Session :=
  { s.write 2 (message ++ ['\n']) with status }

/-- The program that carries out a script, with an argument for it, if the script's first line
names one. -/
def interpreterOf (script : Octets) : Option (Octets × List Octets) :=
  match script with
  | '#' :: '!' :: rest =>
    let line := (rest.takeWhile (· != '\n')).dropWhile Cutting.isBlank
    let name := line.takeWhile (!Cutting.isBlank ·)
    let argument := ((line.drop name.length).dropWhile Cutting.isBlank).reverse.dropWhile
      Cutting.isBlank
    if name.isEmpty then none
    else some (name, if argument.isEmpty then [] else [argument.reverse])
  | _ => none

/-- How a shell is called. -/
structure ShellCall where
  isText : Bool
  readsInput : Bool
  options : List Char
  operands : List Octets

/-- Reads the switches of a shell; `names` says that the next argument names an option. -/
def readSwitches : List Octets → Except Octets ShellCall
  | [] => .ok ⟨false, false, [], []⟩
  | a :: rest =>
    match a with
    | ['-', '-'] => .ok ⟨false, false, [], rest⟩
    | ['-'] => .ok ⟨false, false, [], rest⟩
    | ['-', 'o'] => match rest with
      | name :: more =>
        match Session.optionNames.find? (·.2.toList == name) with
        | some (letter, _) => (readSwitches more).map fun c =>
          { c with options := letter :: c.options }
        | none => .error (octets "Illegal option -o " ++ name)
      | [] => .ok ⟨false, false, [], []⟩
    | '-' :: letters =>
      let known := fun l => l == 'c' || (Session.optionNames.map (·.1)).contains l
      match letters.find? (!known ·) with
      | some wrong => .error (octets "Illegal option -" ++ [wrong])
      | none => (readSwitches rest).map fun c =>
        { c with
          isText := c.isText || letters.contains 'c'
          readsInput := c.readsInput || letters.contains 's'
          options := letters.filter (fun l => l != 'c' && l != 's') ++ c.options }
    | '+' :: _ => readSwitches rest
    | _ => .ok ⟨false, false, [], a :: rest⟩

/-- The variables that every script has from its start. -/
def firstBindings : List (Octets × Variable) :=
  [(octets "IFS", ⟨some [' ', '\t', '\n'], false, false⟩),
    (octets "OPTIND", ⟨some ['1'], false, false⟩)]

/-- The search path of a script that is given none. -/
def usualPath : Octets × Variable :=
  (octets "PATH", ⟨some (octets "/usr/local/sbin:/usr/local/bin:/usr/sbin:/usr/bin:/sbin:/bin"),
    false, false⟩)

/-- A session for another script, which sees the exported variables. In a process that is no shell
the script takes its place. -/
def child (s : Session) (options : List Char) (name : Octets) (arguments : List Octets) : Session :=
  let t := if s.isCommand then { s with traps := s.traps.filter (·.2.isEmpty), works := [] }
    else s.fork
  let seen := t.bindings.filter fun b => b.2.exported && b.2.value.isSome &&
    !(firstBindings.map (·.1)).contains b.1
  { t with
    main := t.process, name, arguments, options
    bindings := firstBindings ++ (seen.map fun (name, v) => (name, { v with fixed := false })) ++
      (if seen.any (·.1 == usualPath.1) then [] else [usualPath])
    known := [], hidden := [], functions := [], aliases := [], depth := 0, nesting := s.nesting + 1
    loops := 0
    line := 0, context := [], status := 0, innerStatus := 0, lastWork := none, lettersRead := 0
    guarded := false, isCommand := false, flow := .next }

/-- Goes on behind a script. If the script took the place of the process, a signal that ended the
script ended the process. -/
def behindScript (s copy : Session) : Session :=
  match s.isCommand, copy.flow with
  | true, .killed signal =>
    { s with world := copy.world, now := copy.now, status := signal.status, flow := .killed signal }
  | _, _ => s.behind copy

/-- The output and the status of a utility do not hang on the end of its input. -/
def isSettled (run : Desk → Option Ended) (d : Desk) (e : Ended) : Bool :=
  let lines := linesOf d.input
  let half := (lines.take (lines.length / 2)).flatMap (· ++ ['\n'])
  match run { d with input := half } with
  | some f => f.output == e.output && f.status == e.status
  | none => true

/-- Something that reads the input at work in the session; it may have no end. -/
def useDesk (s : Session) (prog : String) (run : Desk → Option Ended) : Session :=
  match run s.desk with
  | none => { s with flow := .endless }
  | some e =>
    if (s.opening? 0).any (·.endless) && !isSettled run s.desk e then { s with flow := .endless }
    else s.takeEnded prog e

/-- A utility at work in the session; `called` is the name or path by which it was called. -/
def useUtility (s : Session) (called : Octets) (prog : String) (args : List Octets) : Session :=
  match Utility.run? prog s.desk args with
  | none => s.refuse (octets prog)
  | some e =>
    let t := s.useDesk prog fun d =>
      (Utility.run? prog d args).map (·.calledAs (octets prog) called)
    if prog = "yes" && e.status = 0 then { t with flow := .endless } else t

/-- A word is written like an option. -/
def isOption (word : Octets) : Bool := word.head? == some '-' && 1 < word.length

/-- A program that starts another one does not know an option. -/
def refuseOption (s : Session) (called word : Octets) : Session :=
  let fault : OptionKinds.Fault := match word with
    | '-' :: '-' :: _ => .unknownWord word
    | _ => .unknown ((word[1]?).getD '-')
  s.refuseFor (called ++ ':' :: ' ' :: fault.message ++ octets "\nTry '" ++ called ++
    octets " --help' for more information.") 125

/-- Takes away what a search found. -/
def removeFound (s : Session) (path : Octets) : Session :=
  let e := match s.world.files.isFolder (s.path path) with
    | true => Utility.rmdir s.desk [octets "--", path]
    | false => Utility.rm s.desk [octets "--", path]
  { s with world := { s.world with files := e.files } }

/-- Makes files executable, or no longer. -/
def chmod (s : Session) (args : List Octets) : Session :=
  let args := args.filter fun a => !(["-R", "-f", "-v", "-c", "--"].map octets).contains a
  let hint := octets "\nTry 'chmod --help' for more information."
  match args with
  | [] => s.refuseFor (octets "chmod: missing operand" ++ hint) 1
  | [mode] => s.refuseFor (octets "chmod: missing operand after " ++ quoteWord mode ++ hint) 1
  | mode :: names =>
    match executes? mode with
    | none => s.refuseFor (octets "chmod: invalid mode: " ++ quoteWord mode ++ hint) 1
    | some change =>
      names.foldl (fun (s : Session) name =>
        match s.world.files.resolve (s.path name) with
        | .error fault => missing s name (reasonOf fault)
        | .ok p => match s.world.files.item? p with
          | none => missing s name "No such file or directory"
          | some .folder => s
          | some (.file number _) =>
            let others := s.world.executables.filter (· != number)
            match change with
            | some true => { s with world := { s.world with executables := number :: others } }
            | some false => { s with world := { s.world with executables := others } }
            | none => s) s.succeed
where
  missing (s : Session) (name : Octets) (reason : String) : Session :=
    s.refuseFor (octets "chmod: cannot access " ++ quoteName name ++ octets s!": {reason}") 1
  /-- What a mode does to the right to execute. -/
  executes? (mode : Octets) : Option (Option Bool) :=
    if mode.all (fun c => '0' ≤ c && c ≤ '7') && !mode.isEmpty && mode.length ≤ 4 then
      some (some (mode.any fun c => (c.toNat - '0'.toNat) % 2 = 1))
    else
      let clauses := (cutAt ',' mode).map fun clause =>
        let who := clause.takeWhile fun c => ['u', 'g', 'o', 'a'].contains c
        match clause.drop who.length with
        | op :: letters =>
          if ['+', '-', '='].contains op &&
              letters.all fun c => ['r', 'w', 'x', 'X', 's', 't'].contains c then
            some (if letters.contains 'x' then some (op != '-')
              else if op = '=' then some false else none)
          else none
        | [] => none
      (clauses.mapM id).map fun changes => (changes.filterMap id).getLast?

/-- The environment of a command: variables that it does not see, and those that it is given. -/
structure Setting where
  clears : Bool
  hidden : List Octets
  given : List (Octets × Octets)
  command : List Octets

def readSetting : List Octets → Setting
  | [] => ⟨false, [], [], []⟩
  | a :: rest =>
    let name := a.takeWhile (· != '=')
    if a = ['-', 'i'] || a = ['-'] || a = octets "--ignore-environment" then
      { readSetting rest with clears := true }
    else if a = ['-', '-'] then readSetting rest
    else if a = ['-', 'u'] then
      let later := readSetting rest.tail
      { later with hidden := rest.head?.toList ++ later.hidden }
    else if name.length < a.length then
      let later := readSetting rest
      { later with given := (name, a.drop (name.length + 1)) :: later.given }
    else ⟨false, [], [], a :: rest⟩
termination_by args => args.length
decreasing_by all_goals simp only [List.length_tail, List.length_cons]; omega

/-- The session as a command with an environment of its own sees it. -/
def withSetting (s : Session) (k : Setting) : Session :=
  let s := if k.clears then { s with bindings := s.bindings.filter fun b => !b.2.exported } else s
  let s := k.hidden.foldl forget s
  k.given.foldl (fun (s : Session) (name, value) => s.setVariable name ⟨some value, true, false⟩) s

def environmentText (s : Session) : Octets :=
  s.environment.flatMap fun (name, value) => name ++ '=' :: value ++ ['\n']

def printenv (s : Session) (args : List Octets) : Session :=
  match args with
  | [] => (s.write 1 s.environmentText).succeed
  | names =>
    let found := names.map fun name => (s.environment.find? (·.1 == name)).map (·.2)
    { s.write 1 (unlines (found.filterMap id)) with
      status := if found.all Option.isSome then 0 else 1 }

/-- How input becomes arguments. -/
structure Feeding where
  most : Option Nat
  lines : Bool
  placeholder : Option Octets
  separator : Option Char
  skipsEmpty : Bool
  traces : Bool
  /-- What is wrong with the arguments. -/
  problem : Option Octets
  command : List Octets

/-- The number of items of a call, as an option gives it. -/
def Feeding.withMost (f : Feeding) (letter : Char) (text : Octets) : Feeding :=
  match count? text with
  | some 0 => { f with
      problem := some (octets "value 0 for -" ++ letter :: octets " option should be >= 1") }
  | some n => { f with most := some n }
  | none => { f with
      problem := some (octets "invalid number \"" ++ text ++ octets "\" for -" ++ letter ::
        octets " option") }

def readFeeding (fuel : Nat) (f : Feeding) (args : List Octets) : Feeding :=
  match fuel with
  | 0 => f
  | fuel + 1 =>
    match args with
    | ['-', 'r'] :: rest => readFeeding fuel { f with skipsEmpty := true } rest
    | ['-', 't'] :: rest => readFeeding fuel { f with traces := true } rest
    | ['-', '0'] :: rest => readFeeding fuel { f with separator := some '\x00' } rest
    | ['-', 'x'] :: rest => readFeeding fuel f rest
    | ['-', 'i'] :: rest => readFeeding fuel { f with placeholder := some ['\x7b', '\x7d'] } rest
    | ('-' :: '-' :: c :: word) :: rest =>
      let name := (c :: word).takeWhile (· != '=')
      let value := (c :: word).drop (name.length + 1)
      match textOf name with
      | "null" => readFeeding fuel { f with separator := some '\x00' } rest
      | "no-run-if-empty" => readFeeding fuel { f with skipsEmpty := true } rest
      | "verbose" => readFeeding fuel { f with traces := true } rest
      | "max-args" => readFeeding fuel { f with most := count? value } rest
      | "max-lines" => readFeeding fuel { f with most := count? value, lines := true } rest
      | "max-procs" => readFeeding fuel f rest
      | "replace" => readFeeding fuel { f with
          placeholder := some (if value.isEmpty then ['\x7b', '\x7d'] else value) } rest
      | "delimiter" => readFeeding fuel { f with separator := separatorOf value } rest
      | _ => { f with
          problem := some (octets "unrecognized option '" ++ '-' :: '-' :: name ++ ['\'']) }
    | ['-', 'n'] :: n :: rest => readFeeding fuel (f.withMost 'n' n) rest
    | ['-', 'L'] :: n :: rest => readFeeding fuel { f.withMost 'L' n with lines := true } rest
    | ['-', 'P'] :: _ :: rest => readFeeding fuel f rest
    | ['-', 'I'] :: p :: rest => readFeeding fuel { f with placeholder := some p } rest
    | ['-', 'd'] :: d :: rest => readFeeding fuel { f with separator := separatorOf d } rest
    | ('-' :: 'n' :: n) :: rest => readFeeding fuel (f.withMost 'n' n) rest
    | ('-' :: 'L' :: n) :: rest => readFeeding fuel { f.withMost 'L' n with lines := true } rest
    | ('-' :: 'P' :: _) :: rest => readFeeding fuel f rest
    | ('-' :: 'I' :: p) :: rest => readFeeding fuel { f with placeholder := some p } rest
    | ('-' :: 'd' :: d) :: rest => readFeeding fuel { f with separator := separatorOf d } rest
    | ['-', '-'] :: rest => { f with command := rest }
    | ('-' :: c :: _) :: _ => { f with problem := some (octets "invalid option -- '" ++ [c, '\'']) }
    | _ => { f with command := args }
where
  separatorOf (d : Octets) : Option Char :=
    match d with
    | ['\\', 'n'] => some '\n'
    | ['\\', 't'] => some '\t'
    | ['\\', '0'] => some '\x00'
    | c :: _ => some c
    | [] => none

/-- Words, and the quotation mark that nothing closes, if there is one. -/
abbrev Words := List Octets × Option Char

/-- The words of an input, which may be quoted; `current` is the word being read. -/
def wordsIn (fuel : Nat) (current : Option Octets) (cs : Octets) : Words :=
  match fuel with
  | 0 => (current.toList, none)
  | fuel + 1 =>
    match cs with
    | [] => (current.toList, none)
    | '\\' :: c :: rest => wordsIn fuel (some (current.getD [] ++ [c])) rest
    | c :: rest =>
      if c = '\'' || c = '"' then
        let inner := rest.takeWhile fun d => d != c && d != '\n'
        match rest.drop inner.length with
        | d :: more =>
          if d = c then wordsIn fuel (some (current.getD [] ++ inner)) more else ([], some c)
        | [] => ([], some c)
      else if isBlankOctet c then
        let (words, mark) := wordsIn fuel none rest
        (current.toList ++ words, mark)
      else wordsIn fuel (some (current.getD [] ++ [c])) rest

/-- The words of each line. -/
def wordsOfLines (lines : List Octets) : Words :=
  lines.foldl (fun (words, mark) line =>
    if mark.isSome then (words, mark)
    else
      let (more, mark) := wordsIn (line.length + 1) none line
      (words ++ more, mark)) ([], none)

/-- A text with a placeholder replaced everywhere. -/
def fillIn (placeholder value : Octets) (fuel : Nat) (cs : Octets) : Octets :=
  match fuel with
  | 0 => cs
  | fuel + 1 =>
    match cs with
    | [] => []
    | c :: rest =>
      if placeholder.isPrefixOf cs && !placeholder.isEmpty then
        value ++ fillIn placeholder value fuel (cs.drop placeholder.length)
      else c :: fillIn placeholder value fuel rest

/-- Groups of so many items each. -/
def chunks {α : Type} (n : Nat) : Nat → List α → List (List α)
  | 0, _ => []
  | fuel + 1, items =>
    if items.isEmpty then []
    else if n = 0 then [items]
    else items.take n :: chunks n fuel (items.drop n)

/-- A line without its quotation marks. -/
def unquoted (line : Octets) : Octets :=
  ((wordsIn (line.length + 1) none (line.flatMap fun c =>
    if Cutting.isBlank c then ['\\', c] else [c])).1).flatten

/-- The calls that an input makes of a command, and the quotation mark that nothing closes. -/
def callsOf (f : Feeding) (input : Octets) : List (List Octets) × Option Char :=
  let command := if f.command.isEmpty then [octets "echo"] else f.command
  let lines := ((linesOf input).map fun l => l.dropWhile Cutting.isBlank).filter (!·.isEmpty)
  let (items, mark) : Words := match f.separator with
    | some c =>
      let pieces := cutAt c input
      (if pieces.getLast? = some [] then pieces.dropLast else pieces, none)
    | none =>
      if f.placeholder.isSome then (lines.map unquoted, (wordsOfLines lines).2)
      else if f.lines then (lines, (wordsOfLines lines).2)
      else wordsIn (input.length + 1) none input
  match f.placeholder with
  | some p =>
    (items.map fun item => command.map fun word => fillIn p item (word.length + 1) word, mark)
  | none =>
    let groups := match f.most with
      | some n => chunks n (items.length + 1) items
      | none => [items]
    let groups := if items.isEmpty then (if f.skipsEmpty then [] else [[]]) else groups
    -- where a quotation stays open, only what was read before it is used
    let groups := if mark.isSome then groups.filter (!·.isEmpty) else groups
    (groups.map fun group =>
      command ++ if f.lines then (wordsOfLines group).1 else group, mark)

/-- A limit on the time of a command. -/
structure Limit where
  signal : Signal
  keepsStatus : Bool

def readLimit (l : Limit) : List Octets → Limit × List Octets
  | ['-', 's'] :: name :: rest =>
    readLimit { l with signal := (Signal.ofText? name).getD l.signal } rest
  | ['-', 'k'] :: _ :: rest => readLimit l rest
  | a :: rest =>
    if a = octets "--preserve-status" then readLimit { l with keepsStatus := true } rest
    else if a = octets "--foreground" || a = ['-', 'v'] then readLimit l rest
    else match a with
      | '-' :: 's' :: c :: name =>
        readLimit { l with signal := (Signal.ofText? (c :: name)).getD l.signal } rest
      | _ => (l, a :: rest)
  | [] => (l, [])

end Signoff.Shell.Session
