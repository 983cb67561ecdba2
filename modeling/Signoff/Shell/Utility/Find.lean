import Signoff.Shell.Regex.Reader
import Signoff.Shell.Utility.Files

/-!
# Searching folders

A search goes through folders and asks a condition of each path. What the condition does on the
way (printing a path, removing a file, calling a command) comes out as a list of deeds.
-/

namespace Signoff.Shell

namespace Find

inductive Deed
  | print (cs : Octets)
  | remove (path : Octets)
  /-- A command, and what is done if it succeeds or fails. -/
  | call (words : List Octets) (yes no : List Deed)
  /-- A path for a command that is called once for many. -/
  | collect (words : List Octets) (path : Octets)
  | warn (message : Octets)
  | quit

inductive Test
  | always (holds : Bool)
  | name (folds : Bool) (pattern : List PatternItem)
  | path (pattern : List PatternItem)
  /-- Files, folders or neither. -/
  | kind (files folders : Bool)
  | executable
  | newer (number : Nat)
  /-- The right to execute is as it is for these files and folders. -/
  | mode (bits : Nat)
  | regex (r : Regex)
  | empty
  | size (more : Ordering) (units : Nat) (bytes : Nat)
  | print (ending : Char)
  | printFormat (format : Octets)
  | remove
  | prune
  | quit
  | each (words : List Octets)
  /-- A command that is called once for all paths. -/
  | together (words : List Octets)
  | negated (t : Test)
  | both (a b : Test)
  | either (a b : Test)

inductive Fault
  | unknown (word : Octets)
  | noArgument (word : Octets)
  | badArgument (word value : Octets)
  | badType (value : Octets)
  | badSize (unit : Octets)
  | badDepth (word value : Octets)
  | badMode (value : Octets)
  | badRegex (message : String)
  | missing (name : Octets) (reason : String)
  | straying (word : Octets)
  | nothingBefore (word : Octets)
  | nothingBehind (word : Octets)
  | badGroup

def Fault.message : Fault → Octets
  | .unknown word => octets "unknown predicate \x60" ++ word ++ ['\'']
  | .noArgument word => octets "missing argument to \x60" ++ word ++ ['\'']
  | .badArgument word value => octets "invalid argument \x60" ++ value ++ octets "' to \x60" ++
      word ++ ['\'']
  | .badType value => octets "Unknown argument to -type: " ++ value
  | .badSize unit => octets "invalid -size type \x60" ++ unit ++ ['\'']
  | .badDepth word value => octets "Expected a positive decimal integer argument to " ++ word ++
      octets ", but got " ++ quoteWord value
  | .badMode value => octets "invalid mode " ++ quoteWord value
  | .badRegex message => octets message
  | .missing name reason => quoteWord name ++ octets s!": {reason}"
  | .straying word => octets "paths must precede expression: \x60" ++ word ++ ['\'']
  | .nothingBefore word => octets "invalid expression; you have used a binary operator '" ++ word ++
      octets "' with nothing before it."
  | .nothingBehind word => octets "expected an expression after '" ++ word ++ ['\'']
  | .badGroup =>
    octets ("invalid expression; I was expecting to find a ')' somewhere but did not see one.")

/-- How deep the search goes. -/
structure Depths where
  least : Nat
  most : Option Nat
  /-- A folder comes behind what lies in it. -/
  lastFirst : Bool

def sizeTest (cs : Octets) : Except Fault Test :=
  let (order, rest) := match cs with
    | '+' :: rest => (Ordering.gt, rest)
    | '-' :: rest => (Ordering.lt, rest)
    | _ => (Ordering.eq, cs)
  let digits := rest.takeWhile Char.isDigit
  let unit? := match rest.drop digits.length with
    | [] => some 512
    | ['b'] => some 512
    | ['c'] => some 1
    | ['w'] => some 2
    | ['k'] => some 1024
    | ['M'] => some 1048576
    | ['G'] => some 1073741824
    | _ => none
  match unit?, count? digits with
  | some unit, some n => .ok (.size order n unit)
  | none, some _ => .error (.badSize (rest.drop digits.length))
  | _, none => .error (.badArgument (octets "-size") cs)

/-- A test of an age, which is nothing for all files. -/
def ageTest? (cs : Octets) : Option Test :=
  match cs with
  | '+' :: rest => (count? rest).map fun _ => .always false
  | '-' :: rest => (count? rest).map fun n => .always (n != 0)
  | _ => (count? cs).map fun n => .always (n == 0)

/-- The kinds of files among letters with commas between them. -/
def kindTest? (cs : Octets) : Option Test :=
  let letters := cutAt ',' cs
  if letters.all fun l => ["f", "d", "l", "b", "c", "p", "s"].contains (textOf l) then
    some (.kind (letters.contains ['f']) (letters.contains ['d']))
  else none

/-- The words of a command up to a semicolon, or to a plus behind a pair of braces. -/
def readCall (words : List Octets) : List Octets → Option (Bool × List Octets × List Octets)
  | [] => none
  | [';'] :: rest => some (false, words.reverse, rest)
  | ['+'] :: rest =>
    if words.head? = some ['\x7b', '\x7d'] then some (true, words.reverse, rest)
    else readCall (['+'] :: words) rest
  | a :: rest => readCall (a :: words) rest

abbrev Read := Except Fault (Test × Depths × List Octets)

/-- A test without parts. -/
def readSimple (d : Desk) (depths : Depths) (word : Octets) (rest : List Octets) : Read :=
  let plain (t : Test) : Read := .ok (t, depths, rest)
  let valued (f : Octets → Except Fault (Test × Depths)) : Read :=
    match rest with
    | [] => .error (.noArgument word)
    | value :: tail => (f value).map fun (t, depths) => (t, depths, tail)
  let depth (f : Nat → Depths) : Read := valued fun v => match count? v with
    | some n => .ok (.always true, f n)
    | none => .error (.badDepth word v)
  match textOf word with
  | "-print" => plain (.print '\n')
  | "-print0" => plain (.print '\x00')
  | "-true" => plain (.always true)
  | "-false" => plain (.always false)
  | "-delete" => .ok (.remove, { depths with lastFirst := true }, rest)
  | "-depth" => .ok (.always true, { depths with lastFirst := true }, rest)
  | "-empty" => plain .empty
  | "-prune" => plain .prune
  | "-name" => valued fun v => .ok (.name false (patternOfText v), depths)
  | "-iname" => valued fun v => .ok (.name true (patternOfText (v.map Char.toLower)), depths)
  | "-path" => valued fun v => .ok (.path (patternOfText v), depths)
  | "-wholename" => valued fun v => .ok (.path (patternOfText v), depths)
  | "-maxdepth" => depth fun n => { depths with most := some n }
  | "-mindepth" => depth fun n => { depths with least := n }
  | "-type" => valued fun v => match kindTest? v with
    | some t => .ok (t, depths)
    | none => .error (.badType v)
  | "-size" => valued fun v => (sizeTest v).map fun t => (t, depths)
  | "-mtime" => aged valued
  | "-ctime" => aged valued
  | "-atime" => aged valued
  | "-mmin" => valued fun v => match ageTest? v with
    | some t => .ok (t, depths)
    | none => .error (.badArgument word v)
  | "-newer" => valued fun v => match Utility.itemAt d.files (d.path v) with
    | .error fault => .error (.missing v (reasonOf fault))
    | .ok (_, .file number _) => .ok (.newer number, depths)
    | .ok (_, .folder) => .ok (.always false, depths)
  | "-user" => valued fun v => .ok (.always (v == octets "root" || v == ['0']), depths)
  | "-group" => valued fun v => .ok (.always (v == octets "root" || v == ['0']), depths)
  | "-perm" => valued fun v =>
    if !v.isEmpty && v.all fun c => '0' ≤ c && c ≤ '7' then
      .ok (.mode (v.foldl (fun n c => 8 * n + (c.toNat - 48)) 0), depths)
    else .error (.badMode v)
  | "-regex" => valued fun v => match Regex.read .expression v with
    | .ok r => .ok (.regex r, depths)
    | .error fault => .error (.badRegex (fault.message))
  | "-printf" => valued fun v => .ok (.printFormat v, depths)
  | "-quit" => plain .quit
  | "-executable" => plain .executable
  | "-readable" => plain (.always true)
  | "-writable" => plain (.always true)
  | "-nouser" => plain (.always false)
  | "-nogroup" => plain (.always false)
  | "-follow" => plain (.always true)
  | "-xdev" => plain (.always true)
  | "-mount" => plain (.always true)
  | "-noleaf" => plain (.always true)
  | "-warn" => plain (.always true)
  | "-nowarn" => plain (.always true)
  | "-daystart" => plain (.always true)
  | "-exec" =>
    match readCall [] rest with
    | some (false, words, tail) => .ok (.each words, depths, tail)
    | some (true, words, tail) => .ok (.together words, depths, tail)
    | none => .error (.noArgument word)
  | _ => .error (if word.head? = some '-' then .unknown word else .straying word)
where
  aged (valued : (Octets → Except Fault (Test × Depths)) → Read) : Read :=
    valued fun v => match ageTest? v with
      | some t => .ok (t, depths)
      | none => .error (.badArgument word v)

/-- The word that a sign for two tests is known by. -/
def operatorOf? (word : Octets) : Option String :=
  match textOf word with
  | "-a" => some "-a"
  | "-and" => some "-a"
  | "-o" => some "-o"
  | "-or" => some "-o"
  | _ => none

mutual

/-- Tests joined by `-o`. -/
def readEither (d : Desk) (fuel : Nat) (depths : Depths) (args : List Octets) : Read :=
  match fuel with
  | 0 => .error .badGroup
  | fuel + 1 => do
    let (a, depths, rest) ← readBoth d fuel depths args
    match rest with
    | word :: more =>
      if operatorOf? word = some "-o" then
        if more.isEmpty then throw (.nothingBehind word)
        let (b, depths, tail) ← readEither d fuel depths more
        return (.either a b, depths, tail)
      else return (a, depths, rest)
    | [] => return (a, depths, rest)

/-- Tests one behind the other. -/
def readBoth (d : Desk) (fuel : Nat) (depths : Depths) (args : List Octets) : Read :=
  match fuel with
  | 0 => .error .badGroup
  | fuel + 1 => do
    let (a, depths, rest) ← readOne d fuel depths args
    let rest' ← match rest with
      | word :: more =>
        if operatorOf? word = some "-a" then
          if more.isEmpty then throw (.nothingBehind word) else pure more
        else pure rest
      | [] => pure []
    match rest' with
    | [] => return (a, depths, [])
    | word :: _ =>
      if operatorOf? word = some "-o" || word = [')'] then return (a, depths, rest')
      else
        let (b, depths, tail) ← readBoth d fuel depths rest'
        return (.both a b, depths, tail)

def readOne (d : Desk) (fuel : Nat) (depths : Depths) (args : List Octets) : Read :=
  match fuel with
  | 0 => .error .badGroup
  | fuel + 1 => do
    match args with
    | [] => .error .badGroup
    | word :: rest =>
      if (operatorOf? word).isSome then throw (.nothingBefore word)
      else if word = ['!'] || word = "-not".toList then
        if rest.isEmpty then throw (.nothingBehind word)
        let (t, depths, tail) ← readOne d fuel depths rest
        return (.negated t, depths, tail)
      else if word = ['('] then
        let (t, depths, tail) ← readEither d fuel depths rest
        match tail with
        | [')'] :: more => return (t, depths, more)
        | _ => .error .badGroup
      else readSimple d depths word rest

end

/-- The test does something of its own, so that paths are not printed besides. -/
def acts : Test → Bool
  | .print _ => true
  | .printFormat _ => true
  | .quit => true
  | .remove => true
  | .each _ => true
  | .together _ => true
  | .negated t => acts t
  | .both a b => acts a || acts b
  | .either a b => acts a || acts b
  | _ => false

/-- A path on the way, with what lies there. -/
structure Visit where
  /-- Where the search started. -/
  start : Octets
  depth : Nat
  path : Octets
  item : Item
  isEmpty : Bool
  isExecutable : Bool

/-- Puts a path in the place of each pair of braces. -/
def withPath (path : Octets) (word : Octets) : Octets :=
  match word with
  | [] => []
  | '\x7b' :: '\x7d' :: rest => path ++ withPath path rest
  | c :: rest => c :: withPath path rest

/-- The path without its last name, for a format. -/
def headOf (path : Octets) : Octets :=
  let front := (path.reverse.dropWhile (· != '/')).reverse
  if !path.contains '/' then ['.'] else front.dropLast

/-- A path as a format shows it, and what is wrong with the format. -/
def shown (v : Visit) : Octets → Octets × List Octets
  | '%' :: c :: rest =>
    let (more, warnings) := shown v rest
    let size := match v.item with
      | .folder => 4096
      | .file _ content => content.size
    let below := (v.path.drop v.start.length).dropWhile (· == '/')
    match c with
    | 'p' => (v.path ++ more, warnings)
    | 'f' => (Utility.lastName v.path ++ more, warnings)
    | 'h' => (headOf v.path ++ more, warnings)
    | 'P' => (below ++ more, warnings)
    | 'H' => (v.start ++ more, warnings)
    | 'd' => (Text.digitsOf v.depth ++ more, warnings)
    | 'y' => ((if v.item.isFolder then 'd' else 'f') :: more, warnings)
    | 's' => (Text.digitsOf size ++ more, warnings)
    | 'm' => (octets (if v.item.isFolder || v.isExecutable then "755" else "644") ++ more, warnings)
    | 'u' => (octets "root" ++ more, warnings)
    | 'g' => (octets "root" ++ more, warnings)
    | 'l' => (more, warnings)
    | '%' => ('%' :: more, warnings)
    | _ => ('%' :: c :: more, (octets "find: warning: unrecognized format directive \x60%" ++
        [c, '\'']) :: warnings)
  | '\\' :: c :: rest =>
    let (more, warnings) := shown v rest
    match c with
    | 'n' => ('\n' :: more, warnings)
    | 't' => ('\t' :: more, warnings)
    | '0' => ('\x00' :: more, warnings)
    | '\\' => ('\\' :: more, warnings)
    | 'a' => ('\x07' :: more, warnings)
    | 'r' => ('\r' :: more, warnings)
    | _ => ('\\' :: c :: more, (octets "find: warning: unrecognized escape \x60\\" ++
        [c, '\'']) :: warnings)
  | c :: rest =>
    let (more, warnings) := shown v rest
    (c :: more, warnings)
  | [] => ([], [])

/-- What a test that does nothing says of a path. -/
def holds (v : Visit) : Test → Bool
  | .always b => b
  | .name folds pattern =>
    let last := Utility.lastName v.path
    PatternItem.fits pattern (if folds then last.map Char.toLower else last)
  | .path pattern => PatternItem.fits pattern v.path
  | .kind files folders => if v.item.isFolder then folders else files
  | .executable => v.item.isFolder || v.isExecutable
  | .newer number => match v.item with
    | .folder => true
    | .file n _ => number < n
  | .mode bits => bits == (if v.item.isFolder || v.isExecutable then 493 else 420)
  | .regex r => match Regex.find? r ⟨v.path.toArray, false⟩ 0 with
    | some m => m.start == 0 && m.stop == v.path.length
    | none => false
  | .empty => match v.item with
    | .folder => v.isEmpty
    | .file _ content => content.size == 0
  | .size order n unit =>
    let size := match v.item with
      | .folder => 4096
      | .file _ content => content.size
    compare ((size + unit - 1) / unit) n == order
  | _ => true

/-- What is done at a path, where `yes` and `no` are what is done if the test holds or not. -/
def deedsOf (v : Visit) (yes no : List Deed) : Test → List Deed
  | .print ending => .print (v.path ++ [ending]) :: yes
  | .printFormat format => .print (shown v format).1 :: yes
  | .remove => .remove v.path :: yes
  | .quit => [.quit]
  | .each words => [.call (words.map (withPath v.path)) yes no]
  | .together words => .collect words.dropLast v.path :: yes
  | .negated t => deedsOf v no yes t
  | .both a b => deedsOf v (deedsOf v yes no b) no a
  | .either a b => deedsOf v yes (deedsOf v yes no b) a
  | t => if holds v t then yes else no

/-- Whether a test holds, if all commands succeed, and whether the search goes on below. -/
def ask (v : Visit) : Test → Bool × Bool
  | .prune => (true, false)
  | .negated t =>
    let (holds, on) := ask v t
    (!holds, on)
  | .both a b =>
    let (holds, on) := ask v a
    if holds then
      let (holds', on') := ask v b
      (holds', on && on')
    else (false, on)
  | .either a b =>
    let (holds, on) := ask v a
    if holds then (true, on)
    else
      let (holds', on') := ask v b
      (holds', on && on')
  | t => (holds v t, true)

/-- What is wrong with the formats of a test. -/
def warningsOf : Test → List Octets
  | .printFormat format => (shown ⟨[], 0, [], .folder, false, false⟩ format).2
  | .negated t => warningsOf t
  | .both a b => warningsOf a ++ warningsOf b
  | .either a b => warningsOf a ++ warningsOf b
  | _ => []

/-- The deeds at a place and below it. -/
def search (d : Desk) (t : Test) (depths : Depths) (start : Octets) (fuel depth : Nat)
    (path : Octets) (p : Place) : List Deed :=
  match fuel with
  | 0 => []
  | fuel + 1 =>
    match d.files.item? p with
    | none => []
    | some item =>
      let names := if item.isFolder then d.files.namesIn p else []
      let isExecutable := match item with
        | .folder => false
        | .file number _ => d.executables.contains number
      let v : Visit := ⟨start, depth, path, item, names.isEmpty, isExecutable⟩
      let (_, goesOn) := ask v t
      let yes := if acts t then [] else [Deed.print (path ++ ['\n'])]
      let here := if depth < depths.least then [] else deedsOf v yes [] t
      let below := if depths.most.any (· ≤ depth) || !goesOn then []
        else names.flatMap fun n =>
          let front := if path.getLast? = some '/' then path else path ++ ['/']
          search d t depths start fuel (depth + 1) (front ++ octets n) (p ++ [n])
      if depths.lastFirst then below ++ here else here ++ below

/-- The places to search: the arguments up to the first test. -/
def splitArguments (args : List Octets) : List Octets × List Octets :=
  let isTest (a : Octets) : Bool :=
    (a.head? == some '-' && a.length > 1) || a == ['!'] || a == ['(']
  let args := args.dropWhile fun a => ["-L", "-P", "-H"].contains (textOf a)
  (args.takeWhile (!isTest ·), args.dropWhile (!isTest ·))

/-- All deeds of a search, with the complaints about places that are not there. -/
def plan (d : Desk) (args : List Octets) : Except Fault (List Deed × List Octets) :=
  let (starts, tests) := splitArguments args
  let starts := if starts.isEmpty then [['.']] else starts
  let read : Read := if tests.isEmpty then .ok (.always true, ⟨0, none, false⟩, [])
    else readEither d (3 * tests.length + 5) ⟨0, none, false⟩ tests
  match read with
  | .error fault => .error fault
  | .ok (t, depths, _) =>
    let results : List (Except Octets (List Deed)) :=
      starts.map fun start => match d.files.resolve (d.path start) with
      | .ok p =>
        if start.isEmpty || (d.files.item? p).isNone then
          .error (octets "find: " ++ quoteWord start ++ octets ": No such file or directory")
        else .ok (search d t depths start (d.files.items.length + 1) 0 start p)
      | .error fault =>
        .error (octets "find: " ++ quoteWord start ++ octets s!": {reasonOf fault}")
    let found := results.flatMap fun r => (r.toOption).getD []
    .ok ((warningsOf t).map Deed.warn ++ found, results.filterMap fun r => match r with
      | .error complaint => some complaint
      | .ok _ => none)

end Find

end Signoff.Shell
