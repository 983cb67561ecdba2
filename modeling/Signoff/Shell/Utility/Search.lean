import Signoff.Shell.Regex.Reader
import Signoff.Shell.Utility.Files

/-!
# Searching lines

The lines of files in which one of some patterns is found.
-/

namespace Signoff.Shell

namespace Utility

namespace Search

/-! Options that are words alone. -/

def colorOption : Char := '\x01'
def includeOption : Char := '\x02'
def excludeOption : Char := '\x03'
def excludeFolderOption : Char := '\x04'
def labelOption : Char := '\x05'
def groupMarkOption : Char := '\x06'
def noGroupMarkOption : Char := '\x07'
def binaryOption : Char := '\x08'
def noCaseOption : Char := '\x0e'

def kinds : OptionKinds :=
  ⟨"EFGPivcnoqwxlLhHsrRabUzZyTuI0123456789\x01\x07\x0e", "efmABCdD\x01\x02\x03\x04\x05\x06\x08",
    [("extended-regexp", 'E'), ("fixed-strings", 'F'), ("basic-regexp", 'G'), ("perl-regexp", 'P'),
    ("ignore-case", 'i'), ("invert-match", 'v'), ("count", 'c'), ("line-number", 'n'),
    ("only-matching", 'o'), ("quiet", 'q'), ("silent", 'q'), ("word-regexp", 'w'),
    ("line-regexp", 'x'), ("files-with-matches", 'l'), ("files-without-match", 'L'),
    ("no-filename", 'h'), ("with-filename", 'H'), ("no-messages", 's'), ("recursive", 'r'),
    ("dereference-recursive", 'R'), ("regexp", 'e'), ("file", 'f'), ("max-count", 'm'),
    ("after-context", 'A'), ("before-context", 'B'), ("context", 'C'), ("text", 'a'),
    ("byte-offset", 'b'), ("null-data", 'z'), ("null", 'Z'), ("initial-tab", 'T'),
    ("line-buffered", 'u'), ("binary", 'U'), ("directories", 'd'), ("devices", 'D'),
    ("color", colorOption), ("colour", colorOption), ("include", includeOption),
    ("exclude", excludeOption), ("exclude-dir", excludeFolderOption), ("label", labelOption),
    ("group-separator", groupMarkOption), ("no-group-separator", noGroupMarkOption),
    ("binary-files", binaryOption), ("no-ignore-case", noCaseOption)]⟩

end Search

/-- A text as an expression that stands for itself. -/
def literalRegex (cs : Octets) : Regex :=
  cs.foldr (fun c r => .sequence (.one c) r) .empty

/-- How a line is searched. -/
structure Search where
  patterns : List Regex
  folds : Bool
  words : Bool
  wholeLines : Bool
  inverted : Bool

namespace Search

def subject (s : Search) (line : Octets) : Regex.Subject := ⟨line.toArray, s.folds⟩

/-- A match that is not part of a longer word. -/
def standsAlone (subject : Regex.Subject) (m : Regex.Match) : Bool :=
  !subject.wordBefore m.start && !subject.isWord m.stop

def accepts (s : Search) (subject : Regex.Subject) (m : Regex.Match) : Bool :=
  (!s.words || standsAlone subject m) &&
    (!s.wholeLines || (m.start == 0 && m.stop == subject.text.size))

/-- The first match of a pattern from a place on that is accepted. -/
def firstMatch (s : Search) (subject : Regex.Subject) (r : Regex) :
    Nat → Nat → Option Regex.Match
  | 0, _ => none
  | fuel + 1, start =>
    match r.find? subject start with
    | none => none
    | some m => if s.accepts subject m then some m else firstMatch s subject r fuel (m.start + 1)

def holds (s : Search) (line : Octets) : Bool :=
  let subject := s.subject line
  s.inverted != s.patterns.any fun r =>
    (s.firstMatch subject r (line.length + 2) 0).isSome

/-- The earliest match of any pattern, of several the longest. -/
def earliest (s : Search) (subject : Regex.Subject) (start : Nat) : Option Regex.Match :=
  (s.patterns.filterMap fun r => s.firstMatch subject r (subject.text.size + 2) start).foldl
    (fun best m => match best with
      | none => some m
      | some b => if m.start < b.start || (m.start == b.start && b.stop < m.stop) then some m
          else best) none

/-- The parts of a line that match, by their places; empty ones are left out. -/
def spans (s : Search) (line : Octets) : List (Nat × Nat) := go (line.length + 2) 0
where
  go (fuel start : Nat) : List (Nat × Nat) :=
    match fuel with
    | 0 => []
    | fuel + 1 =>
      match s.earliest (s.subject line) start with
      | none => []
      | some m =>
        if m.start = m.stop then if m.start < line.length then go fuel (m.start + 1) else []
        else (m.start, m.stop) :: go fuel m.stop

end Search

/-- How the lines that are found are shown. -/
structure SearchLook where
  named : Bool
  numbered : Bool
  /-- The place of each line among all bytes is shown. -/
  placed : Bool
  onlyParts : Bool
  /-- Marks for terminals stand around what was found. -/
  colored : Bool
  /-- A zero byte ends names. -/
  zeroNames : Bool
  tabbed : Bool
  before : Option Nat
  after : Option Nat
  groupMark : Option Octets
  ending : Char

namespace SearchLook

def paint (k : SearchLook) (code : String) (cs : Octets) : Octets :=
  if k.colored then octets s!"\x1b[{code}m\x1b[K" ++ cs ++ octets "\x1b[m\x1b[K" else cs

/-- What stands in front of a line or of a part of it. -/
def front (k : SearchLook) (name : Octets) (number place : Nat) (mark : Char) : Octets :=
  let mark := k.paint "36" [mark]
  let fields := (if k.named then k.paint "35" name ++ (if k.zeroNames then ['\x00'] else mark)
      else []) ++
    (if k.numbered then k.paint "32" (Text.digitsOf number) ++ mark else []) ++
    (if k.placed then k.paint "32" (Text.digitsOf place) ++ mark else [])
  if k.tabbed && !fields.isEmpty then fields ++ ['\t'] else fields

/-- A line with marks around the parts that match. -/
def painted (k : SearchLook) (spans : List (Nat × Nat)) (line : Octets) : Octets :=
  if !k.colored then line
  else
    let (shown, last) := spans.foldl (fun (shown, last) (start, stop) =>
      (shown ++ (line.take start).drop last ++ k.paint "01;31" ((line.take stop).drop start), stop))
      ([], 0)
    shown ++ line.drop last

end SearchLook

/-- A line with its number, its place among all bytes, and whether it was found. -/
structure SearchRow where
  line : Octets
  number : Nat
  place : Nat
  hit : Bool

/-- The lines of a text with their places. -/
def searchRows (s : Search) (most : Option Nat) (lines : List Octets) : List SearchRow :=
  (lines.foldl (fun (rows, number, place, hits) line =>
    let hit := most.all (hits < ·) && s.holds line
    (⟨line, number, place, hit⟩ :: rows, number + 1, place + line.length + 1,
      if hit then hits + 1 else hits)) (([] : List SearchRow), 1, 0, 0)).1.reverse

/-- The lines that are found and their neighbours. -/
def SearchLook.near (k : SearchLook) (rows : List SearchRow) : List SearchRow :=
  let hits := (rows.filter (·.hit)).map (·.number)
  if k.before.getD 0 = 0 && k.after.getD 0 = 0 then rows.filter (·.hit)
  else rows.filter fun r =>
    r.hit || hits.any fun h => r.number < h + k.after.getD 0 + 1 && h < r.number + k.before.getD 0 + 1

/-- The rows of a file; `follows` says that rows of another file stand in front of them. -/
def SearchLook.show (k : SearchLook) (s : Search) (name : Octets) (follows : Bool)
    (rows : List SearchRow) : Octets :=
  let groups := k.before.isSome || k.after.isSome
  ((k.near rows).foldl (fun ((shown, last) : Octets × Option Nat) r =>
    let gap := match k.groupMark with
      | some mark =>
        if groups && last.any (· + 1 != r.number) then k.paint "36" mark ++ ['\n'] else []
      | none => []
    let mark := if r.hit then ':' else '-'
    let matching := r.hit != s.inverted
    let spans := if matching && (k.colored || k.onlyParts) then s.spans r.line else []
    let text :=
      if k.onlyParts then
        spans.flatMap fun (start, stop) =>
          k.front name r.number (r.place + start) mark ++
            k.paint "01;31" ((r.line.take stop).drop start) ++ [k.ending]
      else
        k.front name r.number r.place mark ++ k.painted spans r.line ++ [k.ending]
    (shown ++ gap ++ (if k.onlyParts && !r.hit then [] else text), some r.number))
    ([], if follows then some rows.length else none)).1

/-- The files to search below a folder; folders for which `passes` holds are left out. -/
def filesBelow (d : Desk) (passes : Octets → Bool) (name : Octets) : List Octets :=
  match itemAt d.files (d.path name) with
  | .ok (p, .folder) =>
    if passes name then []
    else (foldersBelow d.files (d.files.items.length + 1) name p).flatMap fun (front, q) =>
      if (q.drop p.length).any fun n => passes (octets n) then []
      else (d.files.namesIn q).filterMap fun n =>
        match d.files.item? (q ++ [n]) with
        | some (.file ..) =>
          some ((if front.getLast? = some '/' then front else front ++ ['/']) ++ octets n)
        | _ => none
  | _ => [name]

def grepUsage : String :=
  "Usage: grep [OPTION]... PATTERNS [FILE]...\nTry 'grep --help' for more information."

/-- A name fits one of some patterns, as a whole or by its last part. -/
def fitsAny (patterns : List Octets) (name : Octets) : Bool :=
  patterns.any fun p => PatternItem.fits (patternOfText p) name ||
    PatternItem.fits (patternOfText p) (lastName name)

/-- The lengths of context, or what was given in place of one. -/
def contextLengths (o : Options) : Except Octets (Option Nat × Option Nat) := do
  let read (c : Char) : Except Octets (Option Nat) :=
    match o.value? c with
    | none => .ok none
    | some v => match count? v with
      | some n => .ok (some n)
      | none => .error v
  let digits := (o.given.map (·.1)).filter Char.isDigit
  let both := (← read 'C') <|> (count? digits)
  return ((← read 'B') <|> both, (← read 'A') <|> both)

/-- How many lines are looked for at most, if the value makes sense. -/
def mostLines? (o : Options) : Option (Option Nat) :=
  match o.value? 'm' with
  | none => some none
  | some ('-' :: digits) => (count? digits).map fun _ => none
  | some digits => (count? digits).map some

/-- What a search has come to. -/
structure SearchState where
  ended : Ended
  found : Bool
  /-- Nothing more is searched. -/
  isOver : Bool

/-- What is done with each file. -/
structure SearchTask where
  search : Search
  look : SearchLook
  most : Option Nat
  label : Octets
  has : Char → Bool

/-- The lines up to an ending. -/
def pieces (ending : Char) (cs : Octets) : List Octets :=
  let all := cutAt ending cs
  if all.getLast? = some [] then all.dropLast else all

namespace SearchTask

/-- Looks for lines in a text. -/
def inText (t : SearchTask) (d : Desk) (name cs : Octets) (state : SearchState) : SearchState :=
  let e := state.ended
  let rows := searchRows t.search t.most (pieces t.look.ending cs)
  let shown := if name = ['-'] then t.label else name
  let hits := rows.countP (·.hit)
  let found := 0 < hits
  let isBinary := t.look.ending != '\x00' && cs.contains '\x00' && !t.has 'a'
  let named := t.look.paint "35" shown
  let ending : Char := if t.look.zeroNames then '\x00' else '\n'
  if isBinary && t.has 'I' then state
  else
    let (text, complaint) :=
      if t.has 'q' then ([], [])
      else if t.has 'l' then (if found then named ++ [ending] else [], [])
      else if t.has 'L' then (if found then [] else named ++ [ending], [])
      else if t.has 'c' then
        ((if t.look.named then named ++ (if t.look.zeroNames then ['\x00']
          else t.look.paint "36" [':']) else []) ++ Text.digitsOf hits ++ ['\n'], [])
      else if isBinary && found then
        ([], octets "grep: " ++ shown ++ octets ": binary file matches\n")
      else (t.look.show t.search shown (!e.output.isEmpty) rows, [])
    -- a file as input is left behind the last line that was looked for
    let rest :=
      if name = ['-'] && d.inputSize.isSome && t.most = some hits && !t.has 'q' then
        match (rows.filter (·.hit)).getLast? with
        | some r => cs.drop (r.place + r.line.length + 1)
        | none => cs
      else e.restOfInput
    { ended := { (e.say text).warn complaint with restOfInput := rest }
      found := state.found || found
      isOver := state.isOver || (t.has 'q' && found) }

def inFile (t : SearchTask) (d : Desk) (state : SearchState) (name : Octets) : SearchState :=
  if state.isOver then state
  else match d.content name with
    | .ok cs => t.inText d name cs state
    | .error fault =>
      let e := state.ended
      let complaint := if t.has 's' then [] else
        octets "grep: " ++ name ++ octets s!": {reasonOf fault}\n"
      { state with ended := { e.warn complaint with status := 2 } }

end SearchTask

/-- The files that are searched. -/
def searchedFiles (d : Desk) (o : Options) (deep : Bool) (operands : List Octets) : List Octets :=
  let names := if operands.isEmpty then (if deep then [['.']] else [['-']]) else operands
  let passes := fitsAny (o.values Search.excludeFolderOption)
  let files := if deep then names.flatMap (filesBelow d passes)
    else if o.value? 'd' = some (octets "skip") then names.filter fun n => !isFolderAt d n
    else names
  let files := if deep && operands.isEmpty then
      files.map fun n => if ['.', '/'].isPrefixOf n then n.drop 2 else n
    else files
  files.filter fun n => n = ['-'] ||
    (!fitsAny (o.values Search.excludeOption) n &&
      (!o.has Search.includeOption || fitsAny (o.values Search.includeOption) n))

/-- The expressions for some patterns, with the warnings about them. -/
def searchPatterns (o : Options) (extra : Octets) (patterns : List Octets) :
    Except String (List Regex × List String) := do
  let has (c : Char) : Bool := o.has c || extra.contains c
  if has 'F' then return (patterns.map literalRegex, [])
  else
    let dialect := if has 'P' then .perl else .search (has 'E')
    let read ← patterns.mapM fun p =>
      (Regex.readNoting dialect p).mapError fun fault => s!"grep: {fault.message}"
    return (read.map (·.1), read.flatMap (·.2))

def grepWith (extra : Octets) (d : Desk) (args : List Octets) : Ended :=
  match Search.kinds.read true args with
  | .error fault => d.complain (octets "grep: " ++ fault.message ++ ['\n'] ++ octets grepUsage) 2
  | .ok o =>
    let has (c : Char) : Bool := o.has c || extra.contains c
    let fromFiles := (o.values 'f').map fun name => (name, d.content name)
    let given := (o.values 'e').flatMap (cutAt '\n') ++
      fromFiles.flatMap fun (_, c) => linesOf (c.toOption.getD [])
    let asked := o.has 'e' || o.has 'f'
    let operands := if asked then o.operands else o.operands.tail
    match contextLengths o, mostLines? o with
    | .error v, _ =>
      d.complain (octets "grep: " ++ v ++ octets ": invalid context length argument") 2
    | _, none => d.complain (octets "grep: invalid max count") 2
    | .ok (before, after), some most =>
      if 1 < (['E', 'F', 'G', 'P'].filter has).length then
        d.complain (octets "grep: conflicting matchers specified") 2
      else match fromFiles.findSome? (fun (name, c) => match c with
          | .error fault => some (aboutFile "grep" name fault)
          | .ok _ => none), asked, o.operands with
      | some complaint, _, _ => d.complain complaint 2
      | none, false, [] => d.complain (octets grepUsage) 2
      | none, _, words =>
        let patterns := if asked then given else cutAt '\n' (words.head?.getD [])
        match searchPatterns o extra patterns with
        | .error message => d.complain (octets message) 2
        | .ok (regexes, idle) =>
          let folds := (o.given.reverse.find? fun (c, _) =>
            c == 'i' || c == 'y' || c == Search.noCaseOption).any (·.1 != Search.noCaseOption)
          let deep := has 'r' || has 'R' || o.value? 'd' = some (octets "recurse")
          let named := match o.given.reverse.find? fun (c, _) => c == 'h' || c == 'H' with
            | some (c, _) => c == 'H'
            | none => (deep && (operands.isEmpty || operands.any (isFolderAt d))) ||
              1 < operands.length
          let look : SearchLook :=
            { named, numbered := has 'n', placed := has 'b', onlyParts := has 'o'
              colored := o.value? Search.colorOption = some (octets "always")
              zeroNames := has 'Z', tabbed := has 'T', before, after
              groupMark := if o.has Search.noGroupMarkOption then none
                else some ((o.value? Search.groupMarkOption).getD ['-', '-'])
              ending := if has 'z' then '\x00' else '\n' }
          let kind := o.value? Search.binaryOption
          let task : SearchTask :=
            { search := ⟨regexes, folds, has 'w', has 'x', has 'v'⟩, look, most
              label := (o.value? Search.labelOption).getD (octets "(standard input)")
              has := fun c => has c || (c = 'a' && kind = some (octets "text")) ||
                (c = 'I' && kind = some (octets "without-match")) }
          let names := searchedFiles d o deep operands
          let warnings := idle.flatMap fun shown =>
            octets "grep: warning: " ++ octets shown ++ octets " at start of expression\n"
          let start : SearchState :=
            ⟨⟨[.complaint warnings], 0, d.inputAfter names, d.files⟩, false, false⟩
          let state := names.foldl (task.inFile d) start
          let e := state.ended
          { e with
            status := if has 'q' && state.found then 0 else if e.status = 2 then 2
              else if state.found then 0 else 1 }

end Utility

end Signoff.Shell
