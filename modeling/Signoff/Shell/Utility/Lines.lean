import Signoff.Shell.Utility.Options

/-!
# Utilities for lines

Printing, counting, numbering and turning lines, and taking those at an end of a text.
-/

namespace Signoff.Shell

namespace Utility

/-- A text in pieces, each with its ending if it has one. -/
def rawPieces (ending : Char) (cs : Octets) : List Octets :=
  let pieces := cutAt ending cs
  pieces.dropLast.map (· ++ [ending]) ++ pieces.getLast?.toList.filter (!·.isEmpty)

/-- The lines of a text, each with its line feed if it has one. -/
def rawLines (cs : Octets) : List Octets := rawPieces '\n' cs

/-- A control character as two printable ones. -/
def shownOctet (showTabs : Bool) (c : Char) : Octets :=
  let n := c.toNat
  if c = '\n' || (c = '\t' && !showTabs) then [c]
  else if n < 32 then ['^', Char.ofNat (n + 64)]
  else if n = 127 then ['^', '?']
  else if n < 128 then [c]
  else 'M' :: '-' :: (if n - 128 < 32 then ['^', Char.ofNat (n - 128 + 64)]
    else if n = 255 then ['^', '?'] else [Char.ofNat (n - 128)])

/-- Drops empty lines behind an empty line. -/
def squeezeBlank : Bool → List Octets → List Octets
  | _, [] => []
  | lastEmpty, line :: rest =>
    if line = ['\n'] then
      if lastEmpty then squeezeBlank true rest else line :: squeezeBlank true rest
    else line :: squeezeBlank false rest

def numberedFrom (all : Bool) : Nat → List Octets → List Octets
  | _, [] => []
  | n, line :: rest =>
    if all || line != ['\n'] then
      (padLeft 6 (Text.digitsOf n) ++ '\t' :: line) :: numberedFrom all (n + 1) rest
    else line :: numberedFrom all n rest

def catKinds : OptionKinds :=
  ⟨"nbsAETvetu", "", [("number", 'n'), ("number-nonblank", 'b'), ("squeeze-blank", 's'),
    ("show-all", 'A'), ("show-ends", 'E'), ("show-tabs", 'T'), ("show-nonprinting", 'v')]⟩

def cat (d : Desk) (args : List Octets) : Ended :=
  catKinds.use d "cat" 1 args fun o =>
    d.filter o.operands 1 (aboutFile "cat") fun cs =>
      if o.given.isEmpty then cs
      else
        let shows := o.has 'A' || o.has 'v' || o.has 'e' || o.has 't' || o.has 'T'
        let tabs := o.has 'A' || o.has 'T' || o.has 't'
        let lines := rawLines cs
        let lines := if o.has 's' then squeezeBlank false lines else lines
        let marks (line : Octets) : Octets :=
          let line := if shows then line.flatMap (shownOctet tabs) else line
          if (o.has 'A' || o.has 'E' || o.has 'e') && line.getLast? = some '\n' then
            line.dropLast ++ ['$', '\n'] else line
        let lines := if o.has 'b' then numberedFrom false 1 lines
          else if o.has 'n' then numberedFrom true 1 lines else lines
        (lines.map marks).flatten

/-- How much of a text is meant: a count from its start, all but so much at its end, or all from
a place on. -/
inductive Extent
  | first (n : Nat)
  | butLast (n : Nat)
  | last (n : Nat)
  | fromItem (n : Nat)

def Extent.take (e : Extent) (items : List Octets) : List Octets :=
  match e with
  | .first n => items.take n
  | .butLast n => items.take (items.length - n)
  | .last n => items.drop (items.length - n)
  | .fromItem n => items.drop (n - 1)

def headExtent? (value : Octets) : Option Extent :=
  match value with
  | '-' :: digits => (scaledCount? digits).map .butLast
  | '+' :: digits => (scaledCount? digits).map .first
  | _ => (scaledCount? value).map .first

def tailExtent? (value : Octets) : Option Extent :=
  match value with
  | '+' :: digits => (scaledCount? digits).map .fromItem
  | '-' :: digits => (scaledCount? digits).map .last
  | _ => (scaledCount? value).map .last

def endKinds : OptionKinds :=
  ⟨"qvfFz", "ncs", [("lines", 'n'), ("bytes", 'c'), ("quiet", 'q'), ("silent", 'q'),
    ("verbose", 'v'), ("zero-terminated", 'z'), ("follow", 'f')]⟩

/-- Arguments in which counts have a letter, or a complaint about a count behind a hyphen. For the
front other letters may follow the count; for the end it may only stand alone with at most one
file, where it may also have a plus. -/
def spelledOut (isTail : Bool) (args : List Octets) : Except Octets (List Octets) :=
  match args with
  | (sign :: c :: more) :: rest =>
    let digits := (c :: more).takeWhile Char.isDigit
    let letters := more.drop (digits.length - 1)
    let counted (letters : Octets) : List Octets :=
      let letter := if letters.contains 'c' || letters.contains 'b' then 'c' else 'n'
      let flags := letters.filter ['q', 'v', 'z'].contains
      let unit := if letters.contains 'b' then ['b'] else []
      ['-', letter] :: ((if sign = '+' then '+' :: digits else digits) ++ unit) ::
        ((if flags.isEmpty then [] else ['-' :: flags]) ++ rest)
    if !c.isDigit || !(sign = '-' || (isTail && sign = '+')) then .ok args
    else if isTail then
      let files := rest.filter (· != ['-', '-'])
      if files.length ≤ 1 && [[], ['c'], ['l'], ['f'], ['b']].contains letters then
        .ok (counted letters)
      else if sign = '+' then .ok args
      else .error (octets "tail: option used in invalid context -- " ++ [c])
    else
      match letters.find? fun l => not (['c', 'q', 'v', 'z', 'b', 'k', 'm', 'l'].contains l) with
      | some l => .error (octets "head: invalid trailing option -- " ++ l ::
          octets "\nTry 'head --help' for more information.")
      | none => .ok (counted letters)
  | _ => .ok args

/-- The part of each file that is meant, with the names of the files if there are several. -/
def endsWith (d : Desk) (utility : String) (extent? : Octets → Option Extent) (o : Options) :
    Ended :=
  let counted := o.given.reverse.find? fun (l, _) => l == 'n' || l == 'c'
  let inBytes := counted.any (·.1 == 'c')
  let value := (counted.map (·.2)).getD ['1', '0']
  match extent? value with
  | none =>
    let digits := value.dropWhile fun c => c == '-' || c == '+'
    let shown := if ['-', '+'].contains (value.head?.getD ' ') then digits else value
    d.complain (octets s!"{utility}: invalid number of " ++
      octets (if inBytes then "bytes: " else "lines: ") ++ quoteWord shown) 1
  | some extent =>
    let names := Desk.orInput o.operands
    let titled := (names.length > 1 || o.has 'v') && !o.has 'q'
    let taken (cs : Octets) : Octets :=
      (extent.take (if inBytes then cs.map ([·])
        else rawPieces (if o.has 'z' then '\x00' else '\n') cs)).flatten
    let add (e : Ended) (name : Octets) : Ended :=
      let shown := if name = ['-'] then octets "standard input" else name
      let title := if titled then
          (if e.output.isEmpty then [] else ['\n']) ++ octets "==> " ++ shown ++ octets " <==\n"
        else []
      match endContent extent name with
      | .ok cs => e.say (title ++ taken cs)
      | .error .isADirectory =>
        (e.say title).fail (octets s!"{utility}: error reading " ++ quoteName name ++
          octets ": Is a directory") 1
      | .error fault =>
        e.fail (octets s!"{utility}: cannot open " ++ quoteName name ++
          octets s!" for reading: {reasonOf fault}") 1
    -- what is not taken from the front is left to be read
    let isFirst := match extent with
      | .first _ => true
      | _ => false
    let leaves := utility == "head" && names.contains ['-'] &&
      (d.inputSize.isSome || (inBytes && isFirst))
    let rest := if leaves then d.input.drop (taken d.input).length else d.inputAfter names
    names.foldl add ⟨[], 0, rest, d.files⟩
where
  /-- A file of zeros without end is as long as anyone asks. -/
  endContent (extent : Extent) (name : Octets) : Except Fault Octets :=
    if name = "/dev/zero".toList then
      .ok (match extent with
        | .first n => List.replicate n '\x00'
        | _ => [])
    else d.content name

def ends (d : Desk) (utility : String) (extent? : Octets → Option Extent) (args : List Octets) :
    Ended :=
  match spelledOut (utility == "tail") args with
  | .error message => d.complain message 1
  | .ok args => match endKinds.read true args with
    | .error (.unknown c) =>
      -- counts belong to the front of the arguments
      if !c.isDigit then d.refuse utility (OptionKinds.Fault.unknown c).message 1
      else if utility == "tail" then
        d.complain (octets "tail: option used in invalid context -- " ++ [c]) 1
      else d.refuse "head" (octets "invalid trailing option -- " ++ [c]) 1
    | .error fault => d.refuse utility fault.message 1
    | .ok o => endsWith d utility extent? o

structure Counts where
  lines : Nat
  words : Nat
  bytes : Nat
  longest : Nat

def wordCount (cs : Octets) : Nat :=
  (cs.foldl (fun (n, inWord) c =>
    let blank := isBlankOctet c
    (if !blank && !inWord then n + 1 else n, !blank)) (0, false)).1

/-- The width at which a line is shown; a tab goes to the next multiple of eight. -/
def shownWidth (line : Octets) : Nat :=
  line.foldl (fun n c => if c = '\t' then n + 8 - n % 8 else if c.toNat < 32 then n else n + 1) 0

def countsOf (cs : Octets) : Counts :=
  ⟨cs.count '\n', wordCount cs, cs.length,
    (linesOf cs).foldl (fun n line => if n < shownWidth line then shownWidth line else n) 0⟩

def Counts.add (a b : Counts) : Counts :=
  ⟨a.lines + b.lines, a.words + b.words, a.bytes + b.bytes,
    if a.longest < b.longest then b.longest else a.longest⟩

/-- When sums are shown. -/
inductive TotalRule
  | auto
  | always
  | only
  | never

/-- The word behind the option for sums; its front is enough. -/
def totalRule? (cs : Octets) : Option TotalRule :=
  if cs.isEmpty then none
  else
    let words : List (String × TotalRule) :=
      [("auto", .auto), ("always", .always), ("only", .only), ("never", .never)]
    match words.filter fun (w, _) => cs.isPrefixOf w.toList with
    | [(_, rule)] => some rule
    | _ => none

/-- Stands for the option for sums. -/
def totalOption : Char := '\x01'

def wcKinds : OptionKinds :=
  ⟨"lwcmL", "\x01", [("lines", 'l'), ("words", 'w'), ("bytes", 'c'), ("chars", 'm'),
    ("max-line-length", 'L'), ("total", totalOption)]⟩

/-- The sizes of the files among some names; what is no file has none. -/
def sizesOf (d : Desk) (names : List Octets) : List (Option Nat) :=
  names.filterMap fun name =>
    if name = ['-'] then some d.inputSize
    else if "/dev/".toList.isPrefixOf name then some none
    else match d.files.read (d.path name) with
      | .ok bytes => some (some bytes.size)
      | .error .isADirectory => some none
      | .error _ => none

def countRows (d : Desk) (o : Options) (rule : TotalRule) : Ended :=
  let letters := o.given.filter (·.1 != totalOption)
  let some? (letter : Char) := letters.isEmpty && letter != 'L' && letter != 'm' || o.has letter
  let figures (c : Counts) : List Nat :=
    (if some? 'l' then [c.lines] else []) ++ (if some? 'w' then [c.words] else []) ++
      (if some? 'm' then [c.bytes] else []) ++ (if some? 'c' then [c.bytes] else []) ++
      (if some? 'L' then [c.longest] else [])
  let names := Desk.orInput o.operands
  let sizes := sizesOf d names
  let total := sizes.foldl (fun n size => n + size.getD 0) 0
  let (onlySums, sums) : Bool × Bool := match rule with
    | .auto => (false, 1 < names.length)
    | .always => (false, true)
    | .only => (true, true)
    | .never => (false, false)
  let width := if onlySums || (names.length = 1 && (figures ⟨0, 0, 0, 0⟩).length = 1) then 1
    else if sizes.any Option.isNone && (Text.digitsOf total).length < 7 then 7
    else (Text.digitsOf total).length
  let row (c : Counts) (name : Octets) : Octets :=
    joined [' '] ((figures c).map fun n => padLeft width (Text.digitsOf n)) ++
      (if name.isEmpty then [] else ' ' :: quoteIfNeeded name) ++ ['\n']
  let add (state : Ended × Counts) (name : Octets) : Ended × Counts :=
    let (e, sum) := state
    match d.content name with
    | .ok cs =>
      let c := countsOf cs
      let shown := if onlySums then [] else row c (if o.operands.isEmpty then [] else name)
      (e.say shown, sum.add c)
    | .error fault =>
      let shown := if fault = .isADirectory && !onlySums then row ⟨0, 0, 0, 0⟩ name else []
      ((e.fail (aboutFile "wc" name fault) 1).say shown, sum)
  let (e, sum) := names.foldl add (⟨[], 0, d.inputAfter names, d.files⟩, ⟨0, 0, 0, 0⟩)
  if sums then e.say (row sum (if onlySums then [] else octets "total")) else e

def wc (d : Desk) (args : List Octets) : Ended :=
  wcKinds.use d "wc" 1 args fun o =>
    match totalRule? ((o.value? totalOption).getD (octets "auto")) with
    | some rule => countRows d o rule
    | none =>
      d.complain (octets "wc: invalid argument " ++
        quoteWord ((o.value? totalOption).getD []) ++ octets (" for '--total'\n" ++
          "Valid arguments are:\n  - 'auto'\n  - 'always'\n  - 'only'\n  - 'never'\n" ++
          "Try 'wc --help' for more information.")) 1

def tac (d : Desk) (args : List Octets) : Ended :=
  (⟨"b", "rs", [("before", 'b'), ("separator", 's')]⟩ : OptionKinds).use d "tac" 1 args fun o =>
  d.filterEach o.operands 1 (fun name fault => octets "tac: failed to open " ++ quoteName name ++
    octets s!" for reading: {reasonOf fault}") fun cs => (rawLines cs).reverse.flatten

def rev (d : Desk) (args : List Octets) : Ended :=
  (⟨"0", "", [("zero", '0')]⟩ : OptionKinds).use d "rev" 1 args fun o =>
  d.filterEach o.operands 1 (fun name fault => octets "rev: cannot open " ++ name ++
    octets s!": {reasonOf fault}") fun cs =>
      (rawLines cs).flatMap fun line =>
        if line.getLast? = some '\n' then line.dropLast.reverse ++ ['\n'] else line.reverse

def nlKinds : OptionKinds :=
  ⟨"p", "bwsvinhfdl", [("body-numbering", 'b'), ("number-width", 'w'), ("number-separator", 's'),
    ("starting-line-number", 'v'), ("line-increment", 'i'), ("number-format", 'n')]⟩

def nl (d : Desk) (args : List Octets) : Ended :=
  nlKinds.use d "nl" 1 args fun o =>
    let all := o.value? 'b' == some ['a']
    let none? := o.value? 'b' == some ['n']
    let width := ((o.value? 'w').bind count?).getD 6
    let separator := (o.value? 's').getD ['\t']
    let first := ((o.value? 'v').bind count?).getD 1
    let increment := ((o.value? 'i').bind count?).getD 1
    let shown (n : Nat) : Octets :=
      let digits := Text.digitsOf n
      match o.value? 'n' with
      | some ['l', 'n'] => digits ++ List.replicate (width - digits.length) ' '
      | some ['r', 'z'] => List.replicate (width - digits.length) '0' ++ digits
      | _ => padLeft width digits
    d.filter o.operands 1 (aboutFile "nl") fun cs =>
      ((linesOf cs).foldl (fun (state : List Octets × Nat) line =>
        if !none? && (all || !line.isEmpty) then
          ((shown state.2 ++ separator ++ line ++ ['\n']) :: state.1, state.2 + increment)
        else
          ((List.replicate (width + separator.length) ' ' ++ line ++ ['\n']) :: state.1, state.2))
        ([], first)).1.reverse.flatten

/-- Lines of at most a width. -/
def foldLine (width : Nat) (atBlanks : Bool) : Nat → Octets → Octets
  | 0, cs => cs
  | fuel + 1, cs =>
    if cs.length ≤ width then cs
    else
      let piece := cs.take width
      let upToBlank := (piece.reverse.dropWhile (· != ' ')).reverse
      let piece := if atBlanks && !upToBlank.isEmpty then upToBlank else piece
      piece ++ '\n' :: foldLine width atBlanks fuel (cs.drop piece.length)

def foldKinds : OptionKinds := ⟨"sb", "w", [("width", 'w'), ("spaces", 's')]⟩

def foldLines (d : Desk) (args : List Octets) : Ended :=
  foldKinds.use d "fold" 1 args fun o =>
    match o.value? 'w', (o.value? 'w').bind count? with
    | some v, none => d.complain (octets "fold: invalid number of columns: " ++ quoteWord v) 1
    | some v, some 0 => d.complain (octets "fold: invalid number of columns: " ++ quoteWord v) 1
    | _, width => d.filter o.operands 1 (aboutFile "fold") fun cs =>
      let width := width.getD 80
      (rawLines cs).flatMap fun line =>
        let body := line.takeWhile (· != '\n')
        foldLine width (o.has 's') (body.length + 1) body ++ line.drop body.length

/-- A line with blanks in the place of tabs; `column` is where it starts. -/
def untabbed (width : Nat) : Nat → Octets → Octets
  | _, [] => []
  | column, c :: rest =>
    if c = '\t' then
      let gap := width - column % width
      List.replicate gap ' ' ++ untabbed width (column + gap) rest
    else c :: untabbed width (if c = '\n' then 0 else column + 1) rest

def expandKinds : OptionKinds := ⟨"i", "t", [("tabs", 't'), ("initial", 'i')]⟩

def expand (d : Desk) (args : List Octets) : Ended :=
  expandKinds.use d "expand" 1 args fun o =>
    let width := ((o.value? 't').bind count?).getD 8
    d.filter o.operands 1 (aboutFile "expand") (untabbed (if width = 0 then 8 else width) 0)

def teeKinds : OptionKinds := ⟨"ai", "", [("append", 'a')]⟩

/-- Prints the input and writes it to files. -/
def tee (d : Desk) (args : List Octets) : Ended :=
  teeKinds.use d "tee" 1 args fun o =>
    o.operands.foldl (fun e name =>
      let before := if o.has 'a' then ((e.files.read (d.path name)).toOption).getD ByteArray.empty
        else ByteArray.empty
      if name = "/dev/null".toList then e
      else if name = "/dev/stderr".toList then e.warn d.input
      else match e.files.write (d.path name) (before ++ fileContent d.input) with
        | .ok files => { e with files }
        | .error fault =>
          e.fail (aboutFile "tee" name fault) 1)
      ⟨[.output d.input], 0, [], d.files⟩

/-- How many lines are printed where nobody stops it. -/
def endlessLines : Nat := 20000

def yes (d : Desk) (args : List Octets) : Ended :=
  let line := (if args.isEmpty then ['y'] else joined [' '] args) ++ ['\n']
  d.done (List.replicate endlessLines line).flatten 0

/-- Bytes in rows of sixteen: as characters, or as numbers in a base of some bytes each. -/
def dump (d : Desk) (args : List Octets) : Ended :=
  let kinds : OptionKinds := ⟨"vbcdox", "AtNjw", [("address-radix", 'A'), ("format", 't')]⟩
  kinds.use d "od" 1 args fun o =>
    let form := if o.has 'c' then ['c'] else if o.has 'b' then ['o', '1']
      else if o.has 'x' then ['x', '2'] else if o.has 'd' then ['u', '2']
      else (o.value? 't').getD ['o', '2']
    let e := d.filter o.operands 1 (aboutFile "od") fun cs =>
      let cs := cs.take (((o.value? 'N').bind count?).getD cs.length)
      let address (n : Nat) : Octets :=
        match o.value? 'A' with
        | some ['n'] => []
        | some ['d'] => zeroFilled 7 (Nat.toDigits 10 n)
        | some ['x'] => zeroFilled 6 (Nat.toDigits 16 n)
        | _ => zeroFilled 7 (Nat.toDigits 8 n)
      let rows := (List.range ((cs.length + 15) / 16)).flatMap fun i =>
        address (16 * i) ++ items form ((cs.drop (16 * i)).take 16) ++ ['\n']
      let last := address cs.length
      rows ++ if last.isEmpty then [] else last ++ ['\n']
    let isLost := !o.operands.isEmpty && o.operands.all fun n => (d.content n).toOption.isNone
    if isLost then { e with said := [.complaint e.complaint] } else e
where
  charItem (c : Char) : Octets :=
    let n := c.toNat
    let escape? := [('\x00', "\\0"), ('\x07', "\\a"), ('\x08', "\\b"), ('\x0c', "\\f"),
      ('\n', "\\n"), ('\r', "\\r"), ('\t', "\\t"), ('\x0b', "\\v")].find? (·.1 == c)
    padLeft 4 (match escape? with
      | some (_, text) => text.toList
      | none => if 32 ≤ n && n < 127 then [c] else zeroFilled 3 (Nat.toDigits 8 n))
  items (form : Octets) (cs : Octets) : Octets :=
    let base := if form.head? = some 'x' then 16 else if form.head? = some 'o' then 8 else 10
    if form.head? = some 'c' || form.head? = some 'a' then cs.flatMap charItem
    else
      let size := ((count? (form.drop 1)).getD (if form.length = 1 then 4 else 2))
      let size := if size = 0 then 1 else size
      let digits := if base = 16 then 2 * size else if base = 8 then (8 * size + 2) / 3
        else (Nat.toDigits 10 (Nat.pow 256 size - 1)).length
      (List.range ((cs.length + size - 1) / size)).flatMap fun i =>
        let value := ((cs.drop (size * i)).take size).foldr (fun c n => 256 * n + c.toNat) 0
        ' ' :: (if base = 10 then padLeft digits (Nat.toDigits 10 value)
          else zeroFilled digits (Nat.toDigits base value))

end Utility

end Signoff.Shell
