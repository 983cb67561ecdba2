import Signoff.Shell.Format
import Signoff.Shell.Utility.Lines

/-!
# Utilities for the order of lines

Sorting by keys, and working on lines that are sorted.
-/

namespace Signoff.Shell

namespace Utility

open Signoff.Number

/-- How keys are compared. -/
structure SortRules where
  numeric : Bool
  general : Bool
  human : Bool
  version : Bool
  month : Bool
  folds : Bool
  skipsBlanks : Bool
  dictionary : Bool
  reverse : Bool

namespace SortRules

def ofLetters (letters : Octets) : SortRules :=
  { numeric := letters.contains 'n', general := letters.contains 'g'
    human := letters.contains 'h', version := letters.contains 'V'
    month := letters.contains 'M'
    folds := letters.contains 'f', skipsBlanks := letters.contains 'b'
    dictionary := letters.contains 'd', reverse := letters.contains 'r' }

end SortRules

/-- A key: from a character of a field to a character of a field, each counted from one; without
a last character it goes to the end of its last field. -/
structure SortKey where
  field : Nat
  char : Nat
  lastField : Option Nat
  lastChar : Nat
  rules : Option SortRules

def keyLetters : Octets := "bdfghinrMV".toList

/-- A place in a key, such as `2`, `2.3` or `2.3nr`. -/
def keyPlace? (cs : Octets) : Option (Nat × Nat × Octets) :=
  let field := cs.takeWhile Char.isDigit
  let rest := cs.drop field.length
  let (char, letters) := match rest with
    | '.' :: more => (more.takeWhile Char.isDigit, more.dropWhile Char.isDigit)
    | _ => ([], rest)
  if letters.all keyLetters.contains then
    (count? field).map fun n => (n, (count? char).getD 0, letters)
  else none

def sortKey? (cs : Octets) : Option SortKey :=
  let rules (letters : Octets) : Option SortRules :=
    if letters.isEmpty then none else some (SortRules.ofLetters letters)
  match cutAt ',' cs with
  | [a] => (keyPlace? a).map fun (f, c, letters) =>
    ⟨f, if c = 0 then 1 else c, none, 0, rules letters⟩
  | [a, b] => do
    let (f, c, these) ← keyPlace? a
    let (g, e, those) ← keyPlace? b
    return ⟨f, if c = 0 then 1 else c, some g, e, rules (these ++ those)⟩
  | _ => none

/-- The fields of a line. Without a separator a field has the blanks in front of it. -/
def sortFields (separator : Option Char) (line : Octets) : List Octets :=
  match separator with
  | some c => (cutAt c line).foldr (fun piece rest =>
      (if rest.isEmpty then piece else piece ++ [c]) :: rest) []
  | none =>
    let blank (c : Char) : Bool := c == ' ' || c == '\t'
    line.foldr (fun c rest => match rest with
      | (d :: piece) :: more => if blank d && !blank c then [c] :: rest else (c :: d :: piece) :: more
      | _ => [c] :: rest.drop 1) []

def dropBlanks (cs : Octets) : Octets := cs.dropWhile fun c => c == ' ' || c == '\t'

/-- The part of a line that a key means. -/
def keyText (separator : Option Char) (k : SortKey) (rules : SortRules) (line : Octets) : Octets :=
  let fields := sortFields separator line
  let trim (cs : Octets) : Octets := if rules.skipsBlanks then dropBlanks cs else cs
  let front := fields.take (k.field - 1)
  let start := front.flatten.length
  let first := (fields[k.field - 1]?).getD []
  let skipped := first.length - (trim first).length
  let start := start + skipped + (k.char - 1)
  let stop := match k.lastField with
    | none => line.length
    | some g =>
      let before := ((fields.take (g - 1)).flatten).length
      let last := (fields[g - 1]?).getD []
      let last := match separator with
        | some c => if last.getLast? = some c then last.dropLast else last
        | none => last
      if k.lastChar = 0 then before + last.length
      else before + (last.length - (trim last).length) + k.lastChar
  (line.take stop).drop start

/-- The number at the front of a text, in billionths. -/
def numericValue (cs : Octets) : Int :=
  let cs := cs.dropWhile isBlankOctet
  let (negative, body) := match cs with
    | '-' :: rest => (true, rest)
    | _ => (false, cs)
  let whole := body.takeWhile Char.isDigit
  let fraction := match body.drop whole.length with
    | '.' :: digits => (digits.takeWhile Char.isDigit).take 9
    | _ => []
  let digits := whole ++ fraction ++ List.replicate (9 - fraction.length) '0'
  let n : Int := ((count? digits).getD 0 : Nat)
  if negative then -n else n

/-- The rank of a suffix for thousands, and the number. -/
def humanValue (cs : Octets) : Int × Int :=
  let n := numericValue cs
  let rest := (cs.dropWhile isBlankOctet).dropWhile fun c => c.isDigit || c == '-' || c == '.'
  let rank : Nat := match rest.head? with
    | some c => match "KMGTPEZY".toList.findIdx? (· == c.toUpper) with
      | some i => i + 1
      | none => 0
    | none => 0
  (if n < 0 then -(rank : Int) else rank, n)

/-- The number of a month by the front of its name, and zero for anything else. -/
def monthValue (cs : Octets) : Nat :=
  let front := ((dropBlanks cs).take 3).map Char.toUpper
  match ["JAN", "FEB", "MAR", "APR", "MAY", "JUN", "JUL", "AUG", "SEP", "OCT", "NOV",
      "DEC"].findIdx? (·.toList == front) with
  | some i => i + 1
  | none => 0

def compareInt (a b : Int) : Ordering := if a < b then .lt else if b < a then .gt else .eq

/-- Digits count as numbers, and other characters by their codes. -/
def compareVersion : Nat → Octets → Octets → Ordering
  | 0, _, _ => .eq
  | fuel + 1, a, b =>
    let (s, t) := (a.takeWhile (!·.isDigit), b.takeWhile (!·.isDigit))
    match compareOctets s t with
    | .eq =>
      let (a, b) := (a.drop s.length, b.drop t.length)
      if a.isEmpty || b.isEmpty then compareInt a.length b.length
      else
        let (m, n) := (a.takeWhile Char.isDigit, b.takeWhile Char.isDigit)
        match compareInt ((count? m).getD 0 : Nat) ((count? n).getD 0 : Nat) with
        | .eq => compareVersion fuel (a.drop m.length) (b.drop n.length)
        | o => o
    | o => o

def compareBy (rules : SortRules) (a b : Octets) : Ordering :=
  let o :=
    if rules.numeric then compareInt (numericValue a) (numericValue b)
    else if rules.human then
      let (r, m) := humanValue a
      let (s, n) := humanValue b
      (compareInt r s).then (compareInt m n)
    else if rules.general then
      compareInt (Format.realAt a).1.place (Format.realAt b).1.place
    else if rules.month then compareInt (monthValue a) (monthValue b)
    else if rules.version then compareVersion (a.length + 1) a b
    else
      let clean (cs : Octets) : Octets :=
        let cs := if rules.skipsBlanks then dropBlanks cs else cs
        let cs := if rules.dictionary then
          cs.filter fun c => c.isAlphanum || c == ' ' || c == '\t' else cs
        if rules.folds then cs.map Char.toUpper else cs
      compareOctets (clean a) (clean b)
  if rules.reverse then o.swap else o

def sortKinds : OptionKinds :=
  ⟨"bdfghinrMVsucmzC", "ktoST", [("zero-terminated", 'z'), ("month-sort", 'M'),
    ("ignore-nonprinting", 'i'), ("buffer-size", 'S'), ("temporary-directory", 'T'), ("key", 'k'), ("numeric-sort", 'n'), ("reverse", 'r'),
    ("unique", 'u'), ("field-separator", 't'), ("output", 'o'), ("stable", 's'), ("check", 'c'),
    ("ignore-case", 'f'), ("human-numeric-sort", 'h'), ("version-sort", 'V'), ("merge", 'm'),
    ("general-numeric-sort", 'g'), ("ignore-leading-blanks", 'b'), ("dictionary-order", 'd')]⟩

/-- The order of two lines by their keys alone. -/
def compareKeys (separator : Option Char) (keys : List SortKey) (rules : SortRules) (a b : Octets) :
    Ordering :=
  if keys.isEmpty then compareBy rules a b
  else keys.foldl (fun o k =>
    let rules := k.rules.getD rules
    o.then (compareBy rules (keyText separator k rules a) (keyText separator k rules b))) .eq

/-- Leaves the first of neighbours that count as equal. -/
def dropEqual (same : Octets → Octets → Bool) : List Octets → List Octets
  | [] => []
  | a :: rest =>
    match dropEqual same rest with
    | b :: more => if same a b then a :: more else a :: b :: more
    | [] => [a]

/-- Why the separator of fields is refused. -/
def tabFault? (o : Options) : Option Octets :=
  match o.value? 't' with
  | some [] => some (octets "sort: empty tab")
  | some ['\\', '0'] => none
  | some tab =>
    if 1 < tab.length then some (octets "sort: multi-character tab " ++ quoteWord tab) else none
  | none => none

def sort (d : Desk) (args : List Octets) : Ended :=
  sortKinds.use d "sort" 2 args fun o =>
    match tabFault? o with
    | some message => d.complain message 2
    | none => match (o.values 'k').mapM sortKey? with
    | none =>
      let wrong := ((o.values 'k').find? fun v => (sortKey? v).isNone).getD []
      d.complain (octets "sort: invalid number at field start: invalid count at start of " ++
        quoteWord wrong) 2
    | some keys =>
      let names := Desk.orInput o.operands
      match names.findSome? fun name => match d.content name with
          | .ok _ => none
          | .error fault => some (octets (if fault = .isADirectory then "sort: read failed: "
              else "sort: cannot read: ") ++ quoteIfNeeded name ++ octets s!": {reasonOf fault}") with
      | some complaint => d.complain complaint 2
      | none =>
        let rules := SortRules.ofLetters (o.given.map (·.1))
        let separator := match o.value? 't' with
          | some ['\\', '0'] => some '\x00'
          | some (c :: _) => some c
          | _ => none
        let ending := if o.has 'z' then '\x00' else '\n'
        let lines := names.flatMap fun name =>
          dropLastEmpty (cutAt ending ((d.content name).toOption.getD []))
        let byKeys := compareKeys separator keys rules
        let whole (a b : Octets) : Ordering :=
          let o' := byKeys a b
          if o.has 's' || o.has 'u' then o'
          else o'.then (if rules.reverse then compareOctets b a else compareOctets a b)
        let same (a b : Octets) : Bool := byKeys a b == .eq
        if o.has 'c' || o.has 'C' then
          let disorder := (lines.zip lines.tail).zipIdx.find? fun ((a, b), _) =>
            whole a b == .gt || (o.has 'u' && same a b)
          match disorder with
          | none => d.done [] 0
          | some ((_, b), i) =>
            if o.has 'C' then d.done [] 1
            else d.complain (octets "sort: " ++ names.head?.getD [] ++ octets s!":{i + 2}: disorder: " ++
              b) 1
        else
          let sorted := lines.mergeSort fun a b => whole a b != .gt
          let result := (if o.has 'u' then dropEqual same sorted else sorted).flatMap (· ++ [ending])
          match o.value? 'o' with
          | none => ⟨[.output result], 0, d.inputAfter names, d.files⟩
          | some name =>
            match d.files.write (d.path name) (fileContent result) with
            | .ok files => ⟨[], 0, d.inputAfter names, files⟩
            | .error fault =>
              d.complain (octets "sort: open failed: " ++ name ++ octets s!": {reasonOf fault}") 2

where
  /-- What stands behind the last ending is a line only if it is not empty. -/
  dropLastEmpty (lines : List Octets) : List Octets :=
    if lines.getLast? = some [] then lines.dropLast else lines

/-- Rows of neighbours that count as equal. -/
def groupEqual (same : Octets → Octets → Bool) : List Octets → List (List Octets)
  | [] => []
  | a :: rest =>
    match groupEqual same rest with
    | (b :: more) :: groups =>
      if same a b then (a :: b :: more) :: groups else [a] :: (b :: more) :: groups
    | groups => [a] :: groups

def uniqKinds : OptionKinds :=
  ⟨"cduiDz", "fsw", [("count", 'c'), ("repeated", 'd'), ("unique", 'u'), ("ignore-case", 'i'),
    ("skip-fields", 'f'), ("skip-chars", 's'), ("check-chars", 'w'), ("all-repeated", 'D'),
    ("zero-terminated", 'z')]⟩

/-- A line without some fields at its start. -/
def skipFields : Nat → Octets → Octets
  | 0, cs => cs
  | n + 1, cs => skipFields n ((dropBlanks cs).dropWhile fun c => c != ' ' && c != '\t')

def uniq (d : Desk) (args : List Octets) : Ended :=
  uniqKinds.use d "uniq" 1 args fun o =>
    let number (letter : Char) : Nat := ((o.value? letter).bind count?).getD 0
    let ending := if o.has 'z' then '\x00' else '\n'
    let part (line : Octets) : Octets :=
      let rest := (skipFields (number 'f') line).drop (number 's')
      let rest := if o.has 'w' then rest.take (number 'w') else rest
      if o.has 'i' then rest.map Char.toUpper else rest
    let shown (cs : Octets) : Octets :=
      let lines := (rawPieces ending cs).map fun l =>
        if l.getLast? = some ending then l.dropLast else l
      (groupEqual (fun a b => part a == part b) lines).flatMap fun group =>
        let n := group.length
        if (o.has 'd' && n < 2) || (o.has 'u' && 1 < n) then []
        else if o.has 'D' then if 1 < n then group.flatMap (· ++ [ending]) else []
        else
          (if o.has 'c' then padLeft 7 (Text.digitsOf n) ++ [' '] else []) ++
            group.head?.getD [] ++ [ending]
    match ['f', 's', 'w'].find? fun c => (o.value? c).any fun v => (count? v).isNone with
    | some c =>
      d.complain (octets "uniq: " ++ ((o.value? c).getD []) ++ octets (if c = 'f' then
        ": invalid number of fields to skip" else if c = 's' then
        ": invalid number of bytes to skip" else ": invalid number of bytes to compare")) 1
    | none =>
      match o.operands with
      | _ :: _ :: extra :: _ => d.refuse "uniq" (octets "extra operand " ++ quoteWord extra) 1
      | [source, target] =>
        let e := d.filter [source] 1 (aboutFile "uniq") shown
        if e.status != 0 || target = ['-'] then e
        else match e.files.write (d.path target) (fileContent e.output) with
          | .ok files => { e with said := [], files }
          | .error fault => d.complain (aboutFile "uniq" target fault) 1
      | names => d.filter names 1 (aboutFile "uniq") shown

/-- Lines of two sorted lists in order, with the column that each belongs to. -/
def mergeColumns : Nat → List Octets → List Octets → List (Nat × Octets)
  | 0, _, _ => []
  | _, [], bs => bs.map fun b => (2, b)
  | _, as, [] => as.map fun a => (1, a)
  | fuel + 1, a :: as, b :: bs =>
    match compareOctets a b with
    | .lt => (1, a) :: mergeColumns fuel as (b :: bs)
    | .gt => (2, b) :: mergeColumns fuel (a :: as) bs
    | .eq => (3, a) :: mergeColumns fuel as bs

def commKinds : OptionKinds := ⟨"123", "", []⟩

def comm (d : Desk) (args : List Octets) : Ended :=
  commKinds.use d "comm" 1 args fun o =>
    match o.operands with
    | [first, second] =>
      match d.content first, d.content second with
      | .error fault, _ => d.complain (aboutFile "comm" first fault) 1
      | _, .error fault => d.complain (aboutFile "comm" second fault) 1
      | .ok a, .ok b =>
        let (a, b) := (linesOf a, linesOf b)
        let hidden (n : Nat) : Bool := o.has (Char.ofNat ('0'.toNat + n))
        let indent (n : Nat) : Octets :=
          ((List.range n).filter fun k => 0 < k && !hidden k).map fun _ => '\t'
        let rows := (mergeColumns (a.length + b.length + 1) a b).filterMap fun (n, line) =>
          if hidden n then none else some (indent n ++ line)
        ⟨[.output (unlines rows)], 0, d.inputAfter o.operands, d.files⟩
    | [] => d.refuse "comm" (octets "missing operand") 1
    | [name] => d.refuse "comm" (octets "missing operand after " ++ quoteWord name) 1
    | _ :: _ :: extra :: _ => d.refuse "comm" (octets "extra operand " ++ quoteWord extra) 1

end Utility

end Signoff.Shell
