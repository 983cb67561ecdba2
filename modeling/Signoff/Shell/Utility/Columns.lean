import Signoff.Shell.Pattern
import Signoff.Shell.Utility.Options

/-!
# Utilities for parts of lines

Taking and joining columns, and replacing characters.
-/

namespace Signoff.Shell

namespace Utility

/-- Positions from the first number to the second, or to the end. -/
abbrev Positions := Nat × Option Nat

def Positions.has (p : Positions) (n : Nat) : Bool := p.1 ≤ n && (p.2.all (n ≤ ·))

/-- A list of positions such as `1,3-5,7-`. -/
def positions? (cs : Octets) : Option (List Positions) :=
  (cutAt ',' cs).mapM fun item =>
    match cutAt '-' item with
    | [n] => (count? n).map fun n => (n, some n)
    | [a, []] => (count? a).map fun a => (a, none)
    | [[], b] => (count? b).map fun b => (1, some b)
    | [a, b] => do return (← count? a, some (← count? b))
    | _ => none

def cutKinds : OptionKinds :=
  ⟨"snC", "dfcbO", [("delimiter", 'd'), ("fields", 'f'), ("characters", 'c'), ("bytes", 'b'),
    ("only-delimited", 's'), ("complement", 'C'), ("output-delimiter", 'O')]⟩

/-- The items at chosen positions, counted from one. -/
def pick {α : Type} (chosen : Nat → Bool) (items : List α) : List α :=
  (items.zipIdx 1).filterMap fun (item, n) => if chosen n then some item else none

def cut (d : Desk) (args : List Octets) : Ended :=
  cutKinds.use d "cut" 1 args fun o =>
    let inFields := o.has 'f'
    match (o.value? 'f') <|> (o.value? 'c') <|> (o.value? 'b') with
    | none =>
      d.refuse "cut" (octets "you must specify a list of bytes, characters, or fields") 1
    | some list =>
      match positions? list, o.value? 'd' with
      | none, _ =>
        d.refuse "cut" (octets (if inFields then "invalid field value "
          else "invalid byte or character range ") ++ quoteWord list) 1
      | some ps, separator? =>
        if ps.any fun p => p.2.any (· < p.1) then
          d.refuse "cut" (octets "invalid decreasing range") 1
        else if ps.any (·.1 == 0) then
          d.refuse "cut" (octets (if inFields then "fields are numbered from 1"
            else "byte/character positions are numbered from 1")) 1
        else if separator?.any (1 < ·.length) then
          d.refuse "cut" (octets "the delimiter must be a single character") 1
        else
          let separator := (separator?.bind List.head?).getD '\t'
          let chosen (n : Nat) : Bool := ps.any (Positions.has · n) != o.has 'C'
          d.filter o.operands 1 (aboutFile "cut") fun cs =>
            (linesOf cs).flatMap fun line =>
              if !inFields then
                pick chosen line ++ ['\n']
              else if !line.contains separator then
                if o.has 's' then [] else line ++ ['\n']
              else
                joined ((o.value? 'O').getD [separator]) (pick chosen (cutAt separator line)) ++
                  ['\n']

/-- The separators that a list spells; `\0` is none. -/
def separatorsOf : Octets → List Octets
  | [] => []
  | '\\' :: c :: rest =>
    (match c with
      | 'n' => ['\n']
      | 't' => ['\t']
      | '0' => []
      | _ => [c]) :: separatorsOf rest
  | c :: rest => [c] :: separatorsOf rest

/-- Pieces with the separators between them in turn. -/
def joinCycling (separators : List Octets) (n : Nat) : List Octets → Octets
  | [] => []
  | [piece] => piece
  | piece :: rest =>
    piece ++ (separators[n % separators.length]?).getD [] ++ joinCycling separators (n + 1) rest

/-- One line of each source; a source that is named again goes on. -/
def takeRow (sources : List (Octets × List Octets)) :
    List Octets → List Octets × Bool × List (Octets × List Octets)
  | [] => ([], false, sources)
  | name :: names =>
    let lines := ((sources.find? (·.1 == name)).map (·.2)).getD []
    let after := sources.map fun (n, ls) => if n = name then (n, ls.tail) else (n, ls)
    let (row, found, rest) := takeRow after names
    (lines.head?.getD [] :: row, !lines.isEmpty || found, rest)

def pasteRows (separators : List Octets) (names : List Octets) :
    Nat → List (Octets × List Octets) → List Octets
  | 0, _ => []
  | fuel + 1, sources =>
    let (row, found, rest) := takeRow sources names
    if found then joinCycling separators 0 row :: pasteRows separators names fuel rest else []

def pasteKinds : OptionKinds := ⟨"s", "d", [("serial", 's'), ("delimiters", 'd')]⟩

def paste (d : Desk) (args : List Octets) : Ended :=
  pasteKinds.use d "paste" 1 args fun o =>
    let separators := separatorsOf ((o.value? 'd').getD ['\t'])
    let separators := if separators.isEmpty then [[]] else separators
    let names := Desk.orInput o.operands
    match names.findSome? fun name => match d.content name with
        | .ok _ => none
        | .error fault => some (aboutFile "paste" name fault) with
    | some complaint => d.complain complaint 1
    | none =>
      let linesIn (name : Octets) := linesOf ((d.content name).toOption.getD [])
      let rows := if o.has 's' then names.map fun name => joinCycling separators 0 (linesIn name)
        else
          let distinct := names.eraseDups
          let sources := distinct.map fun name => (name, linesIn name)
          pasteRows separators names
            (sources.foldl (fun n (_, ls) => n + ls.length) 1) sources
      ⟨[.output (unlines rows)], 0, d.inputAfter names, d.files⟩

/-- What a backslash and the characters behind it stand for in a set. -/
def setEscape (cs : Octets) : Char × Octets :=
  match cs with
  | [] => ('\\', [])
  | c :: rest =>
    let digits := (cs.take 3).takeWhile fun d => '0' ≤ d && d ≤ '7'
    if digits.isEmpty then
      (match c with
        | 'n' => '\n'
        | 't' => '\t'
        | 'r' => '\r'
        | 'a' => '\x07'
        | 'b' => '\x08'
        | 'f' => '\x0c'
        | 'v' => '\x0b'
        | _ => c, rest)
    else
      (Char.ofNat (digits.foldl (fun n d => 8 * n + (d.toNat - '0'.toNat)) 0 % 256),
        cs.drop digits.length)

/-- An item of a set of characters. -/
inductive SetItem
  | one (c : Char) (escaped : Bool)
  | range (cs : Octets)
  | named (name : Octets) (cs : Octets)
  | equivalent (c : Char)
  /-- A character so many times, or as often as the other set asks for. -/
  | times (c : Char) (n : Option Nat)

namespace SetItem

/-- The characters of an item; `wanted` is how many an open repetition gives. -/
def chars (wanted : Nat) : SetItem → Octets
  | one c _ => [c]
  | range cs => cs
  | named _ cs => cs
  | equivalent c => [c]
  | times c n => List.replicate (n.getD wanted) c

def isOpen : SetItem → Bool
  | times _ none => true
  | _ => false

def isNamed : SetItem → Bool
  | named .. => true
  | _ => false

/-- The classes of capitals and of small letters. -/
def isCase : SetItem → Bool
  | named name _ => name == "upper".toList || name == "lower".toList
  | _ => false

end SetItem

/-- Why a set or a pair of sets makes no sense. -/
inductive SetFault
  | noClassName
  | noEquivalent
  | badClass (name : Octets)
  | badEquivalent (name : Octets)
  | badCount (digits : Octets)
  | reversed (first last : Char)
  | openInFirst
  | severalOpen
  | openUntranslated
  | equivalentInSecond
  | classInSecond
  | misaligned
  | empty
  | classAtEnd
  | severalTargets

def SetFault.message : SetFault → Octets
  | .noClassName => octets "missing character class name '[::]'"
  | .noEquivalent => octets "missing equivalence class character '[==]'"
  | .badClass name => octets "invalid character class " ++ quoteWord name
  | .badEquivalent name => name ++
      octets ": equivalence class operand must be a single character"
  | .badCount digits => octets "invalid repeat count " ++ quoteWord digits ++
      octets " in [c*n] construct"
  | .reversed a b => octets "range-endpoints of '" ++ shown a ++ '-' :: shown b ++
      octets "' are in reverse collating sequence order"
  | .openInFirst => octets "the [c*] repeat construct may not appear in string1"
  | .severalOpen => octets "only one [c*] repeat construct may appear in string2"
  | .openUntranslated => octets "the [c*] construct may appear in string2 only when translating"
  | .equivalentInSecond =>
    octets "[=c=] expressions may not appear in string2 when translating"
  | .classInSecond => octets ("when translating, the only character classes that may appear in\n" ++
      "string2 are 'upper' and 'lower'")
  | .misaligned => octets "misaligned [:upper:] and/or [:lower:] construct"
  | .empty => octets "when not truncating set1, string2 must be non-empty"
  | .classAtEnd => octets ("when translating with string1 longer than string2,\n" ++
      "the latter string must not end with a character class")
  | .severalTargets => octets ("when translating with complemented character classes,\n" ++
      "string2 must map all characters in the domain to one")
where
  shown (c : Char) : Octets :=
    if c = '\\' then ['\\', '\\'] else (escapedOctet? c).getD [c]

def rangeChars (a b : Char) : Octets :=
  (List.range (b.toNat + 1 - a.toNat)).map fun n => Char.ofNat (a.toNat + n)

/-- A character of a set as it is spelled; a backslash takes its special meaning. -/
abbrev Spelled := Char × Bool

def spelled : Nat → Octets → List Spelled
  | 0, _ => []
  | _, [] => []
  | fuel + 1, '\\' :: more =>
    let (c, rest) := setEscape more
    (c, !more.isEmpty) :: spelled fuel rest
  | fuel + 1, c :: rest => (c, false) :: spelled fuel rest

/-- What stands in front of a mark and a closing bracket, and what follows these. -/
def upToMark (mark : Char) : List Spelled → Option (Octets × List Spelled)
  | (c, false) :: (']', false) :: rest =>
    if c = mark then some ([], rest)
    else (upToMark mark ((']', false) :: rest)).map fun (taken, tail) => (c :: taken, tail)
  | (c, _) :: rest => (upToMark mark rest).map fun (taken, tail) => (c :: taken, tail)
  | [] => none

/-- The repetition behind an opening bracket. -/
def repetition? (cs : List Spelled) : Except SetFault (Option (SetItem × List Spelled)) :=
  match cs with
  | (c, _) :: ('*', false) :: rest =>
    let plain := rest.takeWhile fun (d, escaped) => !escaped && d != ']'
    match rest.drop plain.length with
    | (']', false) :: tail =>
      let digits := plain.map (·.1)
      let base := if digits.head? = some '0' then 8 else 10
      if digits.isEmpty then .ok (some (.times c none, tail))
      else if digits.all fun d => '0' ≤ d && d.toNat < '0'.toNat + base then
        let n := digits.foldl (fun n d => base * n + (d.toNat - '0'.toNat)) 0
        .ok (some (.times c (if n = 0 then none else some n), tail))
      else .error (.badCount digits)
    | _ => .ok none
  | _ => .ok none

/-- The class, equivalents or repetition behind an opening bracket. -/
def bracketItem? (cs : List Spelled) : Except SetFault (Option (SetItem × List Spelled)) :=
  match cs with
  | (':', false) :: more =>
    match upToMark ':' more with
    | none => repetition? cs
    | some ([], _) => .error .noClassName
    | some (name, tail) => match class? name with
      | some ranges => .ok (some (.named name (ranges.flatMap fun r => rangeChars r.1 r.2), tail))
      | none => orRepetition (.badClass name)
  | ('=', false) :: more =>
    match upToMark '=' more with
    | none => repetition? cs
    | some ([], _) => .error .noEquivalent
    | some ([c], tail) => .ok (some (.equivalent c, tail))
    | some (name, _) => orRepetition (.badEquivalent name)
  | _ => repetition? cs
where
  orRepetition (fault : SetFault) : Except SetFault (Option (SetItem × List Spelled)) :=
    match repetition? cs with
    | .ok (some item) => .ok (some item)
    | _ => .error fault

/-- The items of a set, in which a hyphen stands between the ends of a range. -/
def setItems : Nat → List Spelled → Except SetFault (List SetItem)
  | 0, _ => .ok []
  | _, [] => .ok []
  | fuel + 1, (c, escaped) :: rest => do
    let bracketed ← if c = '[' && !escaped && 1 < rest.length then bracketItem? rest
      else pure none
    match bracketed, rest with
    | some (item, tail), _ => return item :: (← setItems fuel tail)
    | none, ('-', false) :: (b, _) :: tail =>
      if b < c then .error (.reversed c b)
      else return .range (rangeChars c b) :: (← setItems fuel tail)
    | none, _ => return .one c escaped :: (← setItems fuel rest)

def readSet (cs : Octets) : Except SetFault (List SetItem) :=
  setItems (cs.length + 1) (spelled (cs.length + 1) cs)

def setChars (wanted : Nat) (items : List SetItem) : Octets := items.flatMap (·.chars wanted)

/-- Leaves one of several equal characters of a kind that follow each other. -/
def squeeze (kind : Char → Bool) (cs : Octets) : Octets :=
  cs.foldr (fun c rest => if kind c && rest.head? == some c then rest else c :: rest) []

def trKinds : OptionKinds :=
  ⟨"dscCt", "", [("delete", 'd'), ("squeeze-repeats", 's'), ("complement", 'c'),
    ("truncate-set1", 't')]⟩

/-- All bytes as characters. -/
def allOctets : Octets := (List.range 256).map Char.ofNat

/-- The places at which classes of one case start. -/
def casePlaces (wanted : Nat) (items : List SetItem) : List Nat :=
  (items.foldl (fun (places, n) item =>
    (if item.isCase then n :: places else places, n + (item.chars wanted).length)) ([], 0)).1

/-- The characters that are put in the place of others, and these, both in order. -/
def replacements (complements truncates : Bool) (first second : List SetItem) :
    Except SetFault (Octets × Octets) := do
  let named := first.any SetItem.isNamed
  let sources := setChars 0 first
  let sources := if complements then allOctets.filter (!sources.contains ·) else sources
  if second.any fun i => match i with
      | .equivalent _ => true
      | _ => false then
    throw .equivalentInSecond
  if second.any fun i => i.isNamed && !i.isCase then throw .classInSecond
  let wanted := sources.length - (setChars 0 second).length
  let targets := setChars wanted second
  if !complements && (casePlaces wanted second).any (!(casePlaces 0 first).contains ·) then
    throw .misaligned
  if targets.length < sources.length && !truncates then
    if targets.isEmpty then throw .empty
    if second.getLast?.any SetItem.isNamed then throw .classAtEnd
  let last := targets.getLast?.getD ' '
  if complements && named && targets.any (· != last) then throw .severalTargets
  let sources := if truncates then sources.take targets.length else sources
  return (sources, targets ++ List.replicate (sources.length - targets.length) last)

/-- Puts characters in the place of others, leaves them out or squeezes them. -/
def changeChars (o : Options) (input : Octets) (first : List SetItem)
    (second? : Option (List SetItem)) : Except SetFault Octets := do
  let complements := o.has 'c' || o.has 'C'
  let inFirst (c : Char) : Bool := (setChars 0 first).contains c != complements
  if first.any SetItem.isOpen then throw .openInFirst
  match second? with
  | none => return if o.has 'd' then input.filter (!inFirst ·) else squeeze inFirst input
  | some second =>
    if 1 < second.countP SetItem.isOpen then throw .severalOpen
    if o.has 'd' then
      if second.any SetItem.isOpen then throw .openUntranslated
      return squeeze (setChars 0 second).contains (input.filter (!inFirst ·))
    else
      let (sources, targets) ← replacements complements (o.has 't') first second
      -- of several equal characters the last one counts
      let table := (sources.zip targets).reverse
      let out := input.map fun c => ((table.find? (·.1 == c)).map (·.2)).getD c
      return if o.has 's' then squeeze targets.contains out else out

/-- How often an unescaped backslash stands at the end of a set. -/
def endsInBackslash (cs : Octets) : Bool := (cs.reverse.takeWhile (· == '\\')).length % 2 == 1

def tr (d : Desk) (args : List Octets) : Ended :=
  match trKinds.read false args with
  | .error fault => d.refuse "tr" fault.message 1
  | .ok o =>
    let deletes := o.has 'd'
    let squeezes := o.has 's'
    let changed (first : Octets) (second? : Option Octets) : Ended :=
      let sets : Except SetFault Octets := do
        let a ← readSet first
        match second? with
        | none => changeChars o d.input a none
        | some second => changeChars o d.input a (some (← readSet second))
      let warnings := ((first :: second?.toList).filter endsInBackslash).flatMap fun _ =>
        octets "tr: warning: an unescaped backslash at end of string is not portable\n"
      match sets with
      | .ok cs => ⟨[.complaint warnings, .output cs], 0, [], d.files⟩
      | .error fault => d.complain (warnings ++ octets "tr: " ++ fault.message) 1
    match o.operands with
    | [] => d.refuse "tr" (octets "missing operand") 1
    | [set] =>
      if deletes != squeezes then changed set none
      else
        d.refuse "tr" (octets "missing operand after " ++ quoteWord set ++
          octets (s!"\nTwo strings must be given when " ++
            (if deletes then "both deleting and squeezing repeats." else "translating."))) 1
    | [first, second] =>
      if deletes && !squeezes then
        d.refuse "tr" (octets "extra operand " ++ quoteWord second ++
          octets "\nOnly one string may be given when deleting without squeezing repeats.") 1
      else changed first (some second)
    | _ :: _ :: extra :: _ => d.refuse "tr" (octets "extra operand " ++ quoteWord extra) 1

end Utility

end Signoff.Shell
