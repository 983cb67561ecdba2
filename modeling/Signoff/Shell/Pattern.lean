import Signoff.Shell.Octets

/-!
# Patterns

In a pattern a star stands for any text, a question mark for any character, and brackets for one
of some characters. A character that was quoted stands for itself. Brackets may name a class of
characters, such as `[:alpha:]`.
-/

namespace Signoff.Shell

/-! ## Classes of ASCII characters -/

/-- Characters from the first to the second. -/
abbrev CharRange := Char × Char

def CharRange.has (r : CharRange) (c : Char) : Bool := r.1 ≤ c && c ≤ r.2

def classes : List (String × List CharRange) :=
  [("alpha", [('A', 'Z'), ('a', 'z')]), ("digit", [('0', '9')]),
    ("alnum", [('0', '9'), ('A', 'Z'), ('a', 'z')]), ("upper", [('A', 'Z')]),
    ("lower", [('a', 'z')]), ("space", [('\t', '\r'), (' ', ' ')]),
    ("blank", [('\t', '\t'), (' ', ' ')]), ("punct", [('!', '/'), (':', '@'), ('[', '\x60'),
      ('\x7b', '~')]), ("print", [(' ', '~')]), ("graph", [('!', '~')]),
    ("cntrl", [('\x00', '\x1f'), ('\x7f', '\x7f')]),
    ("xdigit", [('0', '9'), ('A', 'F'), ('a', 'f')])]

def class? (name : Octets) : Option (List CharRange) :=
  (classes.find? (·.1.toList == name)).map (·.2)

/-- The class whose name stands between colons at the front, behind an opening bracket, and what
follows its closing bracket. -/
def classAt? (cs : Octets) : Option (List CharRange × Octets) :=
  match cs with
  | ':' :: rest =>
    let name := rest.takeWhile (· != ':')
    match rest.drop name.length with
    | ':' :: ']' :: tail => (class? name).map fun ranges => (ranges, tail)
    | _ => none
  | _ => none

/-! ## Items of a pattern -/

/-- A character, and whether it was quoted. -/
abbrev Marked := Char × Bool

inductive PatternItem
  | any
  | one
  | letter (c : Char)
  | oneOf (negated : Bool) (ranges : List CharRange)
deriving DecidableEq, Repr

namespace PatternItem

/-- The ranges up to the closing bracket. -/
def readRanges (fuel : Nat) (cs : List Marked) : Option (List CharRange × List Marked) :=
  match fuel with
  | 0 => none
  | fuel + 1 =>
    match cs with
    | [] => none
    | (']', false) :: rest => some ([], rest)
    | ('[', false) :: (':', false) :: rest =>
      match classAt? (':' :: rest.map (·.1)) with
      | some (ranges, tail) =>
        (readRanges fuel (rest.drop (rest.length - tail.length))).map fun (more, tail) =>
          (ranges ++ more, tail)
      | none =>
        (readRanges fuel ((':', false) :: rest)).map fun (more, tail) => (('[', '[') :: more, tail)
    | (a, _) :: ('-', false) :: (b, q) :: rest =>
      if b = ']' && !q then some ([(a, a), ('-', '-')], rest)
      else (readRanges fuel rest).map fun (ranges, tail) => ((a, b) :: ranges, tail)
    | (a, _) :: rest =>
      (readRanges fuel rest).map fun (ranges, tail) => ((a, a) :: ranges, tail)

/-- What follows an opening bracket; a closing bracket right behind it stands for itself. -/
def readSet? (cs : List Marked) : Option (PatternItem × List Marked) :=
  let (negated, cs) := match cs with
    | ('!', false) :: rest => (true, rest)
    | _ => (false, cs)
  match cs with
  | (']', _) :: ('-', false) :: _ =>
    (readRanges (cs.length + 1) ((']', true) :: cs.tail)).map fun (ranges, tail) =>
      (.oneOf negated ranges, tail)
  | (']', _) :: rest =>
    (readRanges (cs.length + 1) rest).map fun (ranges, tail) =>
      (.oneOf negated ((']', ']') :: ranges), tail)
  | _ => (readRanges (cs.length + 1) cs).map fun (ranges, tail) => (.oneOf negated ranges, tail)

def readAll : Nat → List Marked → List PatternItem
  | 0, _ => []
  | _, [] => []
  | fuel + 1, (c, quoted) :: rest =>
    if quoted then .letter c :: readAll fuel rest
    else if c = '*' then .any :: readAll fuel rest
    else if c = '?' then .one :: readAll fuel rest
    else if c = '\\' then
      match rest with
      | (d, _) :: more => .letter d :: readAll fuel more
      | [] => [.letter c]
    else if c = '[' then
      match readSet? rest with
      | some (item, tail) => item :: readAll fuel tail
      | none => .letter c :: readAll fuel rest
    else .letter c :: readAll fuel rest

def takes (item : PatternItem) (c : Char) : Bool :=
  match item with
  | any => false
  | one => true
  | letter d => c == d
  | oneOf negated ranges => negated != ranges.any (·.has c)

/-- Whether the pattern stands for the whole text. -/
def fits : List PatternItem → Octets → Bool
  | [], cs => cs.isEmpty
  | .any :: items, [] => fits items []
  | .any :: items, c :: cs => fits items (c :: cs) || fits (.any :: items) cs
  | _ :: _, [] => false
  | item :: items, c :: cs => item.takes c && fits items cs

end PatternItem

def patternOf (cs : List Marked) : List PatternItem := PatternItem.readAll cs.length cs

/-- The pattern that a text without any quotes spells. -/
def patternOfText (cs : Octets) : List PatternItem := patternOf (cs.map fun c => (c, false))

def isPattern (cs : List Marked) : Bool :=
  (patternOf cs).any fun item => match item with
    | .letter _ => false
    | _ => true

/-- The text without a front part that fits, the shortest or the longest one. -/
def dropFront (longest : Bool) (pattern : List PatternItem) (cs : Octets) : Octets :=
  let lengths := List.range (cs.length + 1)
  let found := (if longest then lengths.reverse else lengths).find? fun n =>
    PatternItem.fits pattern (cs.take n)
  cs.drop (found.getD 0)

def dropBack (longest : Bool) (pattern : List PatternItem) (cs : Octets) : Octets :=
  let lengths := List.range (cs.length + 1)
  let found := (if longest then lengths else lengths.reverse).find? fun n =>
    PatternItem.fits pattern (cs.drop n)
  cs.take (found.getD cs.length)

end Signoff.Shell
