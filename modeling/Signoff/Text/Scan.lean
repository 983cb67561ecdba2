import Signoff.Text.Basic
import Signoff.Text.WordChar

/-!
# Scanning a line

A reader takes something from the front of a text and gives the rest back. `firstFrom?` and
`allFrom` try a reader at every place of a line, knowing the character in front of the place.
-/

namespace Signoff.Text

def isMark (c : Char) : Bool := c == ':' || c == '='

/-- What follows a colon or equal sign with blanks on both sides. -/
def afterMark? (cs : List Char) : Option (List Char) :=
  match trimStart cs with
  | c :: rest => if isMark c then some (trimStart rest) else none
  | [] => none

/-- The same where the colon or equal sign may be missing. -/
def skipMark (cs : List Char) : List Char := (afterMark? cs).getD (trimStart cs)

/-- What follows at least one blank. -/
def afterBlanks? (cs : List Char) : Option (List Char) :=
  match cs with
  | c :: rest => if isBlank c then some (trimStart rest) else none
  | [] => none

/-- The longest front part of characters of a kind, if it is not empty. -/
def run? (kind : Char → Bool) (cs : List Char) : Option (List Char × List Char) :=
  let taken := cs.takeWhile kind
  if taken.isEmpty then none else some (taken, cs.dropWhile kind)

/-- The whole word at the front is one of the given keywords. -/
def wholeKeyword? (words : List String) (cs : List Char) : Option (List Char × List Char) :=
  (words.map String.toList).findSome? fun word =>
    (keyword? word cs).filter fun (written, rest) => isBoundary written.getLast? rest.head?

/-- A digit or a comma between digits. -/
def isFigureChar (c : Char) : Bool := isDecimalDigit c || c == ','

/-- A count with commas between its digits. -/
def readCount? (cs : List Char) : Option UInt64 :=
  readUInt64? ((trim cs).filter (· != ','))

/-- What a reader takes at the first place where it takes anything. -/
def firstFrom? {α : Type} (read : Option Char → List Char → Option α) (before : Option Char) :
    List Char → Option α
  | [] => none
  | c :: cs =>
    match read before (c :: cs) with
    | some a => some a
    | none => firstFrom? read (some c) cs

/-- What a reader takes at every place, left to right, each time going on behind what it took;
`skip` characters are passed over first. -/
def allFrom {α : Type} (read : Option Char → List Char → Option (α × List Char)) :
    Nat → Option Char → List Char → List α
  | _, _, [] => []
  | skip + 1, _, c :: cs => allFrom read skip (some c) cs
  | 0, before, c :: cs =>
    match read before (c :: cs) with
    | some (a, rest) => a :: allFrom read (cs.length - rest.length) (some c) cs
    | none => allFrom read 0 (some c) cs

end Signoff.Text
