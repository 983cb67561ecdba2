import Signoff.Shell.Pattern
import Signoff.Workspace.Access

/-!
# Fields

A word whose parameters were replaced by their values is a row of bits. Blanks that come from a
value cut the row into fields, and a field that is a pattern stands for the paths that fit it.
-/

namespace Signoff.Shell

/-- A character, whether it was quoted and whether it came from a value; the place of a quotation,
which may be empty; or the place between two arguments. -/
inductive Bit
  | char (c : Char) (quoted fromValue : Bool)
  | quotation
  | cut
deriving DecidableEq, Repr

namespace Bit

def ofText (quoted fromValue : Bool) (cs : Octets) : List Bit :=
  cs.map fun c => .char c quoted fromValue

/-- The characters of the bits; arguments stand apart by a blank. -/
def text (bits : List Bit) : Octets :=
  bits.filterMap fun b => match b with
    | .char c _ _ => some c
    | .cut => some ' '
    | .quotation => none

def marked (bits : List Bit) : List Marked :=
  bits.filterMap fun b => match b with
    | .char c quoted _ => some (c, quoted)
    | .cut => some (' ', true)
    | .quotation => none

end Bit

/-- Fields read so far, the last one first. A field is open while characters may come to it. -/
structure Cutting where
  closed : List (List Marked)
  current : Option (List Marked)
  /-- The last field was closed by a blank, so that a separator behind it closes no other. -/
  afterBlank : Bool

namespace Cutting

def start : Cutting := ⟨[], none, false⟩

def close (k : Cutting) (afterBlank : Bool) : Cutting :=
  match k.current with
  | some field => ⟨field.reverse :: k.closed, none, afterBlank⟩
  | none => { k with afterBlank := k.afterBlank && afterBlank }

def isBlank (c : Char) : Bool := c == ' ' || c == '\t' || c == '\n'

/-- Goes on by one bit; `separators` are the characters that cut values. -/
def step (separators : Octets) (k : Cutting) (b : Bit) : Cutting :=
  match b with
  | .quotation => { k with current := some (k.current.getD []) }
  | .cut => k.close false
  | .char c quoted fromValue =>
    if fromValue && !quoted && separators.contains c then
      if isBlank c then
        match k.current with
        | some _ => k.close true
        | none => k
      else if k.current.isNone && !k.afterBlank then { k with closed := [] :: k.closed }
      else k.close false
    else ⟨k.closed, some ((c, quoted) :: k.current.getD []), false⟩

def fields (separators : Octets) (bits : List Bit) : List (List Marked) :=
  ((bits.foldl (step separators) start).close false).closed.reverse

end Cutting

/-- The pieces between slashes. -/
def cutSlashes (field : List Marked) : List (List Marked) :=
  field.foldr (fun m pieces =>
    if m.1 = '/' then [] :: pieces
    else match pieces with
      | piece :: rest => (m :: piece) :: rest
      | [] => [[m]]) [[]]

def pathIn (folder : Path) (cs : Octets) : Path :=
  let path := folder.join ⟨textOf cs⟩
  if path.text.isEmpty then ⟨"."⟩ else path

/-- Whether there is anything at the place of a path. -/
def isThere (w : Workspace) (path : Path) : Bool :=
  match w.resolve path with
  | .ok p => (w.item? p).isSome
  | .error _ => false

/-- The paths that fit pieces of a pattern behind a front part. Names that start with a dot have
to be asked for. -/
def fitting (w : Workspace) (folder : Path) : Octets → List (List Marked) → List Octets
  | front, [] => if isThere w (pathIn folder front) then [front] else []
  | front, piece :: rest =>
    let mark : Octets := if rest.isEmpty then [] else ['/']
    let text := piece.map (·.1)
    if !isPattern piece then fitting w folder (front ++ text ++ mark) rest
    else
      match w.resolve (pathIn folder front) with
      | .error _ => []
      | .ok p =>
        let wanted := patternOf piece
        let names := ("." :: ".." :: w.namesIn p).filter fun n =>
          PatternItem.fits wanted (octets n) && (!n.startsWith "." || text.head? == some '.')
        names.flatMap fun n => fitting w folder (front ++ octets n ++ mark) rest

/-- What a field stands for: the paths that fit a pattern, or its text. -/
def matching (w : Workspace) (folder : Path) (field : List Marked) : List Octets :=
  let text := field.map (·.1)
  if !isPattern field then [text]
  else
    let found := fitting w folder [] (cutSlashes field)
    if found.isEmpty then [text] else found

end Signoff.Shell
