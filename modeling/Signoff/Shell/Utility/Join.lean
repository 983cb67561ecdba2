import Signoff.Shell.Utility.Options

/-!
# Joining lines of two files

Lines of two files that agree in a field become one line. Both files have to be sorted by that
field, so that one pass is enough.
-/

namespace Signoff.Shell

namespace Join

/-- What a line of output is made of: the common field, or a field of one of the files. -/
inductive Piece
  | common
  | field (second : Bool) (index : Nat)

structure Setting where
  /-- The field of each file by which lines are joined. -/
  first : Nat
  second : Nat
  separator : Option Char
  /-- Lines of each file are shown that fit none of the other. -/
  alone : Bool × Bool
  /-- Pairs are not shown. -/
  onlyAlone : Bool
  filler : Octets
  pieces : Option (List Piece)

/-- A line in its fields. -/
def fieldsOf (k : Setting) (line : Octets) : List Octets :=
  match k.separator with
  | some c => cutAt c line
  | none => (cutAt ' ' (line.map fun c => if isBlankOctet c then ' ' else c)).filter (!·.isEmpty)

def key (index : Nat) (fields : List Octets) : Octets := (fields[index - 1]?).getD []

/-- The line of output for lines of the files, of which one may be missing. -/
def lineOf (k : Setting) (a b : Option (List Octets)) : Octets :=
  let common := match a, b with
    | some fields, _ => key k.first fields
    | none, some fields => key k.second fields
    | none, none => []
  let others (index : Nat) (fields : Option (List Octets)) : List Octets :=
    (fields.getD []).eraseIdx (index - 1)
  let texts := match k.pieces with
    | none => common :: (others k.first a ++ others k.second b)
    | some pieces => pieces.map fun p => match p with
      | .common => common
      | .field second index =>
        let fields := if second then b else a
        match (fields.getD [])[index - 1]? with
        | some [] => k.filler
        | some cs => cs
        | none => k.filler
  joined [k.separator.getD ' '] texts ++ ['\n']

/-- All lines of output. Each step passes over a group of lines with one key. -/
def lines (k : Setting) (fuel : Nat) (xs ys : List (List Octets)) : List Octets :=
  match fuel with
  | 0 => []
  | fuel + 1 =>
    let loneFirst (fields : List Octets) : List Octets :=
      if k.alone.1 then [lineOf k (some fields) none] else []
    let loneSecond (fields : List Octets) : List Octets :=
      if k.alone.2 then [lineOf k none (some fields)] else []
    match xs, ys with
    | [], _ => ys.flatMap loneSecond
    | _, [] => xs.flatMap loneFirst
    | x :: _, y :: _ =>
      match compareOctets (key k.first x) (key k.second y) with
      | .lt => loneFirst x ++ lines k fuel xs.tail ys
      | .gt => loneSecond y ++ lines k fuel xs ys.tail
      | .eq =>
        let same := key k.first x
        let group := xs.takeWhile fun fields => key k.first fields == same
        let others := ys.takeWhile fun fields => key k.second fields == same
        let pairs := if k.onlyAlone then []
          else group.flatMap fun a => others.map fun b => lineOf k (some a) (some b)
        pairs ++ lines k fuel (xs.drop group.length) (ys.drop others.length)

/-- The first line whose key is less than the one in front of it, with its number. -/
def disorder? (index number : Nat) : List (List Octets) → Option Nat
  | a :: b :: rest =>
    if compareOctets (key index b) (key index a) == .lt then some (number + 1)
    else disorder? index (number + 1) (b :: rest)
  | _ => none

def pieceOf? (cs : Octets) : Option Piece :=
  match cs with
  | ['0'] => some .common
  | '1' :: '.' :: index => (count? index).map (Piece.field false)
  | '2' :: '.' :: index => (count? index).map (Piece.field true)
  | _ => none

def kinds : OptionKinds := ⟨"i", "12javteo", []⟩

def settingOf (o : Options) : Setting :=
  let field (letter : Char) : Nat :=
    (((o.value? letter) <|> (o.value? 'j')).bind count?).getD 1
  let shows (file : Octets) (letter : Char) : Bool := (o.values letter).contains file
  { first := field '1', second := field '2'
    separator := (o.value? 't').bind List.head?
    alone := (shows ['1'] 'a' || shows ['1'] 'v', shows ['2'] 'a' || shows ['2'] 'v')
    onlyAlone := o.has 'v'
    filler := (o.value? 'e').getD []
    pieces := (o.value? 'o').map fun list =>
      ((cutAt ',' (list.map fun c => if c = ' ' then ',' else c)).filterMap pieceOf?) }

end Join

namespace Utility

open Join

def join (d : Desk) (args : List Octets) : Ended :=
  kinds.use d "join" 1 args fun o =>
    match o.operands with
    | [] => d.refuse "join" (octets "missing operand") 1
    | [name] => d.refuse "join" (octets "missing operand after " ++ quoteWord name) 1
    | a :: b :: [] =>
      match d.content a, d.content b with
      | .error fault, _ => d.complain (aboutFile "join" a fault) 1
      | _, .error fault => d.complain (aboutFile "join" b fault) 1
      | .ok first, .ok second =>
        let k := settingOf o
        let xs := (linesOf first).map (fieldsOf k)
        let ys := (linesOf second).map (fieldsOf k)
        let problem (name text : Octets) (index : Nat) (fields : List (List Octets)) : Octets :=
          match disorder? index 1 fields with
          | none => []
          | some n => octets "join: " ++ name ++ octets s!":{n}: is not sorted: " ++
              ((linesOf text)[n - 1]?).getD [] ++ ['\n']
        let complaint := problem a first k.first xs ++ problem b second k.second ys
        let complaint := if complaint.isEmpty then []
          else complaint ++ octets "join: input is not in sorted order\n"
        let e := (d.done (lines k (xs.length + ys.length + 1) xs ys).flatten
          (if complaint.isEmpty then 0 else 1)).warn complaint
        { e with restOfInput := d.inputAfter [a, b] }
    | _ :: _ :: extra :: _ => d.refuse "join" (octets "extra operand " ++ quoteWord extra) 1

end Utility

end Signoff.Shell
