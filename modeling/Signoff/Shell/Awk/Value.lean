import Signoff.Shell.Awk.Token

/-!
# Values of the pattern language

A value is a number or a text; text that came from the input counts as a number if it looks like
one. A value of one kind is turned into the other wherever that is needed.
-/

namespace Signoff.Shell.Awk

open Number (Binary64)

inductive Value
  | unset
  | number (x : Float)
  | text (cs : Octets)
  | input (cs : Octets)
deriving Inhabited

/-- The whole number that a number is, if it is one. -/
def whole? (x : Binary64) : Option Int :=
  if !x.isFinite then none
  else
    let units := Binary64.units x.position
    let one := Nat.pow 2 Binary64.unitPower
    if units % one = 0 then
      let n : Int := (units / one : Nat)
      some (if x.negative then -n else n)
    else none

/-- A number without what stands behind its point. -/
def truncated (x : Binary64) : Int :=
  let n : Int := (Binary64.units x.position / Nat.pow 2 Binary64.unitPower : Nat)
  if x.negative then -n else n

/-- Whole numbers that are printed with all their digits. -/
def isShort (n : Int) : Bool :=
  -(Nat.pow 2 63 : Nat) ≤ n && n ≤ (Nat.pow 2 64 : Nat)

def specialText? (x : Binary64) : Option Octets :=
  if x.isNaN then some (octets "-nan")
  else if !x.isFinite then some (octets (if x.negative then "-inf" else "inf"))
  else none

/-- The arguments of a format as it takes them. -/
structure Formatted where
  output : Octets
  /-- There were too few values. -/
  isShort : Bool

namespace Value

/-- A sign at the front does not count for a text of no digits. -/
def number? (cs : Octets) : Option Float :=
  let cs := cs.dropWhile isBlankOctet
  let (front, rest) := Format.realFront cs
  if front.isEmpty || !rest.all isBlankOctet then none
  else (Binary64.read? front).map toFloat

def toNumber : Value → Float
  | unset => 0
  | number x => x
  | text cs => toFloat (Format.realAt cs).1
  | input cs => toFloat (Format.realAt cs).1

/-- The number of a value that compares as a number. -/
def numeric? : Value → Option Float
  | unset => some 0
  | number x => some x
  | text _ => none
  | input cs => number? cs

def isTrue (v : Value) : Bool :=
  match v with
  | unset => false
  | number x => x != 0
  | text cs => !cs.isEmpty
  | input cs => match number? cs with
    | some x => x != 0
    | none => !cs.isEmpty

def ofBool (b : Bool) : Value := number (if b then 1 else 0)

def ofNat (n : Nat) : Value := number (Float.ofNat n)

end Value

/-- One place of a format: flags, width, precision and letter, and the rest of the format. -/
structure Spot where
  flags : Octets
  width : Octets
  precision : Option Octets
  letter : Option Char
  rest : Octets

def spotAt (cs : Octets) : Spot :=
  let flags := cs.takeWhile fun c => ['-', '0', '+', ' ', '#'].contains c
  let rest := cs.drop flags.length
  let count (cs : Octets) : Octets := match cs with
    | '*' :: _ => ['*']
    | _ => cs.takeWhile Char.isDigit
  let width := count rest
  let rest := rest.drop width.length
  let (precision, rest) := match rest with
    | '.' :: more => (some (count more), more.drop (count more).length)
    | _ => (none, rest)
  let rest := rest.dropWhile fun c => c == 'l' || c == 'h'
  ⟨flags, width, precision, rest.head?, rest.tail⟩

/-- A value at a place of a format. -/
def fill (shown : Value → Octets) (f : Format.Field) (letter : Char) (v : Value) : Octets :=
  let x := ofFloat v.toNumber
  match letter with
  | 's' => f.text (shown v)
  | 'c' =>
    let c : Octets := match v with
      | .number _ => [Char.ofNat ((truncated x) % 256).toNat]
      | _ => (shown v).take 1
    f.pad false c
  | _ =>
    if letter = 'd' || letter = 'i' then
      match specialText? x with
      | some cs => f.pad false cs
      | none => f.signed (truncated x)
    else if ['u', 'o', 'x', 'X'].contains letter then
      f.inBase letter ((truncated x) % ((Nat.pow 2 64 : Nat) : Int)).toNat
    else match specialText? x with
      | some cs => f.pad false cs
      | none => f.real letter x

/-- Prints values in the places of a format. -/
def formatted (shown : Value → Octets) (fuel : Nat) (format : Octets) (values : List Value) :
    Formatted :=
  match fuel with
  | 0 => ⟨[], false⟩
  | fuel + 1 =>
    let put (front rest : Octets) (values : List Value) : Formatted :=
      let f := formatted shown fuel rest values
      ⟨front ++ f.output, f.isShort⟩
    match format with
    | [] => ⟨[], false⟩
    | '%' :: '%' :: rest => put ['%'] rest values
    | '%' :: rest =>
      let s := spotAt rest
      let stars := (s.width ++ s.precision.getD []).count '*'
      if values.length < stars then ⟨[], true⟩
      else
        let counts := (values.take stars).map fun v => truncated (ofFloat v.toNumber)
        let values := values.drop stars
        let number (cs : Octets) (given : Option Int) : Int := match cs with
          | ['*'] => given.getD 0
          | _ => (cs.foldl (fun n c => 10 * n + (c.toNat - '0'.toNat)) 0 : Nat)
        let width := number s.width counts.head?
        let precision := s.precision.map fun cs => (number cs counts.getLast?).toNat
        let flags := if width < 0 then '-' :: s.flags else s.flags
        let f : Format.Field := ⟨flags, width.natAbs, precision⟩
        match s.letter with
        | none => ⟨'%' :: rest, false⟩
        | some letter =>
          if ['d', 'i', 'o', 'x', 'X', 'u', 'c', 's', 'e', 'E', 'f', 'F', 'g', 'G'].contains
              letter then
            match values with
            | [] => ⟨[], true⟩
            | v :: more => put (fill shown f letter v) s.rest more
          else put ('%' :: rest.take (rest.length - s.rest.length)) s.rest values
    | c :: rest => put [c] rest values

/-- A number as text: all digits of a whole number, or else as a format says. -/
def numberText (format : Octets) (x : Float) : Octets :=
  let b := ofFloat x
  match specialText? b, whole? b with
  | some cs, _ => cs
  | none, some n =>
    -- the largest of them stands for the one behind it as well
    let most : Int := (Nat.pow 2 64 - 1 : Nat)
    if isShort n then (toString (if most < n then most else n)).toList
    else (formatted (fun _ => []) (format.length + 1) format [.number x]).output
  | none, none => (formatted (fun _ => []) (format.length + 1) format [.number x]).output

/-- The text of a value. -/
def Value.shown (format : Octets) : Value → Octets
  | unset => []
  | number x => numberText format x
  | text cs => cs
  | input cs => cs

def holds (op : Comparison) (o : Ordering) : Bool :=
  match op with
  | .less => o == .lt
  | .atMost => o != .gt
  | .equal => o == .eq
  | .unequal => o != .eq
  | .atLeast => o != .lt
  | .greater => o == .gt

/-- Compares as numbers if both values are numbers, else as texts. -/
def compareValues (format : Octets) (op : Comparison) (a b : Value) : Bool :=
  match a.numeric?, b.numeric? with
  | some x, some y =>
    match op with
    | .less => x < y
    | .atMost => x ≤ y
    | .equal => x == y
    | .unequal => x != y
    | .atLeast => y ≤ x
    | .greater => y < x
  | _, _ => holds op (compareOctets (a.shown format) (b.shown format))

/-- The remainder with the sign of the first number. -/
def remainder (x y : Float) : Float :=
  match whole? (ofFloat x), whole? (ofFloat y) with
  | some m, some n => if n = 0 then 0.0 / 0.0 else Float.ofInt (Int.tmod m n)
  | _, _ =>
    let q := x / y
    x - y * (if q < 0 then q.ceil else q.floor)

def compute (op : Operator) (x y : Float) : Float :=
  match op with
  | .add => x + y
  | .subtract => x - y
  | .multiply => x * y
  | .divide => x / y
  | .remainder => remainder x y
  | .power => Float.pow x y

/-! ## Taking lines apart -/

/-- How fields are told apart. -/
inductive Separator
  | blanks
  | char (c : Char)
  | regex (r : Regex)
  /-- Every character is a field. -/
  | nothing

def separatorOf (cs : Octets) : Except Regex.Fault Separator :=
  match cs with
  | [] => .ok .nothing
  | [' '] => .ok .blanks
  | [c] => .ok (.char c)
  | _ => match Regex.read .awk cs with
    | .ok r => .ok (.regex r)
    | .error fault => .error fault

/-- The pieces between matches that take something. -/
def cutAtMatches (r : Regex) (cs : Octets) : List Octets :=
  let text := cs.toArray
  let found := (Regex.findAll r ⟨text, false⟩).filter fun m => m.start < m.stop
  let (pieces, place) := found.foldl (fun (pieces, place) m =>
    ((text.extract place m.start).toList :: pieces, m.stop)) ([], 0)
  ((text.extract place text.size).toList :: pieces).reverse

def words (cs : Octets) : List Octets :=
  (cs.foldr (fun c (pieces : List Octets) =>
    if c = ' ' || c = '\t' || c = '\n' then [] :: pieces
    else match pieces with
      | piece :: rest => (c :: piece) :: rest
      | [] => [[c]]) [[]]).filter (!·.isEmpty)

/-- The fields of a text; between paragraphs a line feed tells fields apart too. -/
def fieldsOf (s : Separator) (paragraphs : Bool) (cs : Octets) : List Octets :=
  if cs.isEmpty then []
  else match s with
    | .blanks => words cs
    | .nothing => cs.map ([·])
    | .char c =>
      if paragraphs then cutAt c (cs.map fun d => if d = '\n' then c else d) else cutAt c cs
    | .regex r =>
      if paragraphs then (cutAt '\n' cs).flatMap (cutAtMatches r) else cutAtMatches r cs

/-- The order in which a loop goes through keys, by a hash of 64 values. -/
def hashOf (key : Octets) : Nat :=
  (key.foldl (fun (h : UInt32) c => (h ^^^ c.toNat.toUInt32) * 16777619) 2166136261).toNat % 64

/-- Keys in the order of a loop, from the order in which they were entered. -/
def inLoopOrder (keys : List Octets) : List Octets :=
  keys.reverse.mergeSort fun a b => hashOf a ≤ hashOf b

end Signoff.Shell.Awk
