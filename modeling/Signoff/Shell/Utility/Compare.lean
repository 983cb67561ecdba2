import Signoff.Shell.Utility.Lines

/-!
# Utilities that compare files

One tells the first byte at which two files differ, the other which lines have to be changed, put in
or taken away to turn one file into the other.
-/

namespace Signoff.Shell.Utility

/-- The first place at which two texts differ, counted from one, with its line. -/
def firstDifference (place line : Nat) : Octets → Octets → Option (Nat × Nat)
  | [], _ => none
  | _, [] => none
  | a :: as, b :: bs =>
    if a = b then firstDifference (place + 1) (if a = '\n' then line + 1 else line) as bs
    else some (place, line)

/-- The complaint about a file, which is named as it is. -/
def notThere (utility : String) (name : Octets) (fault : Fault) : Octets :=
  octets s!"{utility}: " ++ name ++ octets s!": {reasonOf fault}"

/-- A complaint about the way of calling, in which both lines have the name in front. -/
def refuseTwice (d : Desk) (utility : String) (message : Octets) : Ended :=
  d.complain (octets s!"{utility}: " ++ message ++
    octets s!"\n{utility}: Try '{utility} --help' for more information.") 2

def cmpKinds : OptionKinds := ⟨"sbl", "in", [("silent", 's'), ("quiet", 's')]⟩

def cmp (d : Desk) (args : List Octets) : Ended :=
  match cmpKinds.read true args with
  | .error fault => refuseTwice d "cmp" fault.message
  | .ok o =>
    match o.operands.drop 2 |>.find? fun v => (scaledCount? v).isNone, o.operands with
    | some v, _ =>
      refuseTwice d "cmp" (octets "invalid --ignore-initial value '" ++ v ++ ['\''])
    | none, [] => refuseTwice d "cmp" (octets "missing operand after 'cmp'")
    | none, first :: rest =>
      let second := rest.head?.getD ['-']
      let silent := o.has 's'
      match d.content first, d.content second with
      | .error fault, _ => complainOf silent first fault
      | _, .error fault => complainOf silent second fault
      | .ok a, .ok b =>
        if a = b then d.done [] 0
        else if silent then d.done [] 1
        else match firstDifference 1 1 a b with
          | some (place, line) =>
            d.done (first ++ ' ' :: second ++
              octets s!" differ: char {place}, line {line}\n") 1
          | none =>
            let (shorter, name) := if a.length < b.length then (a, first) else (b, second)
            let lines := shorter.count '\n'
            let place := if shorter.isEmpty then octets " which is empty"
              else octets s!" after byte {shorter.length}, " ++
                (if shorter.getLast? = some '\n' then octets s!"line {lines}"
                else octets s!"in line {lines + 1}")
            d.complain (octets "cmp: EOF on " ++ name ++ place) 1
where
  complainOf (silent : Bool) (name : Octets) (fault : Fault) : Ended :=
    if silent then d.done [] 2 else d.complain (notThere "cmp" name fault) 2

/-- The lengths of the longest common rows of lines of all ends of two texts: the row for one end of
the first text, from the row for the end behind it. -/
def commonRow (line : Octets) (others : List Octets) (below : List Nat) : List Nat :=
  match others, below with
  | other :: rest, n :: more =>
    let row := commonRow line rest more
    let behind := (more.head?).getD 0
    let right := (row.head?).getD 0
    (if line = other then behind + 1 else if n < right then right else n) :: row
  | _, _ => [0]

def commonTable (lines others : List Octets) : List (List Nat) :=
  match lines with
  | [] => [List.replicate (others.length + 1) 0]
  | line :: rest =>
    let table := commonTable rest others
    commonRow line others ((table.head?).getD []) :: table

/-- What becomes of a line. -/
inductive Edited
  | kept (line : Octets)
  | gone (line : Octets)
  | new (line : Octets)
deriving DecidableEq

/-- The shortest way from one text to another; lines go before others come. -/
def editsOf (fuel : Nat) (lines others : List Octets) (table : List (List Nat)) : List Edited :=
  match fuel with
  | 0 => []
  | fuel + 1 =>
    match lines, others with
    | [], bs => bs.map .new
    | as, [] => as.map .gone
    | a :: as, b :: bs =>
      let row := (table.head?).getD []
      let below := (table.tail.head?).getD []
      if a = b then .kept a :: editsOf fuel as bs (table.tail.map List.tail)
      else if (row.tail.head?).getD 0 ≤ (below.head?).getD 0 then
        .gone a :: editsOf fuel as (b :: bs) table.tail
      else .new b :: editsOf fuel (a :: as) bs (table.map List.tail)

/-- Lines that change together, with the numbers of the lines in front of them. -/
structure Hunk where
  before : Nat
  beforeNew : Nat
  gone : List Octets
  new : List Octets

def hunksOf (before beforeNew : Nat) (open? : Option Hunk) : List Edited → List Hunk
  | [] => open?.toList
  | e :: rest =>
    let current := open?.getD ⟨before, beforeNew, [], []⟩
    match e with
    | .kept _ => open?.toList ++ hunksOf (before + 1) (beforeNew + 1) none rest
    | .gone line =>
      hunksOf (before + 1) beforeNew (some { current with gone := current.gone ++ [line] }) rest
    | .new line =>
      hunksOf before (beforeNew + 1) (some { current with new := current.new ++ [line] }) rest

def rangeText (before count : Nat) : Octets :=
  let first := if count = 0 then before else before + 1
  Text.digitsOf first ++
    (if count ≤ 1 then [] else ',' :: Text.digitsOf (before + count))

/-- A line behind a mark; a missing line feed is told. -/
def markedLine (mark line : Octets) : Octets :=
  mark ++ line ++ (if line.getLast? = some '\n' then []
    else octets "\n\\ No newline at end of file\n")

def Hunk.shown (h : Hunk) : Octets :=
  let letter := if h.gone.isEmpty then 'a' else if h.new.isEmpty then 'd' else 'c'
  rangeText h.before h.gone.length ++ letter :: rangeText h.beforeNew h.new.length ++ '\n' ::
    h.gone.flatMap (markedLine (octets "< ")) ++
    (if letter = 'c' then octets "---\n" else []) ++ h.new.flatMap (markedLine (octets "> "))

def diffKinds : OptionKinds :=
  ⟨"qsuwbBirNa", "U", [("brief", 'q'), ("report-identical-files", 's'), ("unified", 'u'),
    ("ignore-all-space", 'w'), ("ignore-case", 'i')]⟩

/-- Unified output: everything with context, as one piece. -/
def unified (first second : Octets) (edits : List Edited) : Octets :=
  let old := edits.filter fun e => match e with
    | .new _ => false
    | _ => true
  let new := edits.filter fun e => match e with
    | .gone _ => false
    | _ => true
  let range (n : Nat) : Octets :=
    if n = 0 then octets "0,0" else if n = 1 then ['1'] else octets s!"1,{n}"
  octets "--- " ++ first ++ octets "\n+++ " ++ second ++ octets "\n@@ -" ++ range old.length ++
    octets " +" ++ range new.length ++ octets " @@\n" ++ edits.flatMap fun e => match e with
      | .kept line => markedLine [' '] line
      | .gone line => markedLine ['-'] line
      | .new line => markedLine ['+'] line

def diff (d : Desk) (args : List Octets) : Ended :=
  match diffKinds.read true args with
  | .error fault => refuseTwice d "diff" fault.message
  | .ok o => match o.operands with
    | [first, second] =>
      match d.content first, d.content second with
      | .error fault, .error other =>
        d.complain (notThere "diff" first fault ++ '\n' :: notThere "diff" second other) 2
      | .error fault, _ => d.complain (notThere "diff" first fault) 2
      | _, .error fault => d.complain (notThere "diff" second fault) 2
      | .ok a, .ok b =>
        if a = b then
          d.done (if o.has 's' then octets "Files " ++ first ++ octets " and " ++ second ++
            octets " are identical\n" else []) 0
        else if o.has 'q' then
          d.done (octets "Files " ++ first ++ octets " and " ++ second ++ octets " differ\n") 1
        else
          let (lines, others) := (rawLines a, rawLines b)
          let edits := editsOf (lines.length + others.length + 1) lines others
            (commonTable lines others)
          d.done (if o.has 'u' || o.has 'U' then unified first second edits
            else (hunksOf 0 0 none edits).flatMap Hunk.shown) 1
    | _ :: _ :: extra :: _ =>
      refuseTwice d "diff" (octets "extra operand '" ++ extra ++ ['\''])
    | operands =>
      refuseTwice d "diff" (octets "missing operand after '" ++
        operands.getLast?.getD (octets "diff") ++ ['\''])

end Signoff.Shell.Utility
