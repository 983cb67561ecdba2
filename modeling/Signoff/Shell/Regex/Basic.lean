import Signoff.Shell.Pattern

/-!
# Regular expressions

The expressions that utilities search with. A match is the leftmost one, and of those the longest;
what its groups took is kept with it.
-/

namespace Signoff.Shell

inductive Regex
  | empty
  | one (c : Char)
  | any
  | oneOf (negated : Bool) (ranges : List CharRange)
  | start
  | finish
  /-- An edge of a word: at its start, at its end, at either, or at neither. -/
  | edge (atStart atEnd negated : Bool)
  | group (index : Nat) (inner : Regex)
  /-- What a group took, once more. -/
  | same (index : Nat)
  | sequence (first second : Regex)
  | either (first second : Regex)
  | times (inner : Regex) (least : Nat) (most : Option Nat)
deriving DecidableEq, Repr, Inhabited

namespace Regex

/-- A group with the places where it starts and stops. -/
structure Span where
  index : Nat
  start : Nat
  stop : Nat
deriving DecidableEq, Repr

structure Match where
  start : Nat
  stop : Nat
  groups : List Span
deriving DecidableEq, Repr

/-- What is still to be matched. -/
inductive Task
  | part (r : Regex)
  /-- A group that started at a place ends here. -/
  | leave (index start : Nat)
  /-- A repeated part, of which `done` turns are over, the last one from a place on. -/
  | again (inner : Regex) (least : Nat) (most : Option Nat) (done last : Nat)

/-- The text to search, and whether letters of both cases count as the same. -/
structure Subject where
  text : Array Char
  folds : Bool

namespace Subject

def isWord (s : Subject) (i : Nat) : Bool := (s.text[i]?).any fun c => c.isAlphanum || c == '_'

/-- A word character stands in front of a place. -/
def wordBefore (s : Subject) (i : Nat) : Bool := 0 < i && s.isWord (i - 1)

def fits (s : Subject) (c d : Char) : Bool := c == d || (s.folds && c.toLower == d.toLower)

def inRanges (s : Subject) (ranges : List CharRange) (c : Char) : Bool :=
  ranges.any (·.has c) || (s.folds && ranges.any fun r => r.has c.toLower || r.has c.toUpper)

def holdsEdge (s : Subject) (i : Nat) (atStart atEnd negated : Bool) : Bool :=
  let starts := !s.wordBefore i && s.isWord i
  let ends := s.wordBefore i && !s.isWord i
  negated != ((atStart && starts) || (atEnd && ends))

end Subject

/-- Where a match ends, with its groups. -/
abbrev Found := Option (Nat × List Span)

/-- The longer of two matches from one place, the first of two that are as long. -/
def longer (a b : Found) : Found :=
  match a, b with
  | none, _ => b
  | _, none => a
  | some (i, _), some (j, _) => if i < j then b else a

/-- The match ends where the text ends, so that none is longer. -/
def isWhole (s : Subject) (a : Found) : Bool := a.any fun (i, _) => i == s.text.size

def spanOf (index : Nat) (spans : List Span) : Option Span := spans.find? (·.index == index)

/-- The longest match of some tasks from a place on. Fuel bounds their number. -/
def run (s : Subject) (fuel : Nat) (tasks : List Task) (i : Nat) (spans : List Span) : Found :=
  match fuel with
  | 0 => none
  | fuel + 1 =>
    match tasks with
    | [] => some (i, spans)
    | .leave index begun :: rest =>
      run s fuel rest i (⟨index, begun, i⟩ :: spans.filter (·.index != index))
    | .again inner least most done last :: rest =>
      -- a turn that took nothing is the last one
      let stops := most == some done || (least ≤ done && done != 0 && last == i)
      let more := if stops then none
        else run s fuel (.part inner :: .again inner least most (done + 1) i :: rest) i spans
      if isWhole s more || done < least then more else longer more (run s fuel rest i spans)
    | .part r :: rest =>
      let step (holds : Char → Bool) : Found :=
        if (s.text[i]?).any holds then run s fuel rest (i + 1) spans else none
      let stay (holds : Bool) : Found := if holds then run s fuel rest i spans else none
      match r with
      | .empty => run s fuel rest i spans
      | .one c => step (s.fits c)
      | .any => step fun _ => true
      | .oneOf negated ranges => step fun c => negated != s.inRanges ranges c
      | .start => stay (i == 0)
      | .finish => stay (i == s.text.size)
      | .edge atStart atEnd negated => stay (s.holdsEdge i atStart atEnd negated)
      | .group index inner => run s fuel (.part inner :: .leave index i :: rest) i spans
      | .same index =>
        match spanOf index spans with
        | none => none
        | some span =>
          let taken := (s.text.extract span.start span.stop).toList
          let here := (s.text.extract i (i + taken.length)).toList
          if here.length = taken.length && (taken.zip here).all fun (c, d) => s.fits c d then
            run s fuel rest (i + taken.length) spans
          else none
      | .sequence first second => run s fuel (.part first :: .part second :: rest) i spans
      | .either first second =>
        let a := run s fuel (.part first :: rest) i spans
        if isWhole s a then a else longer a (run s fuel (.part second :: rest) i spans)
      | .times inner least most => run s fuel (.again inner least most 0 i :: rest) i spans

def size : Regex → Nat
  | .group _ inner => inner.size + 1
  | .sequence a b => a.size + b.size + 1
  | .either a b => a.size + b.size + 1
  | .times inner least most => inner.size * ((most.getD least) + 1) + 1
  | _ => 1

/-- How many groups there are. -/
def groups : Regex → Nat
  | .group _ inner => inner.groups + 1
  | .sequence a b => a.groups + b.groups
  | .either a b => a.groups + b.groups
  | .times inner _ _ => inner.groups
  | _ => 0

/-- The leftmost longest match from a place on. -/
def find? (r : Regex) (s : Subject) (start : Nat) : Option Match :=
  let fuel := (r.size + 4) * (s.text.size + 4) * 4
  (List.range (s.text.size + 1 - start)).findSome? fun k =>
    (run s fuel [.part r] (start + k) []).map fun (stop, groups) => ⟨start + k, stop, groups⟩

/-- All matches, each behind the one before it. An empty match does not touch the one before. -/
def findAll (r : Regex) (s : Subject) : List Match := go (s.text.size + 2) 0 none
where
  go (fuel start : Nat) (last : Option Nat) : List Match :=
    match fuel with
    | 0 => []
    | fuel + 1 =>
      match find? r s start with
      | none => []
      | some m =>
        if m.start = m.stop then
          let next := if m.start < s.text.size then go fuel (m.start + 1) last else []
          if last = some m.start then next else m :: next
        else m :: go fuel m.stop (some m.stop)

end Regex

end Signoff.Shell
