import Signoff.Status
import Signoff.Text.Lines
import Signoff.Text.Scan

/-!
# Release history

The tool lists earlier attempts to release a unit. They are counted by outcome, and the last line
is kept as it is.
-/

namespace Signoff

open Signoff.Text

structure AttemptTally where
  succeeded : UInt32
  failed : UInt32
  latest : Option String
deriving DecidableEq, Repr, Inhabited

namespace AttemptTally

def empty : AttemptTally := ⟨0, 0, none⟩

def outcomeWords : List String :=
  ["success", "succeeded", "ok", "passed", "fail", "failed", "error"]

/-- The first outcome word with a colon or equal sign in front of it. -/
def outcome? (_ : Option Char) (cs : List Char) : Option (List Char) :=
  match cs with
  | c :: rest =>
    if isMark c then (wholeKeyword? outcomeWords (trimStart rest)).map (·.1) else none
  | [] => none

/-- The words `release attempt` and the outcome word somewhere behind them. -/
def attempt? (before : Option Char) (cs : List Char) : Option (List Char) :=
  if isBoundary before cs.head? then do
    let (_, rest) ← keyword? "release".toList cs
    let rest ← afterBlanks? rest
    let (_, rest) ← wholeKeyword? ["attempt"] rest
    firstFrom? outcome? none rest
  else none

/-- The outcome word of a line, as written. -/
def outcomeWord? (line : List Char) : Option (List Char) := firstFrom? attempt? none line

def isSuccess (word : List Char) : Bool :=
  ["success", "succeeded", "ok", "passed"].any fun good => sameLetters word good.toList

def readLine (t : AttemptTally) (line : List Char) : AttemptTally :=
  match outcomeWord? line with
  | none => t
  | some word =>
    let t := if isSuccess word then { t with succeeded := t.succeeded + 1 }
      else { t with failed := t.failed + 1 }
    { t with latest := some (String.ofList (trim line)) }

def read (body : List Char) : AttemptTally := (lines body).foldl readLine empty

def statusOf (succeeded failed : UInt32) : Status :=
  if succeeded = 0 && failed = 0 then .notFound
  else if failed = 0 then .passed
  else if succeeded = 0 then .failed
  else .warn

def details (t : AttemptTally) : String :=
  if statusOf t.succeeded t.failed = .notFound then "no release attempts recorded"
  else s!"{t.succeeded} of {t.succeeded + t.failed} release attempts succeeded"

end AttemptTally

end Signoff
