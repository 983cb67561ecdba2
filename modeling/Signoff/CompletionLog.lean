import Signoff.Job

/-!
# The completion log

The log has a line `DOMAIN|place|unit|time` for each completed job. Characters of a unit name that
would break the line are written as underscores. Reading skips lines of any other form, and the
first line of a job counts.
-/

namespace Signoff

open Signoff.Text Signoff.Time

/-- What the log says about a completed job. -/
structure Completion where
  unitName : String
  completedAt : Instant
deriving DecidableEq, Repr, Inhabited

namespace CompletionLog

def sanitize (name : List Char) : List Char :=
  name.map fun c => if c = '|' || c = '\n' || c = '\r' then '_' else c

def writeLine (key : JobKey) (unitName : String) (time : Instant) : String :=
  String.ofList (join ['|'] [key.domain.name.toList, digitsOf key.index.toNat,
    sanitize unitName.toList, time.write.toList])

def readLine? (line : List Char) : Option (JobKey × Completion) :=
  match splitFirst '|' 3 (trim line) with
  | [domain, index, name, time] => do
    let domain ← Domain.ofChars? domain
    let index ← readUInt64? (trim index)
    let time ← Instant.read? (trim time)
    let name := trim name
    if name.isEmpty then none else return (⟨domain, index⟩, ⟨String.ofList name, time⟩)
  | _ => none

/-- The completed jobs of a log, each key once, in the order of the lines. -/
structure Completions where
  entries : List (JobKey × Completion)
deriving DecidableEq, Repr, Inhabited

namespace Completions

def empty : Completions := ⟨[]⟩

def lookup? (c : Completions) (key : JobKey) : Option Completion :=
  (c.entries.find? (·.1 == key)).map (·.2)

def size (c : Completions) : Nat := c.entries.length

/-- Adds an entry unless the job has one. -/
def add (c : Completions) (entry : JobKey × Completion) : Completions :=
  if (c.lookup? entry.1).isSome then c else ⟨c.entries ++ [entry]⟩

def ofLines (ls : List (List Char)) : Completions := (ls.filterMap readLine?).foldl add empty

end Completions

def read (text : String) : Completions := Completions.ofLines (lines text.toList)

/-- The lines that are neither blank nor well-formed, with their numbers from 1. -/
def skippedLines (text : String) : List (Nat × String) :=
  (lines text.toList).zipIdx.filterMap fun (line, i) =>
    if isBlankText line || (readLine? line).isSome then none else some (i + 1, String.ofList line)

end CompletionLog

end Signoff
