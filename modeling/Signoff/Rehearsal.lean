import Signoff.Run.Basic

/-!
# Rehearsed tools

A rehearsed tool answers from a script. The calls for one request are counted: the n-th takes the
n-th answer, and the last answer repeats.
-/

namespace Signoff

/-- Answers by request. -/
structure Script where
  parts : List (String × List ToolAnswer)

namespace Script

def sectionsText (r : Request) : String := String.intercalate "," r.sections

/-- The name of a request: its sections and its working folder. -/
def nameOf (r : Request) : String := s!"{sectionsText r}/{r.workarea.text}"

def part? (s : Script) (name : String) : Option (List ToolAnswer) :=
  (s.parts.find? (·.1 == name)).map (·.2)

/-- The answers to a request: those for its name, else for its sections, else for all. -/
def answers? (s : Script) (r : Request) : Option (List ToolAnswer) :=
  s.part? (nameOf r) <|> s.part? (sectionsText r ++ "/*") <|> s.part? "*"

def missing : ToolAnswer := .answer ⟨.code 127, "no script"⟩

/-- The answer to the n-th call, counted from zero. -/
def answer (s : Script) (r : Request) (n : Nat) : ToolAnswer :=
  match s.answers? r with
  | none => missing
  | some answers => answers[n]?.getD (answers.getLast?.getD missing)

end Script

/-- How often each request was made, by name. -/
structure CallCounts where
  counts : List (String × Nat)
deriving DecidableEq, Repr, Inhabited

namespace CallCounts

def of (c : CallCounts) (name : String) : Nat :=
  ((c.counts.find? (·.1 == name)).map (·.2)).getD 0

def addTo (name : String) : List (String × Nat) → List (String × Nat)
  | [] => [(name, 1)]
  | entry :: rest =>
    if entry.1 = name then (name, entry.2 + 1) :: rest else entry :: addTo name rest

def add (c : CallCounts) (name : String) : CallCounts := ⟨addTo name c.counts⟩

end CallCounts

/-- The tool that plays a script. -/
def Script.tool (s : Script) : Tool CallCounts where
  call counts _ _ _ r := (s.answer r (counts.of (nameOf r)), counts.add (nameOf r))

end Signoff
