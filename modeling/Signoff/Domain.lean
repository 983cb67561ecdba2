import Signoff.Error
import Signoff.Text.Basic

/-!
# Analysis domains

The six analyses that a sign-off covers, in the order in which they are run. A domain has a name
for logs and reports, a slug for folders and table heads, the sections it asks the tool for, and
the titles under which the tool may print them.
-/

namespace Signoff

open Signoff.Text

inductive Domain
  | formal
  | timing
  | physical
  | clock
  | release
  | gateLevel
deriving DecidableEq, Repr, Inhabited

namespace Domain

def all : List Domain := [formal, timing, physical, clock, release, gateLevel]

/-- The place in the order of processing. -/
def rank : Domain → Nat
  | formal => 0
  | timing => 1
  | physical => 2
  | clock => 3
  | release => 4
  | gateLevel => 5

def name : Domain → String
  | formal => "FORMAL"
  | timing => "TIMING"
  | physical => "PHYSICAL_VERIFICATION"
  | clock => "CLOCK"
  | release => "RELEASE"
  | gateLevel => "GATE_LEVEL_CHECK"

def slug : Domain → String
  | formal => "formal"
  | timing => "timing"
  | physical => "pv"
  | clock => "clock"
  | release => "release"
  | gateLevel => "glc"

def sections (d : Domain) : List String := [d.slug]

def titles : Domain → List String
  | formal => ["formal", "formal verification", "lec"]
  | timing => ["timing", "sta"]
  | physical => ["pv", "physical", "physical verification"]
  | clock => ["clock", "cts", "clock tree"]
  | release => ["release", "release history"]
  | gateLevel => ["glc", "gate level check", "gate_level"]

/-- The words a user may write for a domain, in lower case and with underscores. -/
def words : Domain → List String
  | formal => ["formal", "lec"]
  | timing => ["timing", "sta"]
  | physical => ["physical_verification", "physical", "pv"]
  | clock => ["clock", "cts"]
  | release => ["release"]
  | gateLevel => ["gate_level_check", "gate_level", "glc"]

def ofChars? (cs : List Char) : Option Domain :=
  let word := replaceChar '-' '_' (lower (trim cs))
  all.find? fun d => d.words.any (·.toList == word)

def ofText? (s : String) : Option Domain := ofChars? s.toList

def ofName? (s : String) : Option Domain := all.find? (·.name == s)

def read (s : String) : Except Error Domain :=
  match ofText? s with
  | some d => .ok d
  | none => .error (.unknownDomain s)

/-- Goes through the parts of a list with the domains found so far. The word `all` ends the list
with every domain. -/
def collect (found : List Domain) : List (List Char) → Except Error (List Domain)
  | [] => .ok (if found.isEmpty then all else found)
  | part :: rest =>
    if sameLetters part "all".toList then .ok all
    else match ofChars? part with
      | none => .error (.unknownDomain (String.ofList part))
      | some d => collect (if found.contains d then found else found ++ [d]) rest

/-- The domains of a comma-separated list, each once; no part at all stands for every domain. -/
def readList (s : String) : Except Error (List Domain) :=
  collect [] (((splitOn ',' s.toList).map trim).filter (!·.isEmpty))

@[simp] theorem ofName?_name (d : Domain) : ofName? d.name = some d := by
  cases d <;> decide

theorem slug_injective {d e : Domain} (h : d.slug = e.slug) : d = e := by
  revert h; cases d <;> cases e <;> decide

end Domain

end Signoff
