import Signoff.Shell.Regex.Reader
import Signoff.Shell.Utility.Options

/-!
# Scripts of the stream editor

A script is a row of steps. Each step has an action and selects the lines that the action is for:
all of them, those at an address, or those from one address to another.
-/

namespace Signoff.Shell.Edit

/-- A regular expression, of which letters may count without their case; without one the last
expression that was used is meant. -/
structure Pattern where
  regex : Option Regex
  folds : Bool

inductive Address
  | line (n : Nat)
  /-- A line and every so many lines behind it. -/
  | every (first gap : Nat)
  | last
  | fits (pattern : Pattern)

/-- Where a range of lines ends. -/
inductive RangeEnd
  | at (a : Address)
  | after (lines : Nat)
  /-- At the next line whose number is a multiple. -/
  | multiple (n : Nat)

structure Selector where
  first : Option Address
  second : Option RangeEnd
  negated : Bool

/-- What happens to the case of letters that are put in. -/
inductive CaseChange
  | upper
  | lower
  | upperOnce
  | lowerOnce
  | none
deriving DecidableEq

/-- A piece of a replacement; group 0 is the whole match. -/
inductive Piece
  | text (cs : Octets)
  | group (n : Nat)
  | change (c : CaseChange)

structure Substitution where
  pattern : Pattern
  replacement : List Piece
  /-- The first match to replace, counted from one. -/
  first : Nat
  all : Bool
  prints : Bool
  file : Option Octets

inductive Action
  /-- The start of a group, with the step behind its end. -/
  | group (behind : Nat)
  | none
  | append (text : Octets)
  | insert (text : Octets)
  | change (text : Octets)
  | branch (target : Nat)
  /-- Branches if something was replaced, or if nothing was. -/
  | branchIf (replaced : Bool) (target : Nat)
  | delete
  | deleteFirst
  | number
  | get (appends : Bool)
  | hold (appends : Bool)
  | exchange
  | show (width : Option Nat)
  | next
  | appendNext
  | print
  | printFirst
  | quit (status : Nat) (prints : Bool)
  | readFile (name : Octets)
  | writeFile (name : Octets)
  | substitute (s : Substitution)
  | transliterate (pairs : List (Char × Char))
  | clear
  | name

structure Step where
  selector : Selector
  action : Action

/-- Why a script makes no sense. -/
inductive Fault
  | openSubstitution
  | openTransliteration
  | unequalTransliteration
  | openAddress
  | unknownCommand (c : Char)
  | noCommand
  | unknownFlag
  | repeatedFlag (c : Char)
  | repeatedNumber
  | zeroNumber
  | strayComma
  | lineZero
  | repeatedNegation
  | strayText
  | openGroup
  | strayEnd
  | endWithAddress
  | labelWithAddress
  | noLabel
  | noText
  | noFile
  | badReference (n : Nat)
  | noPrevious
  | badPattern (fault : Regex.Fault)

def Fault.message : Fault → String
  | .openSubstitution => "unterminated \x60s' command"
  | .openTransliteration => "unterminated \x60y' command"
  | .unequalTransliteration => "strings for \x60y' command are different lengths"
  | .openAddress => "unterminated address regex"
  | .unknownCommand c => "unknown command: \x60" ++ textOf [c] ++ "'"
  | .noCommand => "missing command"
  | .unknownFlag => "unknown option to \x60s'"
  | .repeatedFlag c => "multiple \x60" ++ textOf [c] ++ "' options to \x60s' command"
  | .repeatedNumber => "multiple number options to \x60s' command"
  | .zeroNumber => "number option to \x60s' command may not be zero"
  | .strayComma => "unexpected \x60,'"
  | .lineZero => "invalid usage of line address 0"
  | .repeatedNegation => "multiple \x60!'s"
  | .strayText => "extra characters after command"
  | .openGroup => "unmatched \x60\x7b'"
  | .strayEnd => "unexpected \x60\x7d'"
  | .endWithAddress => "\x7d doesn't want any addresses"
  | .labelWithAddress => ": doesn't want any addresses"
  | .noLabel => "\":\" lacks a label"
  | .noText => "expected \\ after \x60a', \x60c' or \x60i'"
  | .noFile => "missing filename in r/R/w/W commands"
  | .badReference n => s!"invalid reference \\{n} on \x60s' command's RHS"
  | .noPrevious => "no previous regular expression"
  | .badPattern fault => fault.message

/-- Why the editor cannot be used with its arguments or inputs. -/
inductive Failure
  /-- A fault in a part of the script, behind so many characters. -/
  | script (part : Nat) (characters : Nat) (fault : Fault)
  /-- A fault at a line of a file with a script. -/
  | scriptFile (file : Octets) (line : Nat) (fault : Fault)
  | noLabel (label : Octets)
  | noScriptFile (file : Octets) (reason : String)
  | notReadable (file : Octets) (reason : String)

def Failure.message : Failure → Octets
  | .script _ _ (.badPattern .bareClass) | .scriptFile _ _ (.badPattern .bareClass) =>
    octets Regex.Fault.bareClass.message
  | .script part n fault => octets s!"-e expression #{part}, char {n}: {fault.message}"
  | .scriptFile file line fault => octets "file " ++ file ++ octets s!" line {line}: {fault.message}"
  | .noLabel label => octets "can't find label for jump to \x60" ++ label ++ ['\'']
  | .noScriptFile file reason => octets "couldn't open file " ++ file ++ octets s!": {reason}"
  | .notReadable file reason => octets "read error on " ++ file ++ octets s!": {reason}"

def Failure.status : Failure → Nat
  | .script _ _ (.badPattern .bareClass) | .scriptFile _ _ (.badPattern .bareClass) => 4
  | .script .. => 1
  | .scriptFile .. => 1
  | _ => 4

end Signoff.Shell.Edit
