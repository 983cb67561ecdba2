import Signoff.Shell.Octets

/-!
# Scripts

A tool may be a script for a command shell: commands that are plain, grouped, conditional, repeated
or selected by a pattern. A word of a command is put together from text, parameters, the output of
other commands and sums; what is quoted stays in one piece.
-/

namespace Signoff.Shell

mutual

inductive WordPart
  | text (quoted : Bool) (cs : Octets)
  | parameter (quoted : Bool) (name : Octets) (change : Change)
  | output (quoted : Bool) (body : Command)
  | sum (quoted : Bool) (source : List WordPart)

/-- How the value of a parameter is changed before it is used. `ifEmpty` says whether an empty
value counts as none. -/
inductive Change
  | plain
  | length
  | orElse (ifEmpty : Bool) (other : List WordPart)
  | orAssign (ifEmpty : Bool) (other : List WordPart)
  | orFail (ifEmpty : Bool) (message : List WordPart)
  | ifSet (ifEmpty : Bool) (other : List WordPart)
  | dropFront (longest : Bool) (pattern : List WordPart)
  | dropBack (longest : Bool) (pattern : List WordPart)
  /-- There is no such change. -/
  | unknown

/-- Where a channel leads to. -/
inductive Redirection
  | file (channel : Nat) (mark : String) (target : List WordPart)
  | duplicate (channel : Nat) (target : List WordPart)
  | document (channel : Nat) (body : List WordPart)

inductive Command
  | nothing
  | plain (line : Nat) (assignments : List (Octets × List WordPart)) (words : List (List WordPart))
      (redirections : List Redirection)
  | redirected (line : Nat) (inner : Command) (redirections : List Redirection)
  | subshell (line : Nat) (body : Command) (redirections : List Redirection)
  | background (inner : Command)
  | branch (condition body other : Command)
  | loop (untilTrue : Bool) (condition body : Command)
  | each (line : Nat) (name : Octets) (words : Option (List (List WordPart))) (body : Command)
  | select (line : Nat) (subject : List WordPart)
      (cases : List (List (List WordPart) × Command))
  | define (name : Octets) (body : Command)
  | negated (inner : Command)
  | piped (first second : Command)
  | both (first second : Command)
  | either (first second : Command)
  | sequence (first second : Command)

end

instance : Inhabited WordPart := ⟨.text false []⟩

instance : Inhabited Command := ⟨.nothing⟩

/-- How many commands work together in a pipeline. -/
def Command.parts : Command → Nat
  | .piped first second => first.parts + second.parts
  | _ => 1

abbrev Word := List WordPart

namespace WordPart

def isQuoted : WordPart → Bool
  | .text quoted _ => quoted
  | .parameter quoted _ _ => quoted
  | .output quoted _ => quoted
  | .sum quoted _ => quoted

/-- Stands for all arguments. -/
def isArguments : WordPart → Bool
  | .parameter _ ['@'] .plain => true
  | _ => false

/-- Puts a part in front of a word; texts of one kind run together. An empty text marks a
quotation and stays. -/
def before (part : WordPart) (w : Word) : Word :=
  match part, w with
  | .text q (c :: cs), .text r (d :: ds) :: rest =>
    if q = r then .text q (c :: cs ++ d :: ds) :: rest else part :: w
  | _, _ => part :: w

end WordPart

/-- The text of a word without any quotes or parameters. -/
def plainText? (w : Word) : Option Octets :=
  (w.mapM fun (part : WordPart) => match part with
    | .text false cs => some cs
    | _ => none).map List.flatten

def isNameStart (c : Char) : Bool := c.isAlpha || c == '_'

def isNameChar (c : Char) : Bool := c.isAlphanum || c == '_'

def isName (cs : Octets) : Bool :=
  match cs with
  | c :: rest => isNameStart c && rest.all isNameChar
  | [] => false

/-- A word with a name and an equal sign at its front. -/
def assignment? (w : Word) : Option (Octets × Word) :=
  match w with
  | .text false cs :: rest =>
    let name := cs.takeWhile isNameChar
    match cs.drop name.length with
    | '=' :: more =>
      if isName name then some (name, if more.isEmpty then rest else .text false more :: rest)
      else none
    | _ => none
  | _ => none

end Signoff.Shell
