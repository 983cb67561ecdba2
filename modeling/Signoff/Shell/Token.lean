import Signoff.Shell.Script

/-!
# Tokens of a script

A script is words, operators, redirections and line ends. A cursor is a place in a script; reading
moves it on, or ends with the line at which the script makes no sense.
-/

namespace Signoff.Shell

inductive Token
  | endOfFile
  | lineEnd
  | mark (text : String)
  | redirection (channel : Nat) (mark : String)
  | word (w : Word)
  | keyword (text : String)

namespace Token

/-- Words with a meaning of their own where a command may start. -/
def keywords : List String :=
  ["!", "case", "do", "done", "elif", "else", "esac", "fi", "for", "if", "in", "then", "until",
    "while", "\x7b", "\x7d"]

/-- The token as messages name it. -/
def shown : Token → String
  | endOfFile => "end of file"
  | lineEnd => "newline"
  | mark text => s!"\"{text}\""
  | redirection .. => "redirection"
  | word _ => "word"
  | keyword text => s!"\"{text}\""

/-- No command of a list can start here. -/
def closesList : Token → Bool
  | endOfFile => true
  | mark text => text == ")" || text == ";;"
  | keyword text => ["do", "done", "elif", "else", "esac", "fi", "then", "\x7d"].contains text
  | _ => false

/-- A word that is a keyword, if keywords count. -/
def classified (t : Token) : Token :=
  match t with
  | word w =>
    match plainText? w with
    | some cs => if keywords.contains (textOf cs) then .keyword (textOf cs) else t
    | none => t
  | _ => t

end Token

/-- Why a script cannot be read any further. -/
inductive SyntaxFault
  | unexpected (found : Token) (wanted : Option Token)
  | openQuote
  | openBrace
  | openBackquote
  | openSum
  | loopVariable
  | functionName
  | channel

def SyntaxFault.message : SyntaxFault → String
  | .unexpected found none => s!"{found.shown} unexpected"
  | .unexpected found (some wanted) => s!"{found.shown} unexpected (expecting {wanted.shown})"
  | .openQuote => "Unterminated quoted string"
  | .openBrace => "Missing '\x7d'"
  | .openBackquote => "EOF in backquote substitution"
  | .openSum => "Missing '))'"
  | .loopVariable => "Bad for loop variable"
  | .functionName => "Bad function name"
  | .channel => "Bad fd number"

/-- A fault at a line. -/
structure Misreading where
  line : Nat
  fault : SyntaxFault

/-- A place in a script. -/
structure Cursor where
  rest : Octets
  line : Nat
  /-- How many lines of documents were taken out from below the current line. -/
  removed : Nat
  /-- A token that was read but not used. -/
  unread : Option Token

namespace Cursor

def start (source : Octets) : Cursor := ⟨source, 1, 0, none⟩

end Cursor

/-- Steps of reading a script. -/
abbrev Reading := StateT Cursor (Except Misreading)

namespace Reading

def fail {α : Type} (fault : SyntaxFault) : Reading α := fun c => .error ⟨c.line, fault⟩

def putBack (t : Token) : Reading Unit := modify fun c => { c with unread := some t }

/-- Goes on to a rest of the script on the same line. -/
def moveTo (rest : Octets) : Reading Unit := modify fun c => { c with rest }

/-- Goes on to a rest of the script, a number of lines below. -/
def moveDown (lines : Nat) (rest : Octets) : Reading Unit :=
  modify fun c => { c with rest, line := c.line + lines }

/-- Goes on to the rest behind a line feed; documents below the line were read before. -/
def nextLine (rest : Octets) : Reading Unit :=
  modify fun c => { c with rest, line := c.line + 1 + c.removed, removed := 0 }

end Reading

/-- What follows blanks, joined lines and a comment, and how many lines were joined. -/
def skipBlanks (joined : Nat) : Octets → Nat × Octets
  | ' ' :: cs => skipBlanks joined cs
  | '\t' :: cs => skipBlanks joined cs
  | '\\' :: '\n' :: cs => skipBlanks (joined + 1) cs
  | '#' :: cs => (joined, cs.dropWhile (· != '\n'))
  | cs => (joined, cs)

/-- The operators, longer ones first. -/
def operators : List String := ["&&", "||", ";;", ";", "&", "|", "(", ")"]

def redirectionMarks : List String := ["<<-", "<<", "<&", "<>", "<", ">>", ">&", ">|", ">"]

/-- The first of some texts that stands at the front, and the rest. -/
def firstOf? (texts : List String) (cs : Octets) : Option (String × Octets) :=
  texts.findSome? fun t => if t.toList.isPrefixOf cs then some (t, cs.drop t.length) else none

def digitValue (c : Char) : Nat := c.toNat - '0'.toNat

/-- A redirection with its channel, a digit in front of it; else it is 0 for reading and 1 for
writing. -/
def redirection? (cs : Octets) : Option (Nat × String × Octets) :=
  let channel? := match cs with
    | d :: '<' :: _ => if d.isDigit then some (digitValue d) else none
    | d :: '>' :: _ => if d.isDigit then some (digitValue d) else none
    | _ => none
  (firstOf? redirectionMarks (if channel?.isSome then cs.tail else cs)).map fun (mark, rest) =>
    (channel?.getD (if mark.startsWith "<" then 0 else 1), mark, rest)

/-- Parameters that a single character names. -/
def isSpecial (c : Char) : Bool := c.isDigit || ['?', '#', '$', '!', '@', '*', '-'].contains c

def backquote : Char := '\x60'

/-- Characters that end a word. -/
def endsWord (c : Char) : Bool :=
  [' ', '\t', '\n', ';', '&', '|', '<', '>', '(', ')'].contains c

/-- Where the parts of a word stand: free, between double quotes, in braces behind a parameter's
name, in a sum inside so many parentheses, or in a document. -/
inductive Region
  | free
  | quotes
  | braces (quoted : Bool)
  | sum (depth : Nat)
  | document
deriving DecidableEq

/-- The mark that closes a document, whether any of it is quoted, and what follows it. -/
def readMark : Octets → Octets × Bool × Octets
  | [] => ([], false, [])
  | '\\' :: c :: cs =>
    let (mark, _, rest) := readMark cs
    (c :: mark, true, rest)
  | c :: cs =>
    if endsWord c then ([], false, c :: cs)
    else
      let (mark, quoted, rest) := readMark cs
      if c = '\'' || c = '"' then (mark, true, rest) else (c :: mark, quoted, rest)

/-- The lines of a document up to its closing line, and the lines behind it. -/
def takeDocument (closing : Octets) (trims : Bool) :
    List Octets → List Octets × List Octets
  | [] => ([], [])
  | line :: rest =>
    let line := if trims then line.dropWhile (· == '\t') else line
    if line = closing then ([], rest)
    else
      let (body, tail) := takeDocument closing trims rest
      (line :: body, tail)

/-- The source between backquotes and what follows, if they are closed. A backslash may stand in
front of some marks. -/
def takeBackquoted (quoted : Bool) : Octets → Option (Octets × Octets)
  | [] => none
  | '\\' :: c :: cs =>
    (takeBackquoted quoted cs).map fun (taken, rest) =>
      if c = backquote || c = '\\' || c = '$' || (quoted && c = '"') then (c :: taken, rest)
      else ('\\' :: c :: taken, rest)
  | c :: cs =>
    if c = backquote then some ([], cs)
    else (takeBackquoted quoted cs).map fun (taken, rest) => (c :: taken, rest)

end Signoff.Shell
