import Signoff.Shell.Edit.Script

/-!
# Reading scripts of the stream editor

A command may have addresses in front and ends with its line, at a semicolon or at a closing brace.
Labels and groups become places in the row of steps once all is read.
-/

namespace Signoff.Shell.Edit

/-- A place in a part of a script; `taken` counts the characters up to it. -/
structure Place where
  rest : Octets
  taken : Nat

/-- A fault behind a number of characters. -/
structure Complaint where
  taken : Nat
  fault : Fault

abbrev Reading := StateT Place (Except Complaint)

namespace Reading

def fail {α : Type} (fault : Fault) : Reading α := fun p => .error ⟨p.taken, fault⟩

/-- The next character. -/
def next : Reading (Option Char) := do
  match (← get).rest with
  | [] => return none
  | c :: rest =>
    modify fun p => ⟨rest, p.taken + 1⟩
    return some c

/-- The characters up to one that does not hold. -/
def takeWhile (holds : Char → Bool) : Reading Octets := do
  let taken := (← get).rest.takeWhile holds
  modify fun p => ⟨p.rest.drop taken.length, p.taken + taken.length⟩
  return taken

def isSpace (c : Char) : Bool := c == ' ' || c == '\t'

/-- The next character behind blanks. -/
def nextBehindBlanks : Reading (Option Char) := do
  let _ ← takeWhile isSpace
  next

def peek : Reading (Option Char) := return (← get).rest.head?

/-- A whole number that starts with a digit. -/
def number (first : Char) : Reading Nat := do
  let more ← takeWhile Char.isDigit
  return (first :: more).foldl (fun n c => 10 * n + (c.toNat - '0'.toNat)) 0

def controlOf? (c : Char) : Option Char :=
  match c with
  | 't' => some '\t'
  | 'f' => some '\x0c'
  | 'v' => some '\x0b'
  | 'a' => some '\x07'
  | 'r' => some '\r'
  | _ => none

/-- The text up to a delimiter, of which a backslash takes the meaning. In a regular expression the
delimiter may stand in brackets. -/
def delimited (fuel : Nat) (delimiter : Char) (isRegex : Bool) (cs : Octets) :
    Option (Octets × Octets) :=
  match fuel with
  | 0 => none
  | fuel + 1 =>
    let put (front : Octets) (rest : Octets) : Option (Octets × Octets) :=
      (delimited fuel delimiter isRegex rest).map fun (taken, tail) => (front ++ taken, tail)
    match cs with
    | [] => none
    | '\\' :: [] => none
    | '\\' :: c :: rest =>
      if c = 'n' && isRegex && delimiter != 'n' then put ['\n'] rest
      else if c = delimiter && (isRegex || c != '&') then
        put (if isRegex && ['.', '*', '[', '^', '$'].contains c then ['\\', c] else [c]) rest
      else if c = '\n' then put (if isRegex then ['\n'] else ['\\', '\n']) rest
      else put ['\\', c] rest
    | c :: rest =>
      if c = delimiter then some ([], rest)
      else if c = '\n' then none
      else if c = '[' && isRegex then
        match bracketed? rest with
        | some inner => put (c :: inner) (rest.drop inner.length)
        | none => none
      else put [c] rest
where
  /-- The rest of a set in brackets, if it is closed on its line. -/
  bracketed? (cs : Octets) : Option Octets :=
    let front := match cs with
      | '^' :: ']' :: _ => 2
      | '^' :: _ => 1
      | ']' :: _ => 1
      | _ => 0
    let line := (cs.drop front).takeWhile (· != '\n')
    let inner := upToBracket line
    if inner.length < line.length then some (cs.take (front + inner.length + 1)) else none
  /-- What stands in front of the closing bracket; classes have brackets of their own. -/
  upToBracket : Octets → Octets
    | [] => []
    | '[' :: ':' :: rest => '[' :: ':' :: nameRest ':' rest
    | '[' :: '.' :: rest => '[' :: '.' :: nameRest '.' rest
    | '[' :: '=' :: rest => '[' :: '=' :: nameRest '=' rest
    | c :: rest => if c = ']' then [] else c :: upToBracket rest
  /-- The same behind a name that a mark and a bracket end. -/
  nameRest (mark : Char) : Octets → Octets
    | c :: ']' :: rest =>
      if c = mark then c :: ']' :: upToBracket rest else c :: nameRest mark (']' :: rest)
    | c :: rest => c :: nameRest mark rest
    | [] => []

/-- The same at the place of reading. -/
def takeDelimited (delimiter : Char) (isRegex : Bool) (fault : Fault) : Reading Octets := do
  let p ← get
  match delimited (p.rest.length + 1) delimiter isRegex p.rest with
  | none =>
    let _ ← takeWhile (· != '\n')
    fail fault
  | some (taken, rest) =>
    set (⟨rest, p.taken + (p.rest.length - rest.length)⟩ : Place)
    return taken

/-- Letters behind a backslash that stand for control characters become these. -/
def withControls : Octets → Octets
  | [] => []
  | '\\' :: c :: rest => match controlOf? c with
    | some d => d :: withControls rest
    | none => '\\' :: c :: withControls rest
  | c :: rest => c :: withControls rest

/-- The pattern that a text spells. -/
def pattern (dialect : Regex.Dialect) (text : Octets) (folds : Bool) : Reading Pattern := do
  if text.isEmpty then return ⟨none, folds⟩
  else match Regex.read dialect (withControls text) with
    | .ok r => return ⟨some r, folds⟩
    | .error fault => fail (.badPattern fault)

/-- The flags of a pattern that is an address. -/
def addressFlags (fuel : Nat) (folds : Bool) : Reading Bool :=
  match fuel with
  | 0 => return folds
  | fuel + 1 => do
    let _ ← takeWhile isSpace
    match ← peek with
    | some 'I' =>
      let _ ← next
      addressFlags fuel true
    | some 'M' =>
      let _ ← next
      addressFlags fuel folds
    | _ => return folds

/-- The address that starts with a character; nothing if none does. -/
def address? (dialect : Regex.Dialect) (c : Char) : Reading (Option Address) := do
  if c = '/' || c = '\\' then
    let delimiter ← if c = '\\' then next else pure (some c)
    match delimiter with
    | none => fail .openAddress
    | some delimiter =>
      let text ← takeDelimited delimiter true .openAddress
      let folds ← addressFlags 8 false
      return some (.fits (← pattern dialect text folds))
  else if c.isDigit then
    let n ← number c
    match ← peek with
    | some '~' =>
      let _ ← next
      match ← peek with
      | some d =>
        if d.isDigit then
          let _ ← next
          return some (.every n (← number d))
        else return some (.line n)
      | none => return some (.line n)
    | _ => return some (.line n)
  else if c = '$' then return some .last
  else return none

/-- The end of a range behind its comma. -/
def rangeEnd (dialect : Regex.Dialect) : Reading RangeEnd := do
  match ← nextBehindBlanks with
  | none => fail .strayComma
  | some c =>
    if c = '+' || c = '~' then
      match ← next with
      | some d =>
        if d.isDigit then
          let n ← number d
          return if c = '+' then .after n else .multiple n
        else fail .strayComma
      | none => fail .strayComma
    else match ← address? dialect c with
      | some a => return .at a
      | none => fail .strayComma

/-- The end of a command. -/
def finish : Reading Unit := do
  let _ ← takeWhile isSpace
  match ← peek with
  | none => return ()
  | some c =>
    if c = '\x7d' || c = '#' then return ()
    else
      let _ ← next
      if c = ';' || c = '\n' then return () else fail .strayText

/-- A label or the like, up to a blank, a semicolon or a closing brace. -/
def label : Reading Octets := do
  let _ ← takeWhile isSpace
  takeWhile fun c => !isBlankOctet c && c != ';' && c != '\x7d'

/-- The name of a file, up to the end of the line. -/
def fileName : Reading Octets := do
  let _ ← takeWhile isSpace
  let name ← takeWhile (· != '\n')
  if name.isEmpty then fail .noFile
  else
    let _ ← next
    return name

/-- A text up to a line feed in front of which there is no backslash. -/
def textLines (fuel : Nat) : Reading Octets :=
  match fuel with
  | 0 => return []
  | fuel + 1 => do
    match ← next with
    | none => return ['\n']
    | some '\n' => return ['\n']
    | some '\\' =>
      match ← next with
      | none => return ['\n']
      | some c =>
        let rest ← textLines fuel
        return (controlOf? c).getD c :: rest
    | some c =>
      let rest ← textLines fuel
      return c :: rest

/-- The text of a command that puts in lines. -/
def text : Reading Octets := do
  let _ ← takeWhile isSpace
  match ← peek with
  | none => fail .noText
  | some '\\' =>
    let _ ← next
    let blanks ← takeWhile isSpace
    match ← peek with
    | none => return []
    | some '\n' =>
      let _ ← next
      if (← get).rest.isEmpty then return []
      else textLines ((← get).rest.length + 1)
    | some _ => return blanks ++ (← textLines ((← get).rest.length + 1))
  | some _ => textLines ((← get).rest.length + 1)

def hexDigits (cs : Octets) : Octets := (cs.take 2).takeWhile fun c =>
  c.isDigit || ('a' ≤ c && c ≤ 'f') || ('A' ≤ c && c ≤ 'F')

def hexValue (digits : Octets) : Nat :=
  digits.foldl (fun n c => 16 * n + (if c.isDigit then c.toNat - '0'.toNat
    else c.toLower.toNat - 'a'.toNat + 10)) 0

/-- The pieces of a replacement. -/
def pieces (fuel : Nat) (cs : Octets) : List Piece :=
  match fuel with
  | 0 => []
  | fuel + 1 =>
    let put (p : Piece) (rest : Octets) : List Piece := p :: pieces fuel rest
    match cs with
    | [] => []
    | '&' :: rest => put (.group 0) rest
    | '\\' :: c :: rest =>
      if c.isDigit then put (.group (c.toNat - '0'.toNat)) rest
      else match c with
        | 'n' => put (.text ['\n']) rest
        | 'U' => put (.change .upper) rest
        | 'L' => put (.change .lower) rest
        | 'u' => put (.change .upperOnce) rest
        | 'l' => put (.change .lowerOnce) rest
        | 'E' => put (.change .none) rest
        | 'x' =>
          let digits := hexDigits rest
          if digits.isEmpty then put (.text ['x']) rest
          else put (.text [Char.ofNat (hexValue digits)]) (rest.drop digits.length)
        | _ => put (.text [(controlOf? c).getD c]) rest
    | c :: rest => put (.text [c]) rest

/-- Flags of a substitution. -/
structure Flags where
  number : Option Nat
  all : Bool
  prints : Bool
  folds : Bool
  file : Option Octets

def flags (fuel : Nat) (f : Flags) : Reading Flags :=
  match fuel with
  | 0 => return f
  | fuel + 1 => do
    let _ ← takeWhile isSpace
    match ← peek with
    | none => return f
    | some c =>
      if c = '\x7d' || c = '#' then return f
      else
        let _ ← next
        match c with
        | '\n' => return f
        | ';' => return f
        | 'i' => flags fuel { f with folds := true }
        | 'I' => flags fuel { f with folds := true }
        | 'm' => flags fuel f
        | 'M' => flags fuel f
        | 'e' => flags fuel f
        | 'p' => if f.prints then fail (.repeatedFlag c) else flags fuel { f with prints := true }
        | 'g' => if f.all then fail (.repeatedFlag c) else flags fuel { f with all := true }
        | 'w' => return { f with file := some (← fileName) }
        | _ =>
          if !c.isDigit then fail .unknownFlag
          else if f.number.isSome then fail .repeatedNumber
          else
            let n ← number c
            if n = 0 then fail .zeroNumber else flags fuel { f with number := some n }

def highest (ps : List Piece) : Nat :=
  ps.foldl (fun n p => match p with
    | .group m => if n < m then m else n
    | _ => n) 0

def substitution (dialect : Regex.Dialect) : Reading Action := do
  match ← next with
  | none => fail .openSubstitution
  | some delimiter =>
    if delimiter = '\n' || delimiter = '\\' then fail .openSubstitution
    else
      let source ← takeDelimited delimiter true .openSubstitution
      let replacement ← takeDelimited delimiter false .openSubstitution
      let f ← flags ((← get).rest.length + 1) ⟨none, false, false, false, none⟩
      let ps := pieces (replacement.length + 1) replacement
      let p ← pattern dialect source f.folds
      if (p.regex.any fun r => r.groups < highest ps) then fail (.badReference (highest ps))
      else
        return .substitute ⟨p, ps, f.number.getD 1, f.all, f.prints, f.file⟩

/-- The characters of a text for transliteration. -/
def singles : Octets → Octets
  | [] => []
  | '\\' :: c :: rest =>
    if c = '\\' then '\\' :: singles rest
    else if c = 'n' then '\n' :: singles rest
    else match controlOf? c with
      | some d => d :: singles rest
      | none => '\\' :: c :: singles rest
  | c :: rest => c :: singles rest

def transliteration : Reading Action := do
  match ← next with
  | none => fail .openTransliteration
  | some delimiter =>
    let source ← takeDelimited delimiter false .openTransliteration
    let target ← takeDelimited delimiter false .openTransliteration
    let (a, b) := (singles source, singles target)
    if a.length != b.length then fail .unequalTransliteration
    else
      finish
      return .transliterate (a.zip b)

/-- A step whose places are not known yet. -/
inductive Draft
  | step (s : Step)
  | opening (s : Selector)
  | closing
  | label (name : Octets)
  | jump (s : Selector) (condition : Option Bool) (target : Octets)

/-- A whole number behind a command, if there is one. -/
def count? : Reading (Option Nat) := do
  let _ ← takeWhile isSpace
  match ← peek with
  | some c =>
    if c.isDigit then
      let _ ← next
      return some (← number c)
    else return none
  | none => return none

/-- The command that a letter stands for. -/
def command (dialect : Regex.Dialect) (s : Selector) (depth : Nat) (c : Char) : Reading Draft := do
  let plain (action : Action) : Reading Draft := do
    finish
    return .step ⟨s, action⟩
  let put (action : Action) : Reading Draft := return .step ⟨s, action⟩
  match c with
  | '\x7b' => return .opening s
  | '\x7d' =>
    if depth = 0 then fail .strayEnd
    else if s.first.isSome then fail .endWithAddress
    else
      finish
      return .closing
  | '=' => plain .number
  | 'd' => plain .delete
  | 'D' => plain .deleteFirst
  | 'g' => plain (.get false)
  | 'G' => plain (.get true)
  | 'h' => plain (.hold false)
  | 'H' => plain (.hold true)
  | 'x' => plain .exchange
  | 'n' => plain .next
  | 'N' => plain .appendNext
  | 'p' => plain .print
  | 'P' => plain .printFirst
  | 'z' => plain .clear
  | 'F' => plain .name
  | 'l' =>
    let width ← count?
    plain (.show width)
  | 'q' =>
    let status ← count?
    plain (.quit (status.getD 0) true)
  | 'Q' =>
    let status ← count?
    plain (.quit (status.getD 0) false)
  | 'a' => put (.append (← text))
  | 'i' => put (.insert (← text))
  | 'c' => put (.change (← text))
  | 'r' => put (.readFile (← fileName))
  | 'w' => put (.writeFile (← fileName))
  | 's' => put (← substitution dialect)
  | 'y' => put (← transliteration)
  | 'v' =>
    let _ ← label
    put .none
  | ':' =>
    if s.first.isSome then fail .labelWithAddress
    else
      let name ← label
      if name.isEmpty then fail .noLabel else return .label name
  | 'b' => return .jump s none (← label)
  | 't' => return .jump s (some true) (← label)
  | 'T' => return .jump s (some false) (← label)
  | _ => fail (.unknownCommand c)

/-- The addresses and exclamation mark in front of a command, and its letter. -/
def selector (dialect : Regex.Dialect) (c : Char) : Reading (Selector × Char) := do
  let first ← address? dialect c
  let (second, c) ← match first with
    | none => pure (none, some c)
    | some _ =>
      match ← nextBehindBlanks with
      | some ',' =>
        let second ← rangeEnd dialect
        pure (some second, ← nextBehindBlanks)
      | other => pure (none, other)
  let isZero := match first, second with
    | some (.line 0), some (.at (.fits _)) => false
    | some (.line 0), _ => true
    | _, _ => false
  if isZero then fail .lineZero
  else match c with
    | none => fail .noCommand
    | some '!' =>
      match ← nextBehindBlanks with
      | none => fail .noCommand
      | some '!' => fail .repeatedNegation
      | some c => return (⟨first, second, true⟩, c)
    | some c => return (⟨first, second, false⟩, c)

/-- The commands of a part of a script; `depth` groups are open. -/
def drafts (dialect : Regex.Dialect) (fuel depth : Nat) : Reading (List Draft × Nat) :=
  match fuel with
  | 0 => return ([], depth)
  | fuel + 1 => do
    let _ ← takeWhile fun c => isBlankOctet c || c == ';'
    match ← next with
    | none => return ([], depth)
    | some '#' =>
      let _ ← takeWhile (· != '\n')
      drafts dialect fuel depth
    | some c =>
      let (s, c) ← selector dialect c
      let d ← command dialect s depth c
      let depth := match d with
        | .opening _ => depth + 1
        | .closing => depth - 1
        | _ => depth
      let (more, depth) ← drafts dialect fuel depth
      return (d :: more, depth)

end Reading

open Edit.Reading (Draft)

/-- The place behind the end of a group; `depth` groups are open inside it. -/
def behindGroup (depth place : Nat) : List Draft → Nat
  | [] => place
  | .closing :: rest =>
    match depth with
    | 0 => place + 1
    | depth + 1 => behindGroup depth (place + 1) rest
  | .opening _ :: rest => behindGroup (depth + 1) (place + 1) rest
  | _ :: rest => behindGroup depth (place + 1) rest

/-- The place of a label; an empty one is the end of the script. -/
def labelPlace? (drafts : List Draft) (name : Octets) : Option Nat :=
  if name.isEmpty then some drafts.length
  else drafts.findIdx? fun d => match d with
    | .label other => other == name
    | _ => false

/-- Every draft becomes a step at the same place. -/
def placed (drafts : List Draft) : Nat → List Draft → Except Failure (List Step)
  | _, [] => .ok []
  | place, d :: rest => do
    let all : Selector := ⟨none, none, false⟩
    let step ← match d with
      | .step s => pure s
      | .opening s => pure ⟨s, .group (behindGroup 0 (place + 1) rest)⟩
      | .closing => pure ⟨all, .none⟩
      | .label _ => pure ⟨all, .none⟩
      | .jump s condition name =>
        match labelPlace? drafts name, condition with
        | none, _ => throw (.noLabel name)
        | some target, none => pure ⟨s, .branch target⟩
        | some target, some replaced => pure ⟨s, .branchIf replaced target⟩
    let more ← placed drafts (place + 1) rest
    return step :: more

/-- A part of a script, and the file that it comes from. -/
structure Part where
  source : Octets
  file : Option Octets

/-- Reads the parts of a script one behind the other. -/
def readParts (dialect : Regex.Dialect) :
    Nat → Nat → List Part → Except Failure (List Draft × Nat)
  | _, depth, [] => .ok ([], depth)
  | part, depth, p :: rest => do
    match (Reading.drafts dialect (p.source.length + 2) depth).run ⟨p.source, 0⟩ with
    | .error c =>
      match p.file with
      | none => throw (.script part c.taken c.fault)
      | some name =>
        throw (.scriptFile name ((p.source.take c.taken).count '\n' + 1) c.fault)
    | .ok ((drafts, depth), _) =>
      let (more, depth) ← readParts dialect (part + 1) depth rest
      return (drafts ++ more, depth)

/-- The steps of a script. -/
def read (dialect : Regex.Dialect) (parts : List Part) : Except Failure (List Step) := do
  let (drafts, depth) ← readParts dialect 1 0 parts
  if depth != 0 then throw (.script parts.length 0 .openGroup)
  else placed drafts 0 drafts

end Signoff.Shell.Edit
