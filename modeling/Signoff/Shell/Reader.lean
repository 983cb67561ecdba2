import Signoff.Shell.Token

/-!
# Reading a script

The grammar of scripts: lists of pipelines, and commands that are plain, grouped, conditional,
repeated or selected. A command in a word is read along with the word. Reading takes fuel, which
the length of the script bounds.
-/

namespace Signoff.Shell

namespace Region

def isQuoted : Region → Bool
  | free => false
  | braces quoted => quoted
  | _ => true

/-- Characters that a backslash makes plain. -/
def escapes (r : Region) (c : Char) : Bool :=
  match r with
  | free => true
  | braces false => true
  | document => c == '\\' || c == '$' || c == backquote
  | braces true => ['\\', '$', backquote, '"', '\x7d'].contains c
  | _ => ['\\', '$', backquote, '"'].contains c

/-- What is wrong if the script ends in the region. -/
def fault? : Region → Option SyntaxFault
  | free => none
  | document => none
  | quotes => some .openQuote
  | braces quoted => some (if quoted then .openQuote else .openBrace)
  | sum _ => some .openSum

end Region

/-- Two commands one after the other. -/
def Command.andThen (first second : Command) : Command :=
  match first with
  | .nothing => second
  | _ => .sequence first second

/-- Commands that end a session that fails in them; a function cannot have their names. -/
def specialNames : List String :=
  [".", ":", "break", "continue", "eval", "exec", "exit", "export", "local", "readonly", "return",
    "set", "shift", "times", "trap", "unset"]

namespace Reading

def unexpected {α : Type} (found : Token) (wanted : Option Token) : Reading α :=
  fail (.unexpected found wanted)

/-- The name and the change of a parameter in braces, up to the text of the change. -/
structure Braced where
  name : Octets
  /-- Builds the change from its text; a change without text has none. -/
  change : Change ⊕ (Word → Change)
  /-- The text of the change is a pattern. -/
  isPattern : Bool
  rest : Octets

/-- The change whose mark stands in front of a text. -/
def changeOf (name cs : Octets) : Braced :=
  let text (f : Word → Change) (rest : Octets) : Braced := ⟨name, .inr f, false, rest⟩
  let pattern (f : Word → Change) (rest : Octets) : Braced := ⟨name, .inr f, true, rest⟩
  match cs with
  | '\x7d' :: rest => ⟨name, .inl .plain, false, rest⟩
  | ':' :: '-' :: rest => text (.orElse true) rest
  | '-' :: rest => text (.orElse false) rest
  | ':' :: '=' :: rest => text (.orAssign true) rest
  | '=' :: rest => text (.orAssign false) rest
  | ':' :: '?' :: rest => text (.orFail true) rest
  | '?' :: rest => text (.orFail false) rest
  | ':' :: '+' :: rest => text (.ifSet true) rest
  | '+' :: rest => text (.ifSet false) rest
  | '#' :: '#' :: rest => pattern (.dropFront true) rest
  | '#' :: rest => pattern (.dropFront false) rest
  | '%' :: '%' :: rest => pattern (.dropBack true) rest
  | '%' :: rest => pattern (.dropBack false) rest
  | _ => text (fun _ => .unknown) cs

/-- The name at the front: a proper one, a number, or a special character. -/
def nameAt (cs : Octets) : Octets :=
  match cs with
  | [] => []
  | c :: _ =>
    if isNameStart c then cs.takeWhile isNameChar
    else if c.isDigit then cs.takeWhile Char.isDigit
    else if isSpecial c then [c]
    else []

/-- A parameter in braces, behind the opening brace. -/
def bracedAt (cs : Octets) : Braced :=
  let ordinary : Braced := changeOf (nameAt cs) (cs.drop (nameAt cs).length)
  match cs with
  | '#' :: more =>
    let name := nameAt more
    match name, more.drop name.length with
    | [], _ => ordinary
    | c :: _, '\x7d' :: rest =>
      if c.isAlphanum || c = '_' || name.length = 1 then ⟨name, .inl .length, false, rest⟩
      else ordinary
    | c :: _, _ =>
      if c.isAlphanum || c = '_' then ⟨name, .inr fun _ => .unknown, false, more⟩ else ordinary
  | _ => if (nameAt cs).isEmpty then ⟨[], .inr fun _ => .unknown, false, cs⟩ else ordinary

/-- How often a list of commands may end, and where it ends. -/
inductive ListKind
  /-- The commands up to the end of a line. -/
  | line
  /-- At least one command. -/
  | some
  /-- Any number of commands. -/
  | any
deriving DecidableEq

mutual

/-- The next token. Line ends are passed over if `skips` says so, and words are looked at as
keywords if `keywords` says so. -/
def token (fuel : Nat) (skips keywords : Bool) : Reading Token :=
  match fuel with
  | 0 => fail .openQuote
  | fuel + 1 => do
    let t ← freshToken fuel
    match t with
    | .lineEnd => if skips then token fuel skips keywords else return t
    | _ => return if keywords then t.classified else t

/-- The token that was put back, or the one at the cursor. -/
def freshToken (fuel : Nat) : Reading Token :=
  match fuel with
  | 0 => fail .openQuote
  | fuel + 1 => do
    let c ← get
    match c.unread with
    | some t =>
      set { c with unread := none }
      return t
    | none =>
      let (joined, rest) := skipBlanks 0 c.rest
      moveDown joined rest
      match rest with
      | [] => return .endOfFile
      | '\n' :: below =>
        nextLine below
        return .lineEnd
      | _ =>
        match redirection? rest with
        | some (channel, mark, tail) =>
          moveTo tail
          return .redirection channel mark
        | none =>
          match firstOf? operators rest with
          | some (text, tail) =>
            moveTo tail
            return .mark text
          | none => return .word (← readParts fuel .free)

/-- The parts of a word in a region, up to its end. -/
def readParts (fuel : Nat) (region : Region) : Reading Word :=
  match fuel with
  | 0 => fail .openQuote
  | fuel + 1 => do
    let c ← get
    let quoted := region.isQuoted
    let addText (q : Bool) (cs : Octets) : Reading Word := do
      return (WordPart.text q cs).before (← readParts fuel region)
    match c.rest with
    | [] =>
      match region.fault? with
      | some fault => fail fault
      | none => return []
    | '\\' :: '\n' :: rest =>
      moveDown 1 rest
      readParts fuel region
    | '\\' :: [] =>
      moveTo []
      addText true ['\\']
    | '\\' :: d :: rest =>
      moveTo rest
      addText true (if region.escapes d then [d] else ['\\', d])
    | '$' :: rest =>
      moveTo rest
      let part ← readDollar fuel region
      return part.before (← readParts fuel region)
    | d :: rest =>
      if d = backquote then
        match takeBackquoted quoted rest with
        | none => fail .openBackquote
        | some (source, tail) =>
          moveDown ((rest.take (rest.length - tail.length)).count '\n') tail
          let body ← readApart fuel source
          return (WordPart.output quoted body).before (← readParts fuel region)
      else if d = '\n' && region != .free then
        moveDown 1 rest
        addText quoted [d]
      else
        match region with
        | .free =>
          if endsWord d then return []
          else if d = '\'' then readQuoted fuel region rest
          else
            moveTo rest
            if d = '"' then
              let inner ← readParts fuel .quotes
              return .text true [] :: (inner ++ (← readParts fuel region))
            else addText false [d]
        | .quotes =>
          moveTo rest
          if d = '"' then return [] else addText true [d]
        | .braces q =>
          if d = '\'' && !q then readQuoted fuel region rest
          else
            moveTo rest
            if d = '\x7d' then return []
            else if d = '"' then
              if q then readParts fuel region
              else
                let inner ← readParts fuel .quotes
                return .text true [] :: (inner ++ (← readParts fuel region))
            else addText q [d]
        | .sum depth =>
          moveTo rest
          if d = '(' then
            return (WordPart.text true [d]).before (← readParts fuel (.sum (depth + 1)))
          else if d = ')' then
            if 0 < depth then
              return (WordPart.text true [d]).before (← readParts fuel (.sum (depth - 1)))
            else match rest with
              | ')' :: tail =>
                moveTo tail
                return []
              | _ => addText true [d]
          else addText true [d]
        | .document =>
          moveTo rest
          addText true [d]

/-- A text between single quotes; `rest` follows the first of them. -/
def readQuoted (fuel : Nat) (region : Region) (rest : Octets) : Reading Word :=
  match fuel with
  | 0 => fail .openQuote
  | fuel + 1 => do
    let inner := rest.takeWhile (· != '\'')
    moveDown (inner.count '\n') (rest.drop (inner.length + 1))
    if inner.length = rest.length then fail .openQuote
    else return .text true [] :: (WordPart.text true inner).before (← readParts fuel region)

/-- What a dollar sign stands for; one that stands for nothing is text. -/
def readDollar (fuel : Nat) (region : Region) : Reading WordPart :=
  match fuel with
  | 0 => fail .openQuote
  | fuel + 1 => do
    let c ← get
    let quoted := region.isQuoted
    match c.rest with
    | '(' :: '(' :: rest =>
      moveTo rest
      return .sum quoted (← readParts fuel (.sum 0))
    | '(' :: rest =>
      moveTo rest
      let body ← readList fuel .any .nothing
      let t ← token fuel false false
      match t with
      | .mark ")" => return .output quoted body
      | _ => unexpected t (some (.mark ")"))
    | '\x7b' :: rest =>
      let b := bracedAt rest
      moveTo b.rest
      match b.change with
      | .inl change => return .parameter quoted b.name change
      | .inr change =>
        let inner ← readParts fuel (.braces (quoted && !b.isPattern))
        return .parameter quoted b.name (change inner)
    | d :: rest =>
      if isNameStart d then
        let name := c.rest.takeWhile isNameChar
        moveTo (c.rest.drop name.length)
        return .parameter quoted name .plain
      else if isSpecial d then
        moveTo rest
        return .parameter quoted [d] .plain
      else return .text quoted ['$']
    | [] => return .text quoted ['$']

/-- The commands of a text of its own. -/
def readApart (fuel : Nat) (source : Octets) : Reading Command :=
  match fuel with
  | 0 => fail .openQuote
  | fuel + 1 => fun c =>
    match (readList fuel .any .nothing).run (Cursor.start source) with
    | .error e => .error e
    | .ok (body, _) => .ok (body, c)

/-- The target of a redirection. -/
def readTarget (fuel channel : Nat) (mark : String) : Reading Redirection :=
  match fuel with
  | 0 => fail .openQuote
  | fuel + 1 => do
    if mark = "<<" || mark = "<<-" then readDocument fuel channel (mark == "<<-")
    else
      let t ← token fuel false false
      match t with
      | .word w =>
        if mark = ">&" || mark = "<&" then
          match plainText? w with
          | some [d] =>
            if d.isDigit || d = '-' then return .duplicate channel w else fail .channel
          | some _ => fail .channel
          | none => return .duplicate channel w
        else return .file channel mark w
      | _ => unexpected t none

/-- A document in the script, whose body stands below the current line. -/
def readDocument (fuel channel : Nat) (trims : Bool) : Reading Redirection :=
  match fuel with
  | 0 => fail .openQuote
  | fuel + 1 => do
    let c ← get
    let cs := c.rest.dropWhile fun d => d == ' ' || d == '\t'
    if cs.head?.all endsWord then
      let t ← token fuel false false
      unexpected t none
    else
      let (closing, quoted, rest) := readMark cs
      let thisLine := rest.takeWhile (· != '\n')
      let below := linesOf (rest.drop (thisLine.length + 1))
      let (body, tail) := takeDocument closing trims below
      -- a document that nothing closes ends as the script does
      let isOpen := body.length = below.length && rest.getLast? != some '\n'
      let text := if isOpen then joined ['\n'] body else body.flatMap (· ++ ['\n'])
      set { c with
        rest := thisLine ++ '\n' :: tail.flatMap (· ++ ['\n'])
        removed := c.removed + (below.length - tail.length) }
      if quoted then return .document channel [.text true text]
      else
        let inside : Except Misreading (Word × Cursor) :=
          (readParts fuel .document).run (Cursor.start text)
        match inside with
        | .error e => throw e
        | .ok (w, _) => return .document channel w

/-- Commands up to a token that ends the list; `before` was read so far. -/
def readList (fuel : Nat) (kind : ListKind) (before : Command) : Reading Command :=
  match fuel with
  | 0 => fail .openQuote
  | fuel + 1 => do
    let top := kind == .line
    let t ← token fuel (!top) true
    match t with
    | .lineEnd => return before
    | .endOfFile =>
      putBack t
      return before
    | _ =>
      putBack t
      if kind = .any && t.closesList then return before
      else
        let inner ← readAndOr fuel
        let after ← token fuel false false
        let inner := match after with
          | .mark "&" => .background inner
          | _ => inner
        let all := before.andThen inner
        let kind := if top then .line else .any
        match after with
        | .lineEnd =>
          putBack after
          readList fuel kind all
        | .endOfFile =>
          putBack after
          readList fuel kind all
        | .mark ";" => readList fuel kind all
        | .mark "&" => readList fuel kind all
        | _ =>
          if top then unexpected after none
          else
            putBack after
            return all

/-- Pipelines joined by `&&` and `||`, from left to right. -/
def readAndOr (fuel : Nat) : Reading Command :=
  match fuel with
  | 0 => fail .openQuote
  | fuel + 1 => do readMore fuel (← readPipeline fuel false)

def readMore (fuel : Nat) (first : Command) : Reading Command :=
  match fuel with
  | 0 => fail .openQuote
  | fuel + 1 => do
    let t ← token fuel false false
    match t with
    | .mark "&&" => readMore fuel (.both first (← readPipeline fuel true))
    | .mark "||" => readMore fuel (.either first (← readPipeline fuel true))
    | _ =>
      putBack t
      return first

/-- Commands joined by bars. -/
def readPipeline (fuel : Nat) (skips : Bool) : Reading Command :=
  match fuel with
  | 0 => fail .openQuote
  | fuel + 1 => do
    let t ← token fuel skips true
    match t with
    | .keyword "!" => return .negated (← readPipes fuel true false)
    | _ =>
      putBack t
      readPipes fuel false false

def readPipes (fuel : Nat) (keywords skips : Bool) : Reading Command :=
  match fuel with
  | 0 => fail .openQuote
  | fuel + 1 => do
    let first ← readCommand fuel skips keywords
    let t ← token fuel false false
    match t with
    | .mark "|" => return .piped first (← readPipes fuel true true)
    | _ =>
      putBack t
      return first

/-- A command with the redirections behind it. -/
def readCommand (fuel : Nat) (skips keywords : Bool) : Reading Command :=
  match fuel with
  | 0 => fail .openQuote
  | fuel + 1 => do
    let line := (← get).line
    let t ← token fuel skips keywords
    match t with
    | .keyword "if" =>
      let c ← readBranch fuel
      close fuel (.keyword "fi")
      redirected line c (← readRedirections fuel)
    | .keyword "while" =>
      let c ← readLoop fuel false
      close fuel (.keyword "done")
      redirected line c (← readRedirections fuel)
    | .keyword "until" =>
      let c ← readLoop fuel true
      close fuel (.keyword "done")
      redirected line c (← readRedirections fuel)
    | .keyword "for" =>
      let c ← readEach fuel line
      close fuel (.keyword "done")
      redirected line c (← readRedirections fuel)
    | .keyword "case" =>
      let c ← readSelect fuel line
      redirected line c (← readRedirections fuel)
    | .mark "(" =>
      let body ← readList fuel .some .nothing
      close fuel (.mark ")")
      return .subshell line body (← readRedirections fuel)
    | .keyword "\x7b" =>
      let body ← readList fuel .some .nothing
      close fuel (.keyword "\x7d")
      redirected line body (← readRedirections fuel)
    | .word _ =>
      putBack t
      let line := (← get).line
      readPlain fuel line [] [] []
    | .redirection .. =>
      putBack t
      readPlain fuel line [] [] []
    | _ => unexpected t none
where
  redirected (line : Nat) (c : Command) (rs : List Redirection) : Reading Command :=
    return if rs.isEmpty then c else .redirected line c rs

/-- The token that closes a command. -/
def close (fuel : Nat) (wanted : Token) : Reading Unit :=
  match fuel with
  | 0 => fail .openQuote
  | fuel + 1 => do
    let t ← token fuel false false
    if t.shown = wanted.shown then return () else unexpected t (some wanted)

def readRedirections (fuel : Nat) : Reading (List Redirection) :=
  match fuel with
  | 0 => fail .openQuote
  | fuel + 1 => do
    let t ← token fuel false true
    match t with
    | .redirection channel mark =>
      let r ← readTarget fuel channel mark
      return r :: (← readRedirections fuel)
    | _ =>
      putBack t
      return []

/-- A condition and what hangs on it, behind `if` or `elif`, up to `fi`. -/
def readBranch (fuel : Nat) : Reading Command :=
  match fuel with
  | 0 => fail .openQuote
  | fuel + 1 => do
    let condition ← readList fuel .some .nothing
    close fuel (.keyword "then")
    let body ← readList fuel .some .nothing
    let t ← token fuel false false
    match t with
    | .keyword "elif" => return .branch condition body (← readBranch fuel)
    | .keyword "else" => return .branch condition body (← readList fuel .some .nothing)
    | _ =>
      putBack t
      return .branch condition body .nothing

def readLoop (fuel : Nat) (untilTrue : Bool) : Reading Command :=
  match fuel with
  | 0 => fail .openQuote
  | fuel + 1 => do
    let condition ← readList fuel .some .nothing
    close fuel (.keyword "do")
    return .loop untilTrue condition (← readList fuel .some .nothing)

/-- A loop over words, behind `for`. -/
def readEach (fuel line : Nat) : Reading Command :=
  match fuel with
  | 0 => fail .openQuote
  | fuel + 1 => do
    let t ← token fuel false false
    match t with
    | .word w =>
      match plainText? w with
      | some name =>
        if isName name then
          let t ← token fuel true true
          match t with
          | .keyword "in" =>
            let (words, ending) ← readWords fuel
            match ending with
            | .lineEnd => readBody fuel line name (some words)
            | .mark ";" => readBody fuel line name (some words)
            | _ => unexpected ending none
          | .mark ";" => readBody fuel line name none
          | _ =>
            putBack t
            readBody fuel line name none
        else fail .loopVariable
      | none => fail .loopVariable
    | _ => fail .loopVariable

def readBody (fuel line : Nat) (name : Octets) (words : Option (List Word)) : Reading Command :=
  match fuel with
  | 0 => fail .openQuote
  | fuel + 1 => do
    let t ← token fuel true true
    match t with
    | .keyword "do" => return .each line name words (← readList fuel .some .nothing)
    | _ => unexpected t (some (.keyword "do"))

/-- Words up to another token. -/
def readWords (fuel : Nat) : Reading (List Word × Token) :=
  match fuel with
  | 0 => fail .openQuote
  | fuel + 1 => do
    let t ← token fuel false false
    match t with
    | .word w =>
      let (words, ending) ← readWords fuel
      return (w :: words, ending)
    | _ => return ([], t)

/-- A choice by patterns, behind `case`. -/
def readSelect (fuel line : Nat) : Reading Command :=
  match fuel with
  | 0 => fail .openQuote
  | fuel + 1 => do
    let t ← token fuel false false
    match t with
    | .word subject =>
      let t ← token fuel true true
      match t with
      | .keyword "in" => return .select line subject (← readCases fuel)
      | _ => unexpected t (some (.keyword "in"))
    | _ => unexpected t (some (.word []))

def readCases (fuel : Nat) : Reading (List (List Word × Command)) :=
  match fuel with
  | 0 => fail .openQuote
  | fuel + 1 => do
    let t ← token fuel true true
    match t with
    | .keyword "esac" => return []
    | _ =>
      let first ← match t with
        | .mark "(" => token fuel false false
        | _ => pure t
      let patterns ← readPatterns fuel first
      let body ← readList fuel .any .nothing
      let t ← token fuel true true
      match t with
      | .keyword "esac" => return [(patterns, body)]
      | .mark ";;" => return (patterns, body) :: (← readCases fuel)
      | _ => unexpected t (some (.mark ";;"))

/-- Patterns up to the parenthesis; the first token was read. -/
def readPatterns (fuel : Nat) (t : Token) : Reading (List Word) :=
  match fuel with
  | 0 => fail .openQuote
  | fuel + 1 => do
    let pattern : Word := match t with
      | .word w => w
      | .keyword text => [.text false text.toList]
      | _ => []
    let after ← token fuel false false
    match after with
    | .mark "|" => return pattern :: (← readPatterns fuel (← token fuel false false))
    | .mark ")" => return [pattern]
    | _ => unexpected after (some (.mark ")"))

/-- A plain command or the definition of a function. -/
def readPlain (fuel line : Nat) (assignments : List (Octets × Word)) (words : List Word)
    (rs : List Redirection) : Reading Command :=
  match fuel with
  | 0 => fail .openQuote
  | fuel + 1 => do
    let t ← token fuel false false
    match t with
    | .word w =>
      match if words.isEmpty then assignment? w else none with
      | some a => readPlain fuel line (assignments ++ [a]) words rs
      | none => readPlain fuel line assignments (words ++ [w]) rs
    | .redirection channel mark =>
      let r ← readTarget fuel channel mark
      readPlain fuel line assignments words (rs ++ [r])
    | .mark "(" =>
      match assignments, words, rs with
      | [], [w], [] =>
        close fuel (.mark ")")
        match plainText? w with
        | some name =>
          if isName name && !specialNames.contains (textOf name) then
            return .define name (← readCommand fuel true true)
          else fail .functionName
        | none => fail .functionName
      | _, _, _ =>
        putBack t
        return .plain line assignments words rs
    | _ =>
      putBack t
      return .plain line assignments words rs

end

end Reading

namespace Cursor

/-- The commands of the next line and what follows it; nothing at the end. -/
def next? (c : Cursor) : Except Misreading (Option (Command × Cursor)) :=
  let fuel := 12 * c.rest.length + 200
  match (Reading.readList fuel .line .nothing).run c with
  | .error e => .error e
  | .ok (command, rest) =>
    match command, rest.unread, rest.rest with
    | .nothing, some .endOfFile, _ => .ok none
    | _, _, _ => .ok (some (command, { rest with unread := none }))

/-- A text with the expansions in it, read the way the text of a document is. -/
def wholeText? (text : Octets) : Option Word :=
  match (Reading.readParts (12 * text.length + 200) .document).run (start text) with
  | .error _ => none
  | .ok (w, _) => some w

end Cursor

end Signoff.Shell
