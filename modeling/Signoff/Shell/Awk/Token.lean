import Signoff.Shell.Awk.Program
import Signoff.Shell.Format

/-!
# Tokens of the pattern language

Line ends count, blanks and comments do not. A slash starts a regular expression wherever no operand
stands in front of it.
-/

namespace Signoff.Shell.Awk

inductive Token
  | number (x : Float)
  | text (cs : Octets)
  | regex (source : Octets)
  | name (cs : Octets)
  /-- A name right in front of a parenthesis. -/
  | function (cs : Octets)
  | keyword (text : String)
  | builtin (cs : Octets)
  | mark (text : String)
  | lineEnd
deriving Inhabited

/-- A token and its line. -/
structure Located where
  token : Token
  line : Nat

def keywords : List String :=
  ["BEGIN", "END", "function", "if", "else", "while", "for", "do", "break", "continue", "next",
    "exit", "return", "delete", "in", "getline", "print", "printf", "nextfile"]

def builtins : List String :=
  ["length", "substr", "index", "split", "sub", "gsub", "match", "sprintf", "sin", "cos", "atan2",
    "exp", "log", "sqrt", "int", "rand", "srand", "tolower", "toupper", "system", "close",
    "fflush"]

def marks : List String :=
  ["&&", "||", "++", "--", "+=", "-=", "*=", "/=", "%=", "^=", "==", "<=", ">=", "!=",
    "!~", ">>", "\x7b", "\x7d", "(", ")", "[", "]", ";", ",", "+", "-", "*", "/", "%", "^",
    "!", ">", "<", "|", "?", ":", "~", "$", "="]

namespace Token

/-- A slash behind the token divides. -/
def isOperand : Token → Bool
  | number _ => true
  | text _ => true
  | regex _ => true
  | name _ => true
  | builtin _ => true
  | mark m => [")", "]", "$", "++", "--"].contains m
  | _ => false

/-- The token as messages show it. -/
def shown : Token → Octets
  | number _ => octets "number"
  | text cs => '"' :: cs ++ ['"']
  | regex source => '/' :: source ++ ['/']
  | name cs => cs
  | function cs => cs
  | keyword word => octets word
  | builtin cs => cs
  | mark m => octets m
  | lineEnd => octets "end of line"

end Token

/-- The number with the bits of a binary64 number. -/
def toFloat (x : Number.Binary64) : Float :=
  Float.ofBits (UInt64.ofNat ((if x.negative then Nat.pow 2 63 else 0) + x.position))

def ofFloat (x : Float) : Number.Binary64 :=
  let bits := x.toBits.toNat
  ⟨Nat.pow 2 63 ≤ bits, bits % Nat.pow 2 63⟩

/-- The characters of a text up to its closing quotation mark, and the rest. -/
def takeText : Octets → Option (Octets × Octets)
  | [] => none
  | '"' :: rest => some ([], rest)
  | '\n' :: _ => none
  | '\\' :: '\n' :: rest => takeText rest
  | '\\' :: c :: rest =>
    (takeText rest).map fun (taken, tail) => ('\\' :: c :: taken, tail)
  | c :: rest => (takeText rest).map fun (taken, tail) => (c :: taken, tail)

/-- Escapes become the characters they stand for; all others stay as they are. -/
def unescape (fuel : Nat) (cs : Octets) : Octets :=
  match fuel with
  | 0 => cs
  | fuel + 1 =>
    match cs with
    | '\\' :: c :: rest =>
      let put (d : Char) : Octets := d :: unescape fuel rest
      match c with
      | 'n' => put '\n'
      | 't' => put '\t'
      | 'r' => put '\r'
      | 'a' => put '\x07'
      | 'b' => put '\x08'
      | 'f' => put '\x0c'
      | 'v' => put '\x0b'
      | '"' => put '"'
      | '\\' => put '\\'
      | '/' => put '/'
      | _ =>
        let digits := ((c :: rest).take 3).takeWhile fun d => '0' ≤ d && d ≤ '7'
        if digits.isEmpty then '\\' :: c :: unescape fuel rest
        else
          let code := digits.foldl (fun n d => 8 * n + (d.toNat - '0'.toNat)) 0
          Char.ofNat (code % 256) :: unescape fuel ((c :: rest).drop digits.length)
    | c :: rest => c :: unescape fuel rest
    | [] => []

/-- The source of a regular expression up to its closing slash. -/
def takeRegex (inSet : Bool) : Octets → Option (Octets × Octets)
  | [] => none
  | '\n' :: _ => none
  | '\\' :: '/' :: rest => (takeRegex inSet rest).map fun (taken, tail) => ('/' :: taken, tail)
  | '\\' :: c :: rest =>
    (takeRegex inSet rest).map fun (taken, tail) => ('\\' :: c :: taken, tail)
  | c :: rest =>
    if c = '/' && !inSet then some ([], rest)
    else
      (takeRegex (if c = '[' then true else if c = ']' then false else inSet) rest).map
        fun (taken, tail) => (c :: taken, tail)

def classify (cs : Octets) (rest : Octets) : Token :=
  let word := textOf cs
  if word = "func" then .keyword "function"
  else if keywords.contains word then .keyword word
  else if builtins.contains word then .builtin cs
  else if rest.head? = some '(' then .function cs
  else .name cs

/-- All tokens of a text; `last` is the one in front. -/
def tokens (fuel line : Nat) (last : Token) (cs : Octets) : Except Fault (List Located) :=
  match fuel with
  | 0 => .ok []
  | fuel + 1 =>
    let put (t : Token) (rest : Octets) : Except Fault (List Located) :=
      (tokens fuel line t rest).map (⟨t, line⟩ :: ·)
    match cs with
    | [] => .ok []
    | '\\' :: '\n' :: rest => tokens fuel (line + 1) last rest
    | '\\' :: '\r' :: '\n' :: rest => tokens fuel (line + 1) last rest
    | '\n' :: rest => (tokens fuel (line + 1) .lineEnd rest).map (⟨.lineEnd, line⟩ :: ·)
    | c :: rest =>
      if c = ' ' || c = '\t' || c = '\r' then tokens fuel line last rest
      else if c = '#' then tokens fuel line last (rest.dropWhile (· != '\n'))
      else if c = '"' then
        match takeText rest with
        | none => .error (.openText line (rest.takeWhile (· != '\n')))
        | some (taken, tail) => put (.text (unescape (taken.length + 1) taken)) tail
      else if c.isDigit || (c = '.' && rest.head?.any Char.isDigit) then
        let (x, tail) := Format.realAt cs
        put (.number (toFloat x)) tail
      else if c.isAlpha || c = '_' then
        let word := cs.takeWhile fun d => d.isAlphanum || d == '_'
        let tail := cs.drop word.length
        put (classify word tail) tail
      else if c = '/' && !last.isOperand then
        match takeRegex false rest with
        | none => .error (.openRegex line (rest.takeWhile (· != '\n')))
        | some (source, tail) => put (.regex source) tail
      else
        match marks.find? fun m => m.toList.isPrefixOf cs with
        | some m => put (.mark m) (cs.drop m.length)
        | none => .error (.character line c)

end Signoff.Shell.Awk
