import Signoff.Text.Lines
import Signoff.Text.Quoted

/-!
# Paths

A path is a text. Joining puts one slash between two paths, unless the second one starts with a
slash and so replaces the first.
-/

namespace Signoff

structure Path where
  text : String
deriving DecidableEq, Repr, Inhabited

namespace Path

def isAbsolute (p : Path) : Bool := p.text.toList.head? == some '/'

def join (p q : Path) : Path :=
  if q.isAbsolute then q
  else if p.text.isEmpty || p.text.toList.getLast? == some '/' then ⟨p.text ++ q.text⟩
  else ⟨p.text ++ "/" ++ q.text⟩

def child (p : Path) (name : String) : Path := p.join ⟨name⟩

/-- The parts between slashes, without empty ones and `.`; a leading `.` stays. -/
def parts (p : Path) : List (List Char) :=
  let pieces := (Text.splitOn '/' p.text.toList).filter (!·.isEmpty)
  match pieces with
  | [] => []
  | first :: rest =>
    let rest := rest.filter (· != ['.'])
    if p.isAbsolute && first == ['.'] then rest else first :: rest

/-- The path without its last part; a path without parts has no parent. -/
def parent? (p : Path) : Option Path :=
  if p.parts.isEmpty then none
  else
    let kept := Text.join ['/'] p.parts.dropLast
    some ⟨String.ofList (if p.isAbsolute then '/' :: kept else kept)⟩

/-- The path, what lies around it, and so on up to the outermost folder that has a name. -/
def withParents (p : Path) : List Path :=
  let shorter := (List.range p.parts.length).reverse.filterMap fun n =>
    if n = 0 && !p.isAbsolute then none
    else
      let kept := Text.join ['/'] (p.parts.take n)
      some (⟨String.ofList (if p.isAbsolute then '/' :: kept else kept)⟩ : Path)
  p :: shorter

/-- The path as messages quote it. -/
def quoted (p : Path) : String := Text.textQuotes.quote p.text

end Path

end Signoff
