import Signoff.Domain
import Signoff.Text.Lines

/-!
# Sections of tool output

The tool heads each section with a banner, a title between two rules of at least three equal
signs. The body of a domain's section is what stands between the first banner with one of its
titles and the next banner of any title.
-/

namespace Signoff

open Signoff.Text

namespace Section

def isRule (c : Char) : Bool := c == '='

/-- The title of a banner line. -/
def title? (line : List Char) : Option (List Char) :=
  let inner := trim line
  let afterRule := inner.dropWhile isRule
  let title := trim (afterRule.takeWhile (!isRule ·))
  let closing := afterRule.dropWhile (!isRule ·)
  if 3 ≤ (inner.takeWhile isRule).length && !title.isEmpty && 3 ≤ closing.length &&
      closing.all isRule then
    some title
  else none

/-- Titles are compared in lower case, with blanks for underscores and hyphens. -/
def plainTitle (cs : List Char) : List Char :=
  replaceChar '-' ' ' (replaceChar '_' ' ' cs)

def isTitleOf (d : Domain) (title : List Char) : Bool :=
  d.titles.any fun known => plainTitle known.toList == plainTitle (lower (trim title))

/-- The lines up to the next banner. -/
def bodyLines (lines : List (List Char)) : List (List Char) :=
  lines.takeWhile fun line => (title? line).isNone

/-- The lines behind the first banner of the domain, if there is one. -/
def linesAfterBanner? (d : Domain) : List (List Char) → Option (List (List Char))
  | [] => none
  | line :: rest =>
    if (title? line).any (isTitleOf d) then some rest else linesAfterBanner? d rest

def body? (d : Domain) (output : List Char) : Option (List Char) :=
  (linesAfterBanner? d (lines output)).map fun rest => join ['\n'] (bodyLines rest)

end Section

end Signoff
