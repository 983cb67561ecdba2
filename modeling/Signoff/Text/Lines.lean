/-!
# Lines and separated fields

`splitOn` cuts at every separator and keeps empty pieces. A line ends at a line feed, which may
have one carriage return in front of it; what follows the last line feed is a line only if it is
not empty, and keeps a carriage return at its end.
-/

namespace Signoff.Text

def splitOn (sep : Char) : List Char → List (List Char)
  | [] => [[]]
  | c :: cs =>
    if c = sep then [] :: splitOn sep cs
    else match splitOn sep cs with
      | [] => [[c]]
      | piece :: rest => (c :: piece) :: rest

/-- At most `n + 1` pieces: the last one keeps its separators. -/
def splitFirst (sep : Char) : Nat → List Char → List (List Char)
  | 0, cs => [cs]
  | n + 1, cs =>
    match cs.dropWhile (· != sep) with
    | [] => [cs]
    | _ :: rest => cs.takeWhile (· != sep) :: splitFirst sep n rest

def dropReturn (cs : List Char) : List Char :=
  if cs.getLast? = some '\r' then cs.dropLast else cs

def lines (cs : List Char) : List (List Char) :=
  let pieces := splitOn '\n' cs
  pieces.dropLast.map dropReturn ++ pieces.getLast?.toList.filter (fun last => !last.isEmpty)

def join (sep : List Char) : List (List Char) → List Char
  | [] => []
  | [piece] => piece
  | piece :: rest => piece ++ sep ++ join sep rest

theorem splitOn_ne_nil (sep : Char) (cs : List Char) : splitOn sep cs ≠ [] := by
  cases cs with
  | nil => simp [splitOn]
  | cons c cs =>
    simp only [splitOn]
    split
    · simp
    · split <;> simp

theorem join_splitOn (sep : Char) (cs : List Char) : join [sep] (splitOn sep cs) = cs := by
  induction cs with
  | nil => rfl
  | cons c cs ih =>
    simp only [splitOn]
    split
    · next h =>
      cases hs : splitOn sep cs with
      | nil => exact absurd hs (splitOn_ne_nil sep cs)
      | cons piece rest => rw [hs] at ih; simp [join, ih, h]
    · cases hs : splitOn sep cs with
      | nil => exact absurd hs (splitOn_ne_nil sep cs)
      | cons piece rest =>
        rw [hs] at ih
        cases rest with
        | nil => simpa [join] using ih
        | cons p r => simp [join] at ih ⊢; exact ih

end Signoff.Text
