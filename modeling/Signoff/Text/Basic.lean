/-!
# Blanks and keywords

The blank characters of tool output are those with the Unicode property White_Space, and a
trimmed text neither starts nor ends with one.

Tool output spells its keywords in any case. Reading one accepts what Unicode simple case folding
identifies: beside the two ASCII cases, the long s for `s` and the Kelvin sign for `k`. What is
then done with the word compares ASCII letters only.
-/

namespace Signoff.Text

/-! ## Blanks -/

/-- The Unicode property White_Space. -/
def isBlank (c : Char) : Bool :=
  let n := c.toNat
  (9 ≤ n && n ≤ 13) || n == 0x20 || n == 0x85 || n == 0xA0 || n == 0x1680 ||
    (0x2000 ≤ n && n ≤ 0x200A) || n == 0x2028 || n == 0x2029 || n == 0x202F ||
    n == 0x205F || n == 0x3000

def trimStart (cs : List Char) : List Char := cs.dropWhile isBlank

def trimEnd (cs : List Char) : List Char := (cs.reverse.dropWhile isBlank).reverse

def trim (cs : List Char) : List Char := trimEnd (trimStart cs)

def isBlankText (cs : List Char) : Bool := cs.all isBlank

@[simp] theorem trim_nil : trim [] = [] := rfl

theorem trimStart_cons_of_blank {c : Char} (h : isBlank c = true) (cs : List Char) :
    trimStart (c :: cs) = trimStart cs := by
  simp [trimStart, h]

theorem trimStart_cons_of_not_blank {c : Char} (h : isBlank c = false) (cs : List Char) :
    trimStart (c :: cs) = c :: cs := by
  simp [trimStart, h]

/-! ## Letters and keywords -/

def lower (cs : List Char) : List Char := cs.map Char.toLower

def upper (cs : List Char) : List Char := cs.map Char.toUpper

/-- Equal up to the case of ASCII letters. -/
def sameLetters (xs ys : List Char) : Bool := lower xs == lower ys

def replaceChar (old new : Char) (cs : List Char) : List Char :=
  cs.map fun c => if c = old then new else c

def longS : Char := '\u017F'

def kelvinSign : Char := '\u212A'

/-- Whether `c` is read as the lower-case ASCII letter (or other character) `letter`. -/
def foldsTo (letter c : Char) : Bool :=
  c.toLower == letter || (letter == 's' && c == longS) || (letter == 'k' && c == kelvinSign)

/-- The keyword as written at the front of the text, and what follows it. -/
def keyword? : List Char → List Char → Option (List Char × List Char)
  | [], cs => some ([], cs)
  | _ :: _, [] => none
  | k :: ks, c :: cs =>
    if foldsTo k c then (keyword? ks cs).map fun (word, rest) => (c :: word, rest) else none

/-- The first of several keywords that stands at the front of the text. -/
def firstKeyword? (words : List (List Char)) (cs : List Char) : Option (List Char × List Char) :=
  words.findSome? (keyword? · cs)

theorem keyword?_append {ks cs word rest : List Char} (h : keyword? ks cs = some (word, rest)) :
    cs = word ++ rest := by
  induction ks generalizing cs word rest with
  | nil => simp only [keyword?, Option.some.injEq, Prod.mk.injEq] at h; simp [← h.1, h.2]
  | cons k ks ih =>
    cases cs with
    | nil => simp [keyword?] at h
    | cons c cs =>
      simp only [keyword?] at h
      split at h
      · obtain ⟨⟨w, r⟩, hw, he⟩ := Option.map_eq_some_iff.1 h
        simp only [Prod.mk.injEq] at he
        obtain ⟨rfl, rfl⟩ := he
        rw [ih hw]; rfl
      · simp at h

end Signoff.Text
