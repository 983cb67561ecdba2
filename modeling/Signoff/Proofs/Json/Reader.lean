import Mathlib.Tactic.IntervalCases
import Signoff.Json.Reader
import Signoff.Json.Writer
import Signoff.Proofs.Number.Numeral

/-!
# Reading JSON back

A value whose numbers are spelled as numerals are, and whose texts are whole, is read back from its
compact form (`read?_compact`) and from its pretty form (`read?_pretty`). Both are one form with
gaps of blanks at the same places, and the reader goes over every gap.
-/

namespace Signoff.Json

open Text Number

/-! ## Texts -/

/-- The four digits of a control character. -/
theorem hexUnit?_control {n : Nat} (h : n < 0x20) : ∃ a b c d,
    List.replicate (4 - (hexDigits n).length) '0' ++ hexDigits n = [a, b, c, d] ∧
      hexUnit? a b c d = some n := by
  -- there are only 32 control characters
  interval_cases n <;> exact ⟨_, _, _, _, rfl, by decide⟩

theorem readUnits_escapeChar (c : Char) (rest : List Char) :
    readUnits (escapeChar c ++ rest) =
      (readUnits rest).map fun (units, tail) => (c.toNat :: units, tail) := by
  -- all short escapes are read in the same way: the mark stands for one character
  have hsimple : ∀ e d, simpleEscape? e = some d → e ≠ 'u' →
      readUnits ('\\' :: e :: rest) =
        (readUnits rest).map fun (units, tail) => (d.toNat :: units, tail) := by
    intro e d hd hu
    rw [readUnits.eq_def]
    split
    next heq => simp at heq
    next heq => simp at heq
    next heq =>
      simp only [List.cons.injEq, true_and] at heq
      exact absurd heq.1 hu
    next e' rest' hnot heq =>
      simp only [List.cons.injEq, true_and] at heq
      obtain ⟨rfl, rfl⟩ := heq
      rw [hd]
      cases readUnits rest <;> rfl
    next hnot heq =>
      simp only [List.cons.injEq] at heq
      obtain ⟨rfl, rfl⟩ := heq
      simp at hnot
  unfold escapeChar
  split
  next h => exact h ▸ hsimple '"' '"' (by decide) (by decide)
  split
  next h => exact h ▸ hsimple '\\' '\\' (by decide) (by decide)
  split
  next h => exact h ▸ hsimple 'b' '\x08' (by decide) (by decide)
  split
  next h => exact h ▸ hsimple 'f' '\x0c' (by decide) (by decide)
  split
  next h => exact h ▸ hsimple 'n' '\n' (by decide) (by decide)
  split
  next h => exact h ▸ hsimple 'r' '\r' (by decide) (by decide)
  split
  next h => exact h ▸ hsimple 't' '\t' (by decide) (by decide)
  split
  next h =>
    obtain ⟨a, b, x, d, hdigits, hunit⟩ := hexUnit?_control h
    unfold controlEscape
    dsimp only
    rw [List.append_assoc ['\\', 'u'], hdigits]
    simp only [List.cons_append, List.nil_append]
    rw [readUnits, hunit]
    cases readUnits rest <;> rfl
  -- any other character stands for itself: it neither closes the text nor starts an escape
  next hquote hslash _ _ _ _ _ hcontrol =>
    rw [List.singleton_append, readUnits.eq_def]
    split
    next heq => simp at heq
    next heq => exact absurd (List.cons.inj heq).1 hquote
    next heq => exact absurd (List.cons.inj heq).1 hslash
    next heq => exact absurd (List.cons.inj heq).1 hslash
    next heq =>
      obtain ⟨rfl, rfl⟩ := List.cons.inj heq
      rw [if_neg (by simp [hslash, hcontrol])]

theorem readUnits_escaped (cs rest : List Char) :
    readUnits (cs.flatMap escapeChar ++ '"' :: rest) = some (cs.map Char.toNat, rest) := by
  induction cs with
  | nil => rw [List.flatMap_nil, List.nil_append, readUnits, List.map_nil]
  | cons c cs ih =>
    rw [List.flatMap_cons, List.append_assoc, readUnits_escapeChar, ih]
    rfl

/-- A character is no half of a surrogate pair. -/
theorem not_half (c : Char) : isHighHalf c.toNat = false ∧ isLowHalf c.toNat = false := by
  have hvalid : c.toNat < 0xD800 ∨ 0xDFFF < c.toNat ∧ c.toNat < 0x110000 := c.valid
  unfold isHighHalf isLowHalf
  simp only [Bool.and_eq_false_iff, decide_eq_false_iff_not]
  omega

theorem joinHalves_map (cs : List Char) : joinHalves (cs.map Char.toNat) = some cs := by
  -- units that are characters are never joined to pairs
  induction cs with
  | nil => rfl
  | cons c cs ih =>
    obtain ⟨hhigh, hlow⟩ := not_half c
    cases cs with
    | nil =>
      rw [List.map_cons, List.map_nil, joinHalves, hhigh, hlow, Char.ofNat_toNat]
      rfl
    | cons d cs =>
      rw [List.map_cons, List.map_cons, joinHalves, hhigh, hlow, ← List.map_cons, ih,
        Char.ofNat_toNat]
      rfl

/-- A text is read back up to its closing mark. -/
theorem readText?_escaped (s : String) (rest : List Char) :
    readText? (s.toList.flatMap escapeChar ++ '"' :: rest) = some (some s, rest) := by
  unfold readText?
  rw [readUnits_escaped, Option.map_some]
  dsimp only
  rw [joinHalves_map, Option.map_some, String.ofList_toList]

/-! ## Numbers -/

/-- What follows a value does not go on with a number. -/
def Ends (rest : List Char) : Prop :=
  ∀ c, rest.head? = some c → c.isDigit = false ∧ c ≠ '.' ∧ c ≠ 'e' ∧ c ≠ 'E'

theorem readWhole?_append {ds rest : List Char} (hne : ds ≠ [])
    (hds : ∀ c ∈ ds, c.isDigit = true) (hleading : ∀ c more, ds = '0' :: c :: more → False)
    (hrest : ∀ c, rest.head? = some c → c.isDigit = false) :
    readWhole? (ds ++ rest) = some (ds, rest) := by
  obtain ⟨htake, hdrop⟩ := takeWhile_dropWhile_append hds hrest
  unfold readWhole?
  dsimp only
  rw [htake, hdrop]
  split
  next => exact absurd rfl hne
  next => exact (hleading _ _ rfl).elim
  next => rfl

theorem readFraction?_append {ds rest : List Char} (hds : ∀ c ∈ ds, c.isDigit = true)
    (hrest : ∀ c, rest.head? = some c → c.isDigit = false ∧ c ≠ '.') :
    readFraction? ((if ds.isEmpty then [] else '.' :: ds) ++ rest) = some (ds, rest) := by
  cases ds with
  | nil =>
    rw [if_pos (by simp), List.nil_append]
    unfold readFraction?
    split
    next more => exact absurd rfl (hrest '.' rfl).2
    next => rfl
  | cons d ds =>
    obtain ⟨htake, hdrop⟩ := takeWhile_dropWhile_append hds fun c hc => (hrest c hc).1
    rw [if_neg (by simp), List.cons_append]
    unfold readFraction?
    simp only [htake, hdrop]
    rfl

theorem readPower?_append {exponent : Option Int} {rest : List Char} (hrest : Ends rest) :
    readPower? ((exponent.map Numeral.writeExponent).getD [] ++ rest) = some (exponent, rest) := by
  cases exponent with
  | none =>
    rw [Option.map_none, Option.getD_none, List.nil_append]
    unfold readPower?
    split
    next c more =>
      obtain ⟨-, -, he, hE⟩ := hrest c rfl
      rw [if_neg (by simp [he, hE])]
    next => rfl
  | some e =>
    obtain ⟨htake, hdrop⟩ := @takeWhile_dropWhile_append Char.isDigit (digitsOf e.natAbs) rest
      (fun c hc => isDigit_of_mem_digitsOf hc) (fun c hc => (hrest c hc).1)
    -- a power has digits, as the reader wants, and its sign is written in front of them
    have hne : (digitsOf e.natAbs).isEmpty = false := by
      rw [List.isEmpty_eq_false_iff]
      exact digitsOf_ne_nil _
    rw [Option.map_some, Option.getD_some]
    unfold Numeral.writeExponent readPower?
    rw [List.cons_append]
    dsimp only
    rw [if_pos (by simp)]
    by_cases hneg : e < 0
    · have habs : -(e.natAbs : Int) = e := by omega
      rw [if_pos hneg, List.cons_append]
      simp only [readSign, htake, hdrop, hne, ofDigits_digitsOf, Bool.false_eq_true, if_false,
        if_true, habs]
    · have habs : (e.natAbs : Int) = e := by omega
      rw [if_neg hneg, List.cons_append]
      simp only [readSign, htake, hdrop, hne, ofDigits_digitsOf, Bool.false_eq_true, if_false, habs]

/-- The parts of a numeral behind its sign. -/
def readUnsigned? (negative : Bool) (cs : List Char) : Option (Numeral × List Char) :=
  (readWhole? cs).bind fun (whole, rest) => (readFraction? rest).bind fun (fraction, rest) =>
    (readPower? rest).bind fun (exponent, rest) =>
      some (⟨negative, whole, fraction, exponent⟩, rest)

theorem readNumeral?_of_sign (cs : List Char) :
    readNumeral? ('-' :: cs) = readUnsigned? true cs := rfl

theorem readNumeral?_of_digit {c : Char} (h : c ≠ '-') (cs : List Char) :
    readNumeral? (c :: cs) = readUnsigned? false (c :: cs) := by
  unfold readNumeral?
  split
  next negative more heq =>
    split at heq
    next hcs => exact absurd (List.cons.inj hcs).1 h
    next =>
      rw [Prod.mk.injEq] at heq
      rw [← heq.1, ← heq.2]
      rfl

/-- A numeral is read back as it is spelled. -/
theorem readNumeral?_write {n : Numeral} (h : n.IsSpelled) {rest : List Char}
    (hrest : Ends rest) : readNumeral? (n.write ++ rest) = some (n, rest) := by
  obtain ⟨negative, whole, fraction, exponent⟩ := n
  obtain ⟨hne, hwhole, hleading, hfraction⟩ := h
  dsimp only at hne hwhole hleading hfraction
  -- what follows each part does not go on with that part, so each part ends where it should
  have hexponent : ∀ c, ((exponent.map Numeral.writeExponent).getD [] ++ rest).head? = some c →
      c.isDigit = false ∧ c ≠ '.' := by
    intro c hc
    cases exponent with
    | none => exact ⟨(hrest c hc).1, (hrest c hc).2.1⟩
    | some e =>
      rw [← Option.some.inj hc]
      decide
  have hpoint : ∀ c, ((if fraction.isEmpty then [] else '.' :: fraction) ++
      ((exponent.map Numeral.writeExponent).getD [] ++ rest)).head? = some c →
      c.isDigit = false := by
    intro c hc
    cases fraction with
    | nil => exact (hexponent c hc).1
    | cons d ds =>
      rw [← Option.some.inj hc]
      decide
  have hparts : readUnsigned? negative (whole ++ ((if fraction.isEmpty then [] else
      '.' :: fraction) ++ ((exponent.map Numeral.writeExponent).getD [] ++ rest))) =
      some (⟨negative, whole, fraction, exponent⟩, rest) := by
    unfold readUnsigned?
    rw [readWhole?_append hne hwhole hleading hpoint, Option.bind_some]
    dsimp only
    rw [readFraction?_append hfraction hexponent, Option.bind_some]
    dsimp only
    rw [readPower?_append hrest]
    rfl
  unfold Numeral.write
  dsimp only
  rw [List.append_assoc, List.append_assoc, List.append_assoc, ← hparts]
  cases negative with
  | true => exact readNumeral?_of_sign _
  | false =>
    obtain ⟨d, ds, hds⟩ := List.exists_cons_of_ne_nil hne
    have hd : d ≠ '-' := by
      rintro rfl
      exact absurd (hwhole '-' (hds ▸ List.mem_cons_self)) (by decide)
    rw [hds]
    exact readNumeral?_of_digit hd _

/-! ## Values -/

mutual

/-- All texts are whole and all numbers are spelled in the common form. -/
def IsSpelled : Json → Prop
  | .null => True
  | .bool _ => True
  | .number n => n.IsSpelled
  | .text s => s.isSome
  | .array items => ItemsSpelled items
  | .object members => MembersSpelled members

def ItemsSpelled : List Json → Prop
  | [] => True
  | j :: rest => j.IsSpelled ∧ ItemsSpelled rest

def MembersSpelled : List (Option String × Json) → Prop
  | [] => True
  | (key, j) :: rest => key.isSome ∧ j.IsSpelled ∧ MembersSpelled rest

end

theorem exists_cons_write {n : Numeral} (h : n.IsSpelled) :
    ∃ c cs, n.write = c :: cs ∧ (c = '-' ∨ c.isDigit = true) := by
  unfold Numeral.write
  cases n.negative with
  | true => exact ⟨'-', _, rfl, Or.inl rfl⟩
  | false =>
    obtain ⟨d, ds, hds⟩ := List.exists_cons_of_ne_nil h.nonempty
    have hdigit := h.whole d (hds ▸ List.mem_cons_self)
    rw [hds]
    exact ⟨d, _, rfl, Or.inr hdigit⟩

theorem skipSpace_cons {c : Char} (h : isSpace c = false) (cs : List Char) :
    skipSpace (c :: cs) = c :: cs := by
  unfold skipSpace
  rw [List.dropWhile_cons, h]
  rfl

theorem readValue?_number {c : Char} (h : c = '-' ∨ c.isDigit = true) (fuel : Nat)
    (cs : List Char) : readValue? (fuel + 1) (c :: cs) =
      (readNumeral? (c :: cs)).map fun (n, tail) => (.number n, tail) := by
  -- the first character of a number starts no other value
  have hother : ∀ d, d ∈ ['\x7b', '[', '"', 'n', 't', 'f', ' ', '\n', '\t', '\r'] → c ≠ d := by
    rintro d hd rfl
    simp only [List.mem_cons, List.not_mem_nil, or_false] at hd
    rcases hd with rfl | rfl | rfl | rfl | rfl | rfl | rfl | rfl | rfl | rfl <;>
      revert h <;> decide
  have hspace : isSpace c = false := by
    unfold isSpace
    simp only [Bool.or_eq_false_iff, beq_eq_false_iff_ne]
    exact ⟨⟨⟨hother _ (by simp), hother _ (by simp)⟩, hother _ (by simp)⟩, hother _ (by simp)⟩
  rw [readValue?]
  simp only [skipSpace_cons hspace]
  split
  next heq => simp at heq
  next heq => exact absurd (List.cons.inj heq).1 (hother _ (by simp))
  next heq => exact absurd (List.cons.inj heq).1 (hother _ (by simp))
  next heq => exact absurd (List.cons.inj heq).1 (hother _ (by simp))
  next heq => exact absurd (List.cons.inj heq).1 (hother _ (by simp))
  next heq => exact absurd (List.cons.inj heq).1 (hother _ (by simp))
  next heq => exact absurd (List.cons.inj heq).1 (hother _ (by simp))
  next => rfl

theorem ends_cons {c : Char} (h : c = ',' ∨ c = ']' ∨ c = '\x7d') (rest : List Char) :
    Ends (c :: rest) := by
  intro d hd
  rw [← Option.some.inj hd]
  rcases h with rfl | rfl | rfl <;> decide

theorem join_cons (sep piece : List Char) {rest : List (List Char)} (h : rest ≠ []) :
    join sep (piece :: rest) = piece ++ sep ++ join sep rest := by
  cases rest with
  | nil => exact absurd rfl h
  | cons p ps => rfl

theorem exists_cons_join {c : Char} {cs : List Char} (sep : List Char)
    (rest : List (List Char)) : ∃ ds, join sep ((c :: cs) :: rest) = c :: ds := by
  cases rest with
  | nil => exact ⟨cs, rfl⟩
  | cons p ps => exact ⟨_, rfl⟩

/-! ## Gaps -/

/-- The blanks that a document may have: in front of what stands on a line at a depth, and behind
the colon of a member. -/
structure Spacing where
  line : Nat → List Char
  colon : List Char

namespace Spacing

structure IsBlank (s : Spacing) : Prop where
  line : ∀ depth, ∀ c ∈ s.line depth, isSpace c = true
  colon : ∀ c ∈ s.colon, isSpace c = true

def none : Spacing := ⟨fun _ => [], []⟩

def lines : Spacing := ⟨newLine, [' ']⟩

theorem isBlank_none : none.IsBlank := ⟨nofun, nofun⟩

theorem isBlank_lines : lines.IsBlank where
  line depth c hc := by
    rcases List.mem_cons.mp hc with rfl | hc
    · rfl
    · rw [List.eq_of_mem_replicate hc]
      rfl
  colon c hc := by
    rw [List.mem_singleton.mp hc]
    rfl

def block (s : Spacing) (opening closing : Char) (depth : Nat) (pieces : List (List Char)) :
    List Char :=
  if pieces.isEmpty then [opening, closing]
  else
    opening :: s.line (depth + 1) ++ join (',' :: s.line (depth + 1)) pieces ++
      s.line depth ++ [closing]

mutual

/-- A value with these gaps. -/
def write (s : Spacing) (depth : Nat) : Json → List Char
  | .null => "null".toList
  | .bool true => "true".toList
  | .bool false => "false".toList
  | .number n => n.write
  | .text t => writeText t
  | .array items => s.block '[' ']' depth (s.items (depth + 1) items)
  | .object members => s.block '\x7b' '\x7d' depth (s.members (depth + 1) members)

def items (s : Spacing) (depth : Nat) : List Json → List (List Char)
  | [] => []
  | j :: rest => s.write depth j :: s.items depth rest

def members (s : Spacing) (depth : Nat) : List (Option String × Json) → List (List Char)
  | [] => []
  | (key, j) :: rest =>
    (writeText key ++ ':' :: s.colon ++ s.write depth j) :: s.members depth rest

end

theorem block_none (opening closing : Char) (depth : Nat) (pieces : List (List Char)) :
    none.block opening closing depth pieces = opening :: join [','] pieces ++ [closing] := by
  cases pieces with
  | nil => rfl
  | cons piece rest => simp [block, none]

mutual

theorem write_none : ∀ (depth : Nat) (j : Json), none.write depth j = j.writeCompact
  | _, .null => rfl
  | _, .bool true => rfl
  | _, .bool false => rfl
  | _, .number _ => rfl
  | _, .text _ => rfl
  | depth, .array elements => by
    rw [write, block_none, items_none (depth + 1) elements, writeCompact]
  | depth, .object fields => by
    rw [write, block_none, members_none (depth + 1) fields, writeCompact]

theorem items_none : ∀ (depth : Nat) (js : List Json), none.items depth js = compactItems js
  | _, [] => rfl
  | depth, j :: rest => by rw [items, write_none depth j, items_none depth rest, compactItems]

theorem members_none : ∀ (depth : Nat) (fields : List (Option String × Json)),
    none.members depth fields = compactMembers fields
  | _, [] => rfl
  | depth, (key, j) :: rest => by
    rw [members, write_none depth j, members_none depth rest, compactMembers]
    simp [none]

end

mutual

theorem write_lines : ∀ (depth : Nat) (j : Json), lines.write depth j = writePretty depth j
  | _, .null => rfl
  | _, .bool true => rfl
  | _, .bool false => rfl
  | _, .number _ => rfl
  | _, .text _ => rfl
  | depth, .array elements => by
    rw [write, items_lines (depth + 1) elements, writePretty]
    rfl
  | depth, .object fields => by
    rw [write, members_lines (depth + 1) fields, writePretty]
    rfl

theorem items_lines : ∀ (depth : Nat) (js : List Json),
    lines.items depth js = prettyItems depth js
  | _, [] => rfl
  | depth, j :: rest => by rw [items, write_lines depth j, items_lines depth rest, prettyItems]

theorem members_lines : ∀ (depth : Nat) (fields : List (Option String × Json)),
    lines.members depth fields = prettyMembers depth fields
  | _, [] => rfl
  | depth, (key, j) :: rest => by
    rw [members, write_lines depth j, members_lines depth rest, prettyMembers]
    rfl

end

end Spacing

/-! ## Reading over gaps -/

section Gap

variable {gap : List Char} (hgap : ∀ c ∈ gap, isSpace c = true)
include hgap

theorem skipSpace_append (cs : List Char) : skipSpace (gap ++ cs) = skipSpace cs :=
  List.dropWhile_append_of_pos hgap

theorem readValue?_gap (fuel : Nat) (cs : List Char) :
    readValue? fuel (gap ++ cs) = readValue? fuel cs := by
  cases fuel with
  | zero => rfl
  | succ fuel => rw [readValue?, readValue?, skipSpace_append hgap]

theorem readItems?_gap (fuel : Nat) (cs : List Char) :
    readItems? fuel (gap ++ cs) = readItems? fuel cs := by
  cases fuel with
  | zero => rfl
  | succ fuel => rw [readItems?, readItems?, readValue?_gap hgap]

theorem readMembers?_gap (fuel : Nat) (cs : List Char) :
    readMembers? fuel (gap ++ cs) = readMembers? fuel cs := by
  cases fuel with
  | zero => rfl
  | succ fuel => rw [readMembers?, readMembers?, skipSpace_append hgap]

/-- A comma or a closing bracket ends a value, with blanks in front of it or without. -/
theorem ends_gap {c : Char} (h : c = ',' ∨ c = ']' ∨ c = '\x7d') (rest : List Char) :
    Ends (gap ++ c :: rest) := by
  cases gap with
  | nil => exact ends_cons h rest
  | cons b gap =>
    intro d hd
    obtain rfl : b = d := Option.some.inj hd
    have hb := hgap b List.mem_cons_self
    simp only [isSpace, Bool.or_eq_true, beq_iff_eq] at hb
    rcases hb with ((rfl | rfl) | rfl) | rfl <;> decide

theorem readValue?_items {c : Char} (hspace : isSpace c = false) (hc : c ≠ ']') (fuel : Nat)
    (cs : List Char) : readValue? (fuel + 1) ('[' :: (gap ++ c :: cs)) =
      (readItems? fuel (c :: cs)).map fun (items, tail) => (.array items, tail) := by
  rw [readValue?]
  simp only [skipSpace_append hgap, skipSpace_cons hspace,
    skipSpace_cons (show isSpace '[' = false by decide)]
  split
  next heq => exact absurd (List.cons.inj heq).1 hc
  next => rfl

theorem readValue?_members {c : Char} (hspace : isSpace c = false) (hc : c ≠ '\x7d') (fuel : Nat)
    (cs : List Char) : readValue? (fuel + 1) ('\x7b' :: (gap ++ c :: cs)) =
      (readMembers? fuel (c :: cs)).map fun (members, tail) => (.object members, tail) := by
  rw [readValue?]
  simp only [skipSpace_append hgap, skipSpace_cons hspace,
    skipSpace_cons (show isSpace '\x7b' = false by decide)]
  split
  next heq => exact absurd (List.cons.inj heq).1 hc
  next => rfl

end Gap

/-- Behind its key, a member is read as its value is. -/
theorem readMembers?_key (key : String) (fuel : Nat) (cs : List Char) :
    readMembers? (fuel + 1) (writeText (some key) ++ ':' :: cs) =
      (readValue? fuel cs).bind fun (value, rest) =>
        match skipSpace rest with
        | '\x7d' :: tail => some ([(some key, value)], tail)
        | ',' :: more => (readMembers? fuel more).bind fun (members, tail) =>
          some ((some key, value) :: members, tail)
        | _ => none := by
  have hread := readText?_escaped key (':' :: cs)
  rw [writeText, quoteText, Option.getD_some, List.cons_append, List.cons_append,
    List.append_assoc, List.singleton_append, readMembers?, skipSpace_cons (by decide)]
  show (readText? _).bind _ = _
  rw [hread]
  rfl

section Spaced

variable {s : Spacing}

/-- The first character of a value. -/
theorem exists_cons_spaced {j : Json} (h : j.IsSpelled) (depth : Nat) :
    ∃ c cs, s.write depth j = c :: cs ∧ isSpace c = false ∧ c ≠ ']' ∧ c ≠ '\x7d' := by
  cases j with
  | null => exact ⟨'n', _, rfl, by decide⟩
  | bool b => cases b <;> exact ⟨_, _, rfl, by decide⟩
  | text t => exact ⟨'"', _, rfl, by decide⟩
  | array items =>
    rw [Spacing.write, Spacing.block]
    split <;> exact ⟨'[', _, rfl, by decide⟩
  | object members =>
    rw [Spacing.write, Spacing.block]
    split <;> exact ⟨'\x7b', _, rfl, by decide⟩
  | number n =>
    obtain ⟨c, cs, hwrite, hc⟩ := exists_cons_write h
    refine ⟨c, cs, hwrite, ?_⟩
    -- a digit is neither a blank nor a closing bracket
    rcases hc with rfl | hc
    · decide
    · refine ⟨?_, ?_, ?_⟩
      · by_contra hspace
        simp only [isSpace, Bool.not_eq_false, Bool.or_eq_true, beq_iff_eq] at hspace
        rcases hspace with ((rfl | rfl) | rfl) | rfl <;> revert hc <;> decide
      · rintro rfl
        revert hc
        decide
      · rintro rfl
        revert hc
        decide

theorem block_cons (s : Spacing) (opening closing : Char) (depth : Nat) (piece : List Char)
    (pieces : List (List Char)) (rest : List Char) :
    s.block opening closing depth (piece :: pieces) ++ rest =
      opening :: (s.line (depth + 1) ++ (join (',' :: s.line (depth + 1)) (piece :: pieces) ++
        (s.line depth ++ closing :: rest))) := by
  simp [Spacing.block]

theorem length_block_cons (s : Spacing) (opening closing : Char) (depth : Nat)
    (piece : List Char) (pieces : List (List Char)) :
    (join (',' :: s.line (depth + 1)) (piece :: pieces)).length + 2 ≤
      (s.block opening closing depth (piece :: pieces)).length := by
  have h := congrArg List.length (block_cons s opening closing depth piece pieces [])
  simp only [List.append_nil, List.length_cons, List.length_append, List.length_nil] at h
  omega

variable (hs : s.IsBlank)
include hs

mutual

/-- A value is read back from its form with gaps, whatever follows it. -/
theorem readValue?_spaced : ∀ (j : Json), j.IsSpelled → ∀ (depth fuel : Nat) (rest : List Char),
    (s.write depth j).length < fuel → Ends rest →
      readValue? fuel (s.write depth j ++ rest) = some (j, rest)
  | j, _, _, 0, _, hfuel, _ => absurd hfuel (Nat.not_lt_zero _)
  -- the fuel bounds the length of what is left, which gets shorter with every bracket and comma
  | .null, _, _, _ + 1, _, _, _ => rfl
  | .bool true, _, _, _ + 1, _, _, _ => rfl
  | .bool false, _, _, _ + 1, _, _, _ => rfl
  | .number n, h, _, fuel + 1, rest, _, hrest => by
    obtain ⟨c, cs, hwrite, hc⟩ := exists_cons_write h
    have hread := readNumeral?_write h hrest
    rw [Spacing.write, hwrite, List.cons_append] at *
    rw [readValue?_number hc, hread]
    rfl
  | .text none, h, _, _, _, _, _ => absurd h (by simp [IsSpelled])
  | .text (some t), _, _, fuel + 1, rest, _, _ => by
    have hread := readText?_escaped t rest
    rw [Spacing.write, writeText, quoteText, Option.getD_some, List.cons_append,
      List.cons_append, List.append_assoc, List.singleton_append]
    show (readText? _).map _ = _
    rw [hread]
    rfl
  | .array [], _, _, _ + 1, _, _, _ => rfl
  | .array (item :: items), h, depth, fuel + 1, rest, hfuel, hrest => by
    obtain ⟨hitem, hitems⟩ := h
    obtain ⟨c, cs, hwrite, hspace, hclose, -⟩ := exists_cons_spaced hitem (s := s) (depth + 1)
    obtain ⟨ds, hjoin⟩ := @exists_cons_join c cs (',' :: s.line (depth + 1))
      (s.items (depth + 1) items)
    have hlength := length_block_cons s '[' ']' depth (s.write (depth + 1) item)
      (s.items (depth + 1) items)
    rw [Spacing.write, Spacing.items] at hfuel ⊢
    have hread := readItems?_spaced item items hitem hitems (depth + 1) fuel (s.line depth)
      (hs.line depth) rest (by rw [Spacing.items]; omega)
    rw [block_cons]
    rw [Spacing.items, hwrite, hjoin, List.cons_append] at hread
    rw [hwrite, hjoin, List.cons_append, readValue?_items (hs.line _) hspace hclose, hread]
    rfl
  | .object [], _, _, _ + 1, _, _, _ => rfl
  | .object ((none, _) :: _), h, _, _, _, _, _ => absurd h.1 (by simp)
  | .object ((some key, value) :: members), h, depth, fuel + 1, rest, hfuel, hrest => by
    obtain ⟨-, hvalue, hmembers⟩ := h
    obtain ⟨cs, hpiece⟩ : ∃ cs, writeText (some key) ++ ':' :: s.colon ++
        s.write (depth + 1) value = '"' :: cs := ⟨_, rfl⟩
    obtain ⟨ds, hjoin⟩ := @exists_cons_join '"' cs (',' :: s.line (depth + 1))
      (s.members (depth + 1) members)
    have hlength := length_block_cons s '\x7b' '\x7d' depth
      (writeText (some key) ++ ':' :: s.colon ++ s.write (depth + 1) value)
      (s.members (depth + 1) members)
    rw [Spacing.write, Spacing.members] at hfuel ⊢
    have hread := readMembers?_spaced key value members hvalue hmembers (depth + 1) fuel
      (s.line depth) (hs.line depth) rest (by rw [Spacing.members]; omega)
    rw [block_cons]
    rw [Spacing.members, hpiece, hjoin, List.cons_append] at hread
    rw [hpiece, hjoin, List.cons_append,
      readValue?_members (hs.line _) (by decide) (by decide), hread]
    rfl

theorem readItems?_spaced : ∀ (item : Json) (items : List Json), item.IsSpelled →
    ItemsSpelled items → ∀ (depth fuel : Nat) (gap : List Char),
      (∀ c ∈ gap, isSpace c = true) → ∀ rest : List Char,
        (join (',' :: s.line depth) (s.items depth (item :: items))).length + 1 < fuel →
          readItems? fuel (join (',' :: s.line depth) (s.items depth (item :: items)) ++
            (gap ++ ']' :: rest)) = some (item :: items, rest)
  | _, _, _, _, _, 0, _, _, _, hfuel => absurd hfuel (Nat.not_lt_zero _)
  | item, [], hitem, _, depth, fuel + 1, gap, hgap, rest, hfuel => by
    rw [Spacing.items, Spacing.items, join] at hfuel ⊢
    have hread := readValue?_spaced item hitem depth fuel (gap ++ ']' :: rest) (by omega)
      (ends_gap hgap (by simp) rest)
    rw [readItems?, hread, Option.bind_eq_bind, Option.bind_some]
    dsimp only
    rw [skipSpace_append hgap, skipSpace_cons (by decide)]
    rfl
  | item, next :: items, hitem, hitems, depth, fuel + 1, gap, hgap, rest, hfuel => by
    rw [Spacing.items, join_cons _ _ (by simp [Spacing.items])] at hfuel ⊢
    rw [List.length_append, List.length_append, List.length_cons] at hfuel
    have hread := readValue?_spaced item hitem depth fuel (',' :: (s.line depth ++
      (join (',' :: s.line depth) (s.items depth (next :: items)) ++ (gap ++ ']' :: rest))))
      (by omega) (ends_cons (by simp) _)
    have hmore := readItems?_spaced next items hitems.1 hitems.2 depth fuel gap hgap rest
      (by omega)
    rw [List.append_assoc, List.append_assoc, List.cons_append, readItems?, hread,
      Option.bind_eq_bind, Option.bind_some]
    dsimp only
    rw [skipSpace_cons (by decide)]
    show ((readItems? fuel _).bind _) = _
    rw [readItems?_gap (hs.line depth), hmore]
    rfl

theorem readMembers?_spaced : ∀ (key : String) (value : Json)
    (members : List (Option String × Json)), value.IsSpelled → MembersSpelled members →
      ∀ (depth fuel : Nat) (gap : List Char), (∀ c ∈ gap, isSpace c = true) →
        ∀ rest : List Char, (join (',' :: s.line depth)
          (s.members depth ((some key, value) :: members))).length + 1 < fuel →
            readMembers? fuel (join (',' :: s.line depth)
              (s.members depth ((some key, value) :: members)) ++ (gap ++ '\x7d' :: rest)) =
                some ((some key, value) :: members, rest)
  | _, _, _, _, _, _, 0, _, _, _, hfuel => absurd hfuel (Nat.not_lt_zero _)
  | key, value, [], hvalue, _, depth, fuel + 1, gap, hgap, rest, hfuel => by
    rw [Spacing.members, Spacing.members, join] at hfuel ⊢
    rw [List.length_append] at hfuel
    have hread := readValue?_spaced value hvalue depth fuel (gap ++ '\x7d' :: rest) (by omega)
      (ends_gap hgap (by simp) rest)
    rw [List.append_assoc, List.append_assoc, List.cons_append, readMembers?_key,
      readValue?_gap hs.colon, hread, Option.bind_some]
    dsimp only
    rw [skipSpace_append hgap, skipSpace_cons (by decide)]
    rfl
  -- a key that is not whole is not spelled
  | _, _, (none, _) :: _, _, hmembers, _, _, _, _, _, _ => absurd hmembers.1 (by simp)
  | key, value, (some next, value') :: members, hvalue, hmembers, depth, fuel + 1, gap, hgap,
      rest, hfuel => by
    rw [Spacing.members, join_cons _ _ (by simp [Spacing.members])] at hfuel ⊢
    rw [List.length_append, List.length_append, List.length_append, List.length_cons] at hfuel
    have hread := readValue?_spaced value hvalue depth fuel (',' :: (s.line depth ++
      (join (',' :: s.line depth) (s.members depth ((some next, value') :: members)) ++
        (gap ++ '\x7d' :: rest)))) (by omega) (ends_cons (by simp) _)
    have hmore := readMembers?_spaced next value' members hmembers.2.1 hmembers.2.2 depth fuel
      gap hgap rest (by omega)
    rw [List.append_assoc, List.append_assoc, List.append_assoc, List.append_assoc,
      List.cons_append, List.cons_append, readMembers?_key, readValue?_gap hs.colon, hread,
      Option.bind_some]
    dsimp only
    rw [skipSpace_cons (by decide)]
    show ((readMembers? fuel _).bind _) = _
    rw [readMembers?_gap (hs.line depth), hmore]
    rfl

end

/-- A value is read back from its form with gaps. -/
theorem read?_spaced {j : Json} (h : j.IsSpelled) :
    read? (String.ofList (s.write 0 j)) = some j := by
  have hread := readValue?_spaced hs j h 0 ((s.write 0 j).length + 1) []
    (Nat.lt_succ_self _) (fun c hc => absurd hc (by simp))
  rw [List.append_nil] at hread
  unfold read?
  rw [String.toList_ofList]
  dsimp only
  rw [hread]
  rfl

end Spaced

theorem exists_cons_writeCompact {j : Json} (h : j.IsSpelled) :
    ∃ c cs, j.writeCompact = c :: cs := by
  obtain ⟨c, cs, hwrite, -⟩ := exists_cons_spaced h (s := .none) 0
  exact ⟨c, cs, (Spacing.write_none 0 j).symm.trans hwrite⟩

/-- A value is read back from its compact form. -/
theorem read?_compact {j : Json} (h : j.IsSpelled) : read? j.compact = some j := by
  rw [compact, ← Spacing.write_none 0 j]
  exact read?_spaced Spacing.isBlank_none h

/-- A value is read back from its pretty form. -/
theorem read?_pretty {j : Json} (h : j.IsSpelled) : read? j.pretty = some j := by
  rw [pretty, ← Spacing.write_lines 0 j]
  exact read?_spaced Spacing.isBlank_lines h

end Signoff.Json
