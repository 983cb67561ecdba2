import Signoff.Proofs.CompletionLog
import Signoff.Report.Markdown

/-!
# The readable report, line by line

The text of a report has the lines that were put into it if no name breaks a line (`IsPlain`).  Then
the entries behind the heading of the blocking results are those of the report
(`entriesOf_markdown`).

The tables of the chiplets need no such condition: every line of a table is one line of the text.  A
reader finds the cells of a line between the bars that no odd number of backslashes stands in front
of, and so every row has the cells of its table unless a bar of the name stands behind an odd number
of backslashes (`tables_by_bars`).
-/

namespace Signoff

open Text

/-- A text without a line feed. -/
def OneLine (s : String) : Prop := '\n' ∉ s.toList

instance (s : String) : Decidable (OneLine s) := inferInstanceAs (Decidable ('\n' ∉ s.toList))

namespace OneLine

theorem append {s t : String} (hs : OneLine s) (ht : OneLine t) : OneLine (s ++ t) := by
  unfold OneLine
  rw [String.toList_append, List.mem_append, not_or]
  exact ⟨hs, ht⟩

theorem join {ss : List String} (h : ∀ s ∈ ss, OneLine s) : OneLine (String.join ss) := by
  unfold OneLine
  rw [String.toList_join, List.mem_flatMap]
  rintro ⟨s, hs, hmem⟩
  exact h s hs hmem

theorem nat (n : Nat) : OneLine (toString n) := by
  intro h
  have hdigit : ('\n').isDigit = true := by
    refine isDigit_of_mem_digitsOf (n := n) ?_
    rwa [toString, instToStringNat, Nat.toList_repr] at h
  exact absurd hdigit (by decide)

theorem instant (t : Time.Instant) : OneLine t.write := fun h =>
  absurd (CompletionLog.not_blank_of_mem_write h) (by decide)

theorem not_mem_toDigits (n : Nat) : '\n' ∉ Nat.toDigits 16 n := by
  induction n using Nat.strong_induction_on with
  | _ n ih =>
    have hdigit : ∀ m : Nat, '\n' ∉ [m.digitChar] := fun m h =>
      Nat.digitChar_ne '\n' (by decide) (List.mem_singleton.mp h).symm
    rw [Nat.toDigits_eq_if (by omega)]
    split
    · exact hdigit n
    next hlarge =>
      rw [List.mem_append, not_or]
      exact ⟨ih (n / 16) (by omega), hdigit _⟩

theorem runId (id : RunId) : OneLine id.write := by
  have hhex : '\n' ∉ id.hexText := by
    unfold RunId.hexText
    dsimp only
    rw [List.mem_append, not_or, List.mem_replicate]
    exact ⟨fun h => absurd h.2 (by decide), not_mem_toDigits _⟩
  -- the groups are cut out of the digits
  have htake : ∀ m n, '\n' ∉ (id.hexText.drop m).take n := fun m n h =>
    hhex (List.mem_of_mem_drop (List.mem_of_mem_take h))
  have hdrop : ∀ m, '\n' ∉ id.hexText.drop m := fun m h => hhex (List.mem_of_mem_drop h)
  unfold OneLine RunId.write
  rw [String.toList_ofList]
  simp only [List.mem_append, List.mem_cons, not_or]
  have hfirst := htake 0 8
  rw [List.drop_zero] at hfirst
  exact ⟨⟨⟨⟨hfirst, by decide, htake _ _⟩, by decide, htake _ _⟩, by decide, htake _ _⟩, by decide,
    hdrop _⟩

theorem fixed (places : Nat) (x : Number.Binary64) : OneLine (x.fixed places) := by
  have hsign : ∀ negative, '\n' ∉ Number.signText negative := by decide
  have hpoint : ∀ n, '\n' ∉ Number.withPoint places n := by
    intro n h
    have hdigits : '\n' ∉ List.replicate (places + 1 - (digitsOf n).length) '0' ++ digitsOf n := by
      rw [List.mem_append, not_or, List.mem_replicate]
      exact ⟨fun h => absurd h.2 (by decide), fun h =>
        absurd (isDigit_of_mem_digitsOf h) (by decide)⟩
    unfold Number.withPoint at h
    dsimp only at h
    simp only [List.mem_append (a := '\n'), List.mem_singleton] at h
    rcases h with (h | h) | h
    · exact hdigits (List.mem_append.mpr (List.mem_append.mp (List.mem_of_mem_take h)))
    · exact absurd h (by decide)
    · exact hdigits (List.mem_append.mpr (List.mem_append.mp (List.mem_of_mem_drop h)))
  unfold Number.Binary64.fixed OneLine
  split
  · decide
  split
  · rw [String.toList_ofList, List.mem_append, not_or]
    exact ⟨hsign _, by decide⟩
  · dsimp only
    rw [String.toList_ofList, List.mem_append, not_or]
    exact ⟨hsign _, hpoint _⟩

theorem cell (s : String) : OneLine (Report.cell s) := by
  unfold OneLine Report.cell
  rw [String.toList_ofList, List.mem_flatMap]
  rintro ⟨c, -, hc⟩
  unfold Report.cellChar at hc
  split at hc
  · exact absurd hc (by decide)
  split at hc
  · exact absurd hc (by decide)
  next hfeed => exact hfeed (List.mem_singleton.mp hc).symm

theorem tableRow {cells : List String} (h : ∀ c ∈ cells, OneLine c) :
    OneLine (Report.tableRow cells) := by
  refine append (s := "|") (by decide) (join fun s hs => ?_)
  obtain ⟨c, hc, rfl⟩ := List.mem_map.mp hs
  exact append (append (s := " ") (by decide) (h c hc)) (t := " |") (by decide)

theorem status (s : Status) : OneLine s.name := by cases s <;> decide

theorem domain (d : Domain) : OneLine d.name ∧ OneLine d.slug := by cases d <;> decide

end OneLine

namespace Report

/-- No name that the report writes as it is breaks a line. -/
def IsPlain (r : Report) : Prop :=
  ∀ g ∈ r.chiplets, OneLine g.chiplet ∧ ∀ u ∈ g.units, OneLine u.name

def blockingHeading : List Char := "## Blocking Results".toList

/-- A line that is no heading of the blocking results. -/
structure IsFront (line : String) : Prop where
  oneLine : OneLine line
  apart : line.toList ≠ blockingHeading

/-- A line that starts in a given way. -/
structure Starts (start line : String) : Prop where
  oneLine : OneLine line
  front : start.toList <+: line.toList

namespace Starts

variable {start line t : String}

theorem self (h : OneLine start) : Starts start start := ⟨h, List.prefix_refl _⟩

theorem append (h : Starts start line) (ht : OneLine t) : Starts start (line ++ t) := by
  refine ⟨h.oneLine.append ht, ?_⟩
  rw [String.toList_append]
  exact h.front.trans (List.prefix_append _ _)

/-- A line is told from the heading by how it starts. -/
theorem isFront (h : Starts start line) (hstart : ¬ start.toList <+: blockingHeading) :
    IsFront line :=
  ⟨h.oneLine, fun heq => hstart (heq ▸ h.front)⟩

end Starts

variable {r : Report}

theorem isFront_tableRow {cells : List String} (h : ∀ c ∈ cells, OneLine c) :
    IsFront (tableRow cells) := by
  have hrow : Starts "|" (tableRow cells) := by
    refine ⟨.tableRow h, ?_⟩
    unfold tableRow
    rw [String.toList_append]
    exact List.prefix_append _ _
  exact hrow.isFront (by decide)

theorem isFront_delimiterRow (columns : Nat) : IsFront (delimiterRow columns) := by
  have hrow : Starts "|" (delimiterRow columns) := by
    refine (Starts.self (by decide)).append (.join fun s hs => ?_)
    rw [(List.mem_replicate.mp hs).2]
    decide
  exact hrow.isFront (by decide)

theorem isFront_header (domains : List Domain) :
    IsFront (tableRow ("unit" :: domains.map (·.slug))) := by
  refine isFront_tableRow fun c hc => ?_
  rcases List.mem_cons.mp hc with rfl | hc
  · decide
  · obtain ⟨d, -, rfl⟩ := List.mem_map.mp hc
    exact (OneLine.domain d).2

theorem isFront_unitLine (domains : List Domain) (u : UnitRow) : IsFront (unitLine domains u) := by
  refine isFront_tableRow fun c hc => ?_
  rcases List.mem_cons.mp hc with rfl | hc
  · exact .cell _
  · obtain ⟨d, -, rfl⟩ := List.mem_map.mp hc
    cases u.results.get? d with
    | none => exact .status .unknown
    | some result => exact .status result.status

/-- The lines of texts of which each is ended by a line feed. -/
def linesOf (texts : List String) : List (List Char) := texts.flatMap fun t => splitOn '\n' t.toList

theorem linesOf_append (texts more : List String) :
    linesOf (texts ++ more) = linesOf texts ++ linesOf more := List.flatMap_append

theorem linesOf_of_oneLine {texts : List String} (h : ∀ t ∈ texts, OneLine t) :
    linesOf texts = texts.map String.toList := by
  rw [List.map_eq_flatMap]
  exact List.flatMap_congr fun t ht => splitOn_of_not_mem '\n' (h t ht)

/-- The text of a report is cut into the lines of what was put into it. -/
theorem splitOn_markdown (r : Report) :
    splitOn '\n' r.markdown.toList = linesOf r.markdownLines ++ [[]] := by
  unfold markdown
  rw [String.toList_join]
  induction r.markdownLines with
  | nil => rfl
  | cons t texts ih =>
    have hline : (t ++ "\n").toList = t.toList ++ ['\n'] := by
      rw [String.toList_append]
      rfl
    rw [List.map_cons, List.flatMap_cons, hline, List.append_assoc, List.singleton_append,
      splitOn_append_cons, ih, linesOf, linesOf, List.flatMap_cons, List.append_assoc]

/-! ## Blocking entries -/

/-- The cells of a table line from a place behind `n` backslashes on. A bar behind an odd number of
backslashes is a character of its cell. -/
def cellsFrom (n : Nat) : List Char → List (List Char)
  | [] => [[]]
  | c :: cs =>
    if c = '|' ∧ n % 2 = 0 then [] :: cellsFrom 0 cs
    else (cellsFrom (if c = '\\' then n + 1 else 0) cs).modifyHead (c :: ·)

/-- The cells of a line that has a bar at each of its ends. -/
def cells? (line : List Char) : Option (List (List Char)) :=
  match cellsFrom 0 line with
  | [] :: cells => if cells.getLast? = some [] then some cells.dropLast else none
  | _ => none

/-- The number of bars of a text that stand behind an odd number of backslashes, where `n` of them
stand in front of the text. -/
def tornBars (n : Nat) : List Char → Nat
  | [] => 0
  | c :: cs =>
    (if c = '|' ∧ n % 2 = 1 then 1 else 0) + tornBars (if c = '\\' then n + 1 else 0) cs

/-- A text in a cell. -/
def padded (s : String) : List Char := ' ' :: (s.toList ++ [' '])

theorem cellsFrom_ne_nil (n : Nat) (cs : List Char) : cellsFrom n cs ≠ [] := by
  cases cs with
  | nil => exact List.cons_ne_nil _ _
  | cons c cs =>
    rw [cellsFrom]
    split
    · exact List.cons_ne_nil _ _
    · rw [Ne, List.modifyHead_eq_nil_iff]
      exact cellsFrom_ne_nil _ cs

theorem cellsFrom_of_not_bar {c : Char} (h : c ≠ '|') (n : Nat) (cs : List Char) :
    cellsFrom n (c :: cs) =
      (cellsFrom (if c = '\\' then n + 1 else 0) cs).modifyHead (c :: ·) := by
  rw [cellsFrom, if_neg fun hbar => h hbar.1]

theorem modifyHead_append {α : Type} {f : α → α} {as : List α} (h : as ≠ []) (bs : List α) :
    (as ++ bs).modifyHead f = as.modifyHead f ++ bs := by
  cases as with
  | nil => exact absurd rfl h
  | cons a as => rfl

/-- A bar behind a text that does not end with a backslash ends a cell. -/
theorem cellsFrom_append_bar {last : Char} (hslash : last ≠ '\\') (hbar : last ≠ '|') (n : Nat)
    (as bs : List Char) : cellsFrom n (as ++ [last] ++ '|' :: bs) =
      cellsFrom n (as ++ [last]) ++ cellsFrom 0 bs := by
  -- how many backslashes stand in front changes with every character
  induction as generalizing n with
  | nil =>
    have hend : cellsFrom 0 ('|' :: bs) = [] :: cellsFrom 0 bs := by
      rw [cellsFrom, if_pos (by decide)]
    rw [List.nil_append, List.singleton_append, cellsFrom_of_not_bar hbar,
      cellsFrom_of_not_bar hbar, if_neg hslash, hend]
    rfl
  | cons a as ih =>
    rw [List.cons_append, List.cons_append, cellsFrom, cellsFrom]
    split
    · rw [ih]
      rfl
    · rw [ih, modifyHead_append (cellsFrom_ne_nil _ _)]

/-- A line is made of its cells if none of them ends with a backslash or a bar. -/
theorem cells?_line {texts : List (List Char)}
    (h : ∀ t ∈ texts, ∃ as last, t = as ++ [last] ∧ last ≠ '\\' ∧ last ≠ '|') :
    cells? ('|' :: texts.flatMap (· ++ ['|'])) = some (texts.flatMap (cellsFrom 0)) := by
  have hcells : cellsFrom 0 (texts.flatMap (· ++ ['|'])) = texts.flatMap (cellsFrom 0) ++ [[]] := by
    induction texts with
    | nil => rfl
    | cons t texts ih =>
      obtain ⟨⟨as, last, rfl, hslash, hbar⟩, htexts⟩ := List.forall_mem_cons.mp h
      rw [List.flatMap_cons, List.append_assoc, List.singleton_append,
        cellsFrom_append_bar hslash hbar, ih htexts, List.flatMap_cons, List.append_assoc]
  have hline : cellsFrom 0 ('|' :: texts.flatMap (· ++ ['|'])) =
      [] :: (texts.flatMap (cellsFrom 0) ++ [[]]) := by
    rw [cellsFrom, if_pos (by decide), hcells]
  unfold cells?
  rw [hline]
  dsimp only
  rw [List.getLast?_concat, if_pos rfl, List.dropLast_concat]

theorem cellsFrom_of_not_mem {n : Nat} {cs : List Char} (h : '|' ∉ cs) : cellsFrom n cs = [cs] := by
  induction cs generalizing n with
  | nil => rfl
  | cons c cs ih =>
    rw [List.mem_cons, not_or] at h
    rw [cellsFrom_of_not_bar (Ne.symm h.1), ih h.2]
    rfl

theorem length_cellsFrom_of_not_bar {c : Char} (h : c ≠ '|') (n : Nat) (cs : List Char) :
    (cellsFrom n (c :: cs)).length = (cellsFrom (if c = '\\' then n + 1 else 0) cs).length := by
  rw [cellsFrom_of_not_bar h, List.length_modifyHead]

/-- A bar with a backslash of its own still ends a cell behind an odd number of others. -/
theorem length_cellsFrom_escaped (n : Nat) (cs : List Char) :
    (cellsFrom n ('\\' :: '|' :: cs)).length =
      (if n % 2 = 1 then 1 else 0) + (cellsFrom 0 cs).length := by
  rw [length_cellsFrom_of_not_bar (by decide), if_pos rfl, cellsFrom]
  -- there are `n + 1` backslashes right in front of the bar
  by_cases hn : n % 2 = 1
  · rw [if_pos ⟨rfl, by omega⟩, if_pos hn, List.length_cons, Nat.add_comm]
  · rw [if_neg (by omega), if_neg hn, List.length_modifyHead, if_neg (by decide), Nat.zero_add]

/-- An escaped text is one cell, and one more for each of its bars that stands behind an odd number
of backslashes already. -/
theorem length_cellsFrom_cellChar (n : Nat) (cs : List Char) :
    (cellsFrom n (cs.flatMap cellChar ++ [' '])).length = 1 + tornBars n cs := by
  induction cs generalizing n with
  | nil => rfl
  | cons c cs ih =>
    rw [List.flatMap_cons, List.append_assoc, tornBars]
    by_cases hbar : c = '|'
    · have hescaped : cellChar c = ['\\', '|'] := if_pos hbar
      have hslash : c ≠ '\\' := by rw [hbar]; decide
      rw [hescaped, List.cons_append, List.singleton_append, length_cellsFrom_escaped, ih,
        if_neg hslash]
      simp only [hbar, true_and]
      omega
    -- any other character is written as one that is no bar
    have htorn : ¬ (c = '|' ∧ n % 2 = 1) := fun h => hbar h.1
    rw [if_neg htorn, Nat.zero_add]
    by_cases hfeed : c = '\n'
    · have hblank : cellChar c = [' '] := by rw [hfeed]; decide
      have hslash : c ≠ '\\' := by rw [hfeed]; decide
      rw [hblank, List.singleton_append, length_cellsFrom_of_not_bar (by decide), ih,
        if_neg (by decide), if_neg hslash]
    · have hself : cellChar c = [c] := by rw [cellChar, if_neg hbar, if_neg hfeed]
      rw [hself, List.singleton_append, length_cellsFrom_of_not_bar hbar, ih]

/-! ## Rows of a table -/

theorem exists_last_padded (s : String) :
    ∃ as last, padded s = as ++ [last] ∧ last ≠ '\\' ∧ last ≠ '|' :=
  ⟨' ' :: s.toList, ' ', rfl, by decide, by decide⟩

theorem toList_tableRow (cells : List String) :
    (tableRow cells).toList = '|' :: (cells.map padded).flatMap (· ++ ['|']) := by
  have hcell : ∀ c : String, (s!" {c} |").toList = padded c ++ ['|'] := by
    intro c
    show (" " ++ c ++ " |").toList = ' ' :: (c.toList ++ [' ']) ++ ['|']
    rw [String.toList_append, String.toList_append, List.cons_append, List.append_assoc,
      List.append_assoc]
    rfl
  unfold tableRow
  rw [String.toList_append, String.toList_join, List.flatMap_map, List.flatMap_map]
  exact congrArg ('|' :: ·) (List.flatMap_congr fun c _ => hcell c)

theorem cells?_tableRow (cells : List String) :
    cells? (tableRow cells).toList = some ((cells.map padded).flatMap (cellsFrom 0)) := by
  rw [toList_tableRow, cells?_line]
  exact List.forall_mem_map.mpr fun c _ => exists_last_padded c

theorem flatMap_cellsFrom {texts : List (List Char)} (h : ∀ t ∈ texts, '|' ∉ t) :
    texts.flatMap (cellsFrom 0) = texts := by
  rw [List.flatMap_congr fun t ht => cellsFrom_of_not_mem (h t ht)]
  exact List.flatMap_singleton' texts

theorem not_mem_padded {s : String} (h : '|' ∉ s.toList) : '|' ∉ padded s := by
  unfold padded
  rw [List.mem_cons, List.mem_append, List.mem_singleton]
  rintro (h' | h' | h')
  · exact absurd h' (by decide)
  · exact h h'
  · exact absurd h' (by decide)

theorem toList_delimiterRow (columns : Nat) :
    (delimiterRow columns).toList =
      '|' :: (List.replicate columns "---".toList).flatMap (· ++ ['|']) := by
  unfold delimiterRow
  rw [String.toList_append, String.toList_join, List.flatMap_replicate, List.flatMap_replicate]
  rfl

theorem cells?_delimiterRow (columns : Nat) :
    cells? (delimiterRow columns).toList = some (List.replicate columns "---".toList) := by
  have hdashes : ∀ t ∈ List.replicate columns "---".toList, t = "---".toList := fun t ht =>
    (List.mem_replicate.mp ht).2
  rw [toList_delimiterRow, cells?_line, flatMap_cellsFrom]
  · intro t ht
    rw [hdashes t ht]
    decide
  · intro t ht
    exact ⟨"--".toList, '-', hdashes t ht, by decide, by decide⟩

end Report

/-- The status of a unit for a domain; without a result it is unknown. -/
def UnitRow.statusFor (u : UnitRow) (d : Domain) : Status :=
  ((u.results.get? d).map (·.status)).getD .unknown

namespace Report

theorem not_mem_name_status (s : Status) : '|' ∉ s.name.toList ∧ '\r' ∉ s.name.toList := by
  cases s <;> decide

theorem not_mem_slug (d : Domain) : '|' ∉ d.slug.toList := by cases d <;> decide

theorem unitLine_eq (domains : List Domain) (u : UnitRow) :
    unitLine domains u = tableRow (cell u.name :: domains.map fun d => (u.statusFor d).name) := by
  unfold unitLine UnitRow.statusFor
  refine congrArg (fun names => tableRow (cell u.name :: names)) (List.map_congr_left fun d _ => ?_)
  cases u.results.get? d <;> rfl

/-- The name of a unit is cut into cells, and the status for each domain is a cell. -/
theorem cells?_unitLine (domains : List Domain) (u : UnitRow) :
    ∃ name, cells? (unitLine domains u).toList =
        some (name ++ domains.map fun d => padded (u.statusFor d).name) ∧
      name.length = 1 + tornBars 0 u.name.toList := by
  refine ⟨cellsFrom 0 (padded (cell u.name)), ?_, ?_⟩
  · have hstatuses : (domains.map fun d => padded (u.statusFor d).name).flatMap (cellsFrom 0) =
        domains.map fun d => padded (u.statusFor d).name :=
      flatMap_cellsFrom <| List.forall_mem_map.mpr fun d _ =>
        not_mem_padded (not_mem_name_status _).1
    rw [unitLine_eq, cells?_tableRow, List.map_cons, List.flatMap_cons, List.map_map]
    exact congrArg (fun statuses => some (cellsFrom 0 (padded (cell u.name)) ++ statuses)) hstatuses
  · have hcell : (cell u.name).toList = u.name.toList.flatMap cellChar := String.toList_ofList
    rw [padded, hcell, length_cellsFrom_of_not_bar (by decide), if_neg (by decide),
      length_cellsFrom_cellChar]

theorem mem_tableRow {c : Char} (hbar : c ≠ '|') (hblank : c ≠ ' ') {cells : List String} :
    c ∈ (tableRow cells).toList ↔ ∃ s ∈ cells, c ∈ s.toList := by
  rw [toList_tableRow, List.flatMap_map]
  simp [padded, hbar, hblank]

theorem return_mem_cell (s : String) : '\r' ∈ (cell s).toList ↔ '\r' ∈ s.toList := by
  have hchar : ∀ c, '\r' ∈ cellChar c ↔ c = '\r' := by
    intro c
    unfold cellChar
    split
    next h => rw [h]; decide
    split
    next h => rw [h]; decide
    next => rw [List.mem_singleton, eq_comm]
  unfold cell
  rw [String.toList_ofList, List.mem_flatMap]
  simp only [hchar, exists_eq_right]

/-- The row of a unit has the carriage returns of the name. -/
theorem return_mem_unitLine (domains : List Domain) (u : UnitRow) :
    '\r' ∈ (unitLine domains u).toList ↔ '\r' ∈ u.name.toList := by
  have hstatuses : ¬ ∃ s ∈ domains.map fun d => (u.statusFor d).name, '\r' ∈ s.toList := by
    rintro ⟨s, hs, hmem⟩
    obtain ⟨d, -, rfl⟩ := List.mem_map.mp hs
    exact (not_mem_name_status _).2 hmem
  rw [unitLine_eq, mem_tableRow (by decide) (by decide), List.exists_mem_cons_iff, return_mem_cell]
  exact or_iff_left hstatuses

/-! ## Tables -/

/-- The table of a chiplet, line by line. -/
structure Table where
  header : List Char
  delimiter : List Char
  rows : List (List Char)

namespace Table

def lines (t : Table) : List (List Char) := t.header :: t.delimiter :: t.rows

def ofChiplet (domains : List Domain) (g : ChipletGroup) : Table where
  header := (tableRow ("unit" :: domains.map (·.slug))).toList
  delimiter := (delimiterRow (1 + domains.length)).toList
  rows := g.units.map fun u => (unitLine domains u).toList

variable (domains : List Domain) (g : ChipletGroup)

theorem cells?_header : cells? (ofChiplet domains g).header =
    some (padded "unit" :: domains.map fun d => padded d.slug) := by
  have hslugs : ∀ t ∈ ("unit" :: domains.map (·.slug)).map padded, '|' ∉ t := by
    refine List.forall_mem_map.mpr fun s hs => not_mem_padded ?_
    rcases List.mem_cons.mp hs with rfl | hs
    · decide
    · obtain ⟨d, -, rfl⟩ := List.mem_map.mp hs
      exact not_mem_slug d
  show cells? (tableRow ("unit" :: domains.map (·.slug))).toList = _
  rw [cells?_tableRow, flatMap_cellsFrom hslugs, List.map_cons, List.map_map]
  rfl

/-- The lines of a chiplet are its title, and its table between blank lines. -/
theorem linesOf_chipletLines : linesOf (chipletLines domains g) =
    linesOf [s!"## Chiplet {g.chiplet}"] ++ [] :: (ofChiplet domains g).lines ++ [[]] := by
  have htexts : chipletLines domains g = [s!"## Chiplet {g.chiplet}"] ++
      "" :: tableRow ("unit" :: domains.map (·.slug)) :: delimiterRow (1 + domains.length) ::
        (g.units.map (unitLine domains) ++ [""]) := rfl
  have hlines : ∀ t ∈ "" :: tableRow ("unit" :: domains.map (·.slug)) ::
      delimiterRow (1 + domains.length) :: (g.units.map (unitLine domains) ++ [""]), OneLine t := by
    intro t ht
    simp only [List.mem_cons, List.mem_append, List.not_mem_nil, or_false] at ht
    rcases ht with rfl | rfl | rfl | ht | rfl
    · decide
    · exact (isFront_header domains).oneLine
    · exact (isFront_delimiterRow _).oneLine
    · obtain ⟨u, -, rfl⟩ := List.mem_map.mp ht
      exact (isFront_unitLine domains u).oneLine
    · decide
  rw [htexts, linesOf_append, linesOf_of_oneLine hlines, List.append_assoc]
  simp only [List.map_cons, List.map_append, List.map_map, List.map_nil]
  rfl

end Table

/-- Each table stands behind the title of its chiplet, with one line for each unit.  The header and
the delimiter line have a cell for the name and one for each domain.  The row of a unit ends with
its status for each domain, and its name has as many cells as the bars of the name that stand behind
an odd number of backslashes, and one more. -/
theorem tables_by_bars (r : Report) :
    splitOn '\n' r.markdown.toList =
      linesOf (r.heading ++ ["## Summary", ""] ++ r.summaries.flatMap summaryLines) ++
        (r.chiplets.flatMap fun g => linesOf [s!"## Chiplet {g.chiplet}"] ++
          [] :: (Table.ofChiplet r.domains g).lines ++ [[]]) ++
        (linesOf r.blockingLines ++ [[]]) ∧
    ∀ g : ChipletGroup,
      cells? (Table.ofChiplet r.domains g).header =
        some (padded "unit" :: r.domains.map fun d => padded d.slug) ∧
      cells? (Table.ofChiplet r.domains g).delimiter =
        some (List.replicate (1 + r.domains.length) "---".toList) ∧
      List.Forall₂ (fun u row =>
        (∃ name, cells? row = some (name ++ r.domains.map fun d => padded (u.statusFor d).name) ∧
          name.length = 1 + tornBars 0 u.name.toList) ∧
        ('\r' ∈ row ↔ '\r' ∈ u.name.toList)) g.units (Table.ofChiplet r.domains g).rows := by
  refine ⟨?_, fun g => ⟨Table.cells?_header _ g, cells?_delimiterRow _, ?_⟩⟩
  · have htables : linesOf (r.chiplets.flatMap (chipletLines r.domains)) =
        r.chiplets.flatMap fun g => linesOf [s!"## Chiplet {g.chiplet}"] ++
          [] :: (Table.ofChiplet r.domains g).lines ++ [[]] := by
      unfold linesOf
      rw [List.flatMap_assoc]
      exact List.flatMap_congr fun g _ => Table.linesOf_chipletLines r.domains g
    rw [splitOn_markdown, markdownLines, linesOf_append, linesOf_append, htables, List.append_assoc]
  · exact List.forall₂_map_right_iff.mpr <| List.forall₂_same.mpr fun u _ =>
      ⟨cells?_unitLine r.domains u, return_mem_unitLine r.domains u⟩

/-- A unit whose name has a bar behind a backslash. -/
def slashedReport : Report :=
  { schemaVersion := schema
    runId := ⟨0⟩
    generatedAt := ⟨0, 0⟩
    dryRun := false
    domains := [.timing]
    summaries := []
    chiplets := [⟨"core0", [⟨0, "a\\|b", ⟨"wa"⟩, none, "", "",
      ByDomain.empty.set .timing ⟨.passed, "", .none, none, 1⟩⟩]⟩] }

/-- The row of the unit has three cells under two heads. -/
theorem slashed_bar_moves_status :
    (splitOn '\n' slashedReport.markdown.toList).filterMap cells? =
      [[" unit ".toList, " timing ".toList], ["---".toList, "---".toList],
        [" a\\\\".toList, "b ".toList, " PASSED ".toList]] := by decide +kernel

end Report

end Signoff
