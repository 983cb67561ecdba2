import Mathlib.Data.List.Nodup
import Mathlib.Data.List.TakeWhile
import Signoff.Text.Basic
import Signoff.Text.Lines

/-!
# Cutting and joining

Cutting a text at a separator undoes joining pieces that do not have it, and a text made of lines
has these lines.
-/

namespace Signoff.Text

/-- A text is cut where its characters stop having a property. -/
theorem takeWhile_dropWhile_append {p : Char → Bool} {as bs : List Char}
    (has : ∀ c ∈ as, p c = true) (hbs : ∀ c, bs.head? = some c → p c = false) :
    (as ++ bs).takeWhile p = as ∧ (as ++ bs).dropWhile p = bs := by
  rw [List.takeWhile_append_of_pos has, List.dropWhile_append_of_pos has]
  cases bs with
  | nil => simp
  | cons b bs => simp [hbs b rfl]

section SplitOn

variable (sep : Char)

theorem splitOn_of_not_mem {cs : List Char} (h : sep ∉ cs) : splitOn sep cs = [cs] := by
  induction cs with
  | nil => rfl
  | cons c cs ih =>
    rw [List.mem_cons, not_or] at h
    rw [splitOn, if_neg (Ne.symm h.1), ih h.2]

/-- The pieces in front of a separator and those behind it. -/
theorem splitOn_append_cons (as bs : List Char) :
    splitOn sep (as ++ sep :: bs) = splitOn sep as ++ splitOn sep bs := by
  induction as with
  | nil => simp [splitOn]
  | cons a as ih =>
    rw [List.cons_append, splitOn, splitOn, ih]
    split
    · rfl
    -- the character goes in front of the first piece, which the separator has closed already
    · obtain ⟨piece, rest, h⟩ := List.exists_cons_of_ne_nil (splitOn_ne_nil sep as)
      rw [h]
      rfl

/-- What is put behind a text goes on its last piece, up to the first separator. -/
theorem splitOn_append {as bs last first : List Char} {init rest : List (List Char)}
    (has : splitOn sep as = init ++ [last]) (hbs : splitOn sep bs = first :: rest) :
    splitOn sep (as ++ bs) = init ++ (last ++ first) :: rest := by
  induction as generalizing init last with
  | nil =>
    rw [splitOn, ← List.nil_append [[]]] at has
    obtain ⟨rfl, hlast⟩ := List.append_inj' has rfl
    rw [← List.singleton_inj.mp hlast]
    exact hbs
  | cons a as ih =>
    rw [List.cons_append, splitOn]
    rw [splitOn] at has
    split at has
    next ha =>
      rw [if_pos ha]
      -- the separator closes an empty piece in front, so the last piece is that of the rest
      cases init with
      | nil => exact absurd (List.cons.inj has).2 (splitOn_ne_nil sep as)
      | cons piece init =>
        obtain ⟨hpiece, hrest⟩ := List.cons.inj has
        rw [ih hrest, ← hpiece]
        rfl
    next ha =>
      rw [if_neg ha]
      obtain ⟨piece, pieces, hpieces⟩ := List.exists_cons_of_ne_nil (splitOn_ne_nil sep as)
      rw [hpieces] at has ih
      -- the character goes on the first piece, which may be the last one as well
      cases init with
      | nil =>
        obtain ⟨rfl, rfl⟩ := List.cons.inj has
        rw [@ih piece [] rfl]
        rfl
      | cons front init =>
        obtain ⟨rfl, rfl⟩ := List.cons.inj has
        rw [@ih last (piece :: init) rfl]
        rfl

theorem length_splitOn (cs : List Char) : (splitOn sep cs).length = cs.count sep + 1 := by
  induction cs with
  | nil => rfl
  | cons c cs ih =>
    rw [splitOn, List.count_cons]
    by_cases hc : c = sep
    · rw [if_pos hc, if_pos (beq_iff_eq.mpr hc), List.length_cons, ih]
    · rw [if_neg hc, if_neg (fun h => hc (eq_of_beq h)), ← ih]
      obtain ⟨piece, rest, hpieces⟩ := List.exists_cons_of_ne_nil (splitOn_ne_nil sep cs)
      rw [hpieces]
      rfl

theorem not_mem_of_mem_splitOn {cs piece : List Char} (h : piece ∈ splitOn sep cs) :
    sep ∉ piece := by
  induction cs generalizing piece with
  | nil =>
    rw [splitOn, List.mem_singleton] at h
    simp [h]
  | cons c cs ih =>
    rw [splitOn] at h
    split at h
    · rcases List.mem_cons.mp h with rfl | h
      · simp
      · exact ih h
    · next hc =>
      obtain ⟨first, rest, hs⟩ := List.exists_cons_of_ne_nil (splitOn_ne_nil sep cs)
      rw [hs] at h ih
      rcases List.mem_cons.mp h with rfl | h
      · have := ih (List.mem_cons_self (a := first))
        simp only [List.mem_cons, not_or]
        exact ⟨Ne.symm hc, this⟩
      · exact ih (List.mem_cons_of_mem _ h)

/-- Cutting undoes joining. -/
theorem splitOn_join {pieces : List (List Char)} (hne : pieces ≠ [])
    (h : ∀ p ∈ pieces, sep ∉ p) : splitOn sep (join [sep] pieces) = pieces := by
  induction pieces with
  | nil => exact absurd rfl hne
  | cons p rest ih =>
    have hp : sep ∉ p := h p (by simp)
    -- the pieces hold no separator, so the first one in the joined text closes the first piece
    cases rest with
    | nil => exact splitOn_of_not_mem sep hp
    | cons q rest =>
      rw [join, List.append_assoc, List.singleton_append, splitOn_append_cons,
        splitOn_of_not_mem sep hp, ih (by simp) fun r hr => h r (by simp [hr])]
      · rfl
      · simp

/-- The first of a limited number of pieces. -/
theorem splitFirst_append_cons {as : List Char} (h : sep ∉ as) (n : Nat) (bs : List Char) :
    splitFirst sep (n + 1) (as ++ sep :: bs) = as :: splitFirst sep n bs := by
  have hall : ∀ c ∈ as, (c != sep) = true := by
    intro c hc
    rw [bne_iff_ne]
    rintro rfl
    exact h hc
  have hdrop : (as ++ sep :: bs).dropWhile (· != sep) = sep :: bs := by
    rw [List.dropWhile_append_of_pos hall]
    simp
  have htake : (as ++ sep :: bs).takeWhile (· != sep) = as := by
    rw [List.takeWhile_append_of_pos hall]
    simp
  rw [splitFirst, hdrop, htake]

end SplitOn

/-! ## Lines -/

theorem splitOn_flatMap {ls : List (List Char)} (h : ∀ l ∈ ls, '\n' ∉ l) :
    splitOn '\n' (ls.flatMap fun l => l ++ ['\n']) = ls ++ [[]] := by
  induction ls with
  | nil => rfl
  | cons l ls ih =>
    rw [List.flatMap_cons, List.append_assoc, List.singleton_append, splitOn_append_cons,
      splitOn_of_not_mem '\n' (h l List.mem_cons_self),
      ih fun m hm => h m (List.mem_cons_of_mem _ hm)]
    rfl

/-- A text made of lines has these lines. -/
theorem lines_flatMap {ls : List (List Char)}
    (h : ∀ l ∈ ls, '\n' ∉ l ∧ l.getLast? ≠ some '\r') :
    lines (ls.flatMap fun l => l ++ ['\n']) = ls := by
  unfold lines
  rw [splitOn_flatMap fun l hl => (h l hl).1]
  dsimp only
  -- behind the last line feed stands an empty piece, which is no line
  rw [List.dropLast_concat, List.getLast?_concat]
  have hkeep : ls.map dropReturn = ls := by
    refine (List.map_congr_left fun l hl => ?_).trans (List.map_id ls)
    rw [dropReturn, if_neg (h l hl).2]
    rfl
  rw [hkeep]
  exact List.append_nil ls

/-- The same for lines of any end, as only one carriage return goes with a line feed. -/
theorem lines_flatMap_return {ls : List (List Char)} (h : ∀ l ∈ ls, '\n' ∉ l) :
    lines (ls.flatMap fun l => l ++ ['\r', '\n']) = ls := by
  have htext : (ls.flatMap fun l => l ++ ['\r', '\n']) =
      (ls.map (· ++ ['\r'])).flatMap fun l => l ++ ['\n'] := by
    rw [List.flatMap_map]
    exact List.flatMap_congr fun l _ => (List.append_assoc l ['\r'] ['\n']).symm
  have hfeed : ∀ l ∈ ls.map (· ++ ['\r']), '\n' ∉ l := by
    intro l hl
    obtain ⟨l, hmem, rfl⟩ := List.mem_map.mp hl
    rw [List.mem_append, not_or]
    exact ⟨h l hmem, by decide⟩
  have hkeep : (ls.map (· ++ ['\r'])).map dropReturn = ls := by
    rw [List.map_map]
    refine (List.map_congr_left fun l _ => ?_).trans (List.map_id ls)
    rw [Function.comp_apply, dropReturn, if_pos List.getLast?_concat, List.dropLast_concat]
    rfl
  unfold lines
  rw [htext, splitOn_flatMap hfeed]
  dsimp only
  rw [List.dropLast_concat, List.getLast?_concat, hkeep]
  exact List.append_nil ls

/-! ## Trimming -/

section Trim

variable {as bs cs : List Char}

/-- Blanks in front do not matter. -/
theorem trim_append_of_blank (h : ∀ c ∈ as, isBlank c = true) (bs : List Char) :
    trim (as ++ bs) = trim bs := by
  unfold trim trimStart
  rw [List.dropWhile_append_of_pos h]

/-- Blanks at the end do not matter. -/
theorem trim_append_blank (as : List Char) (h : ∀ c ∈ bs, isBlank c = true) :
    trim (as ++ bs) = trim as := by
  have hdrop : bs.dropWhile isBlank = [] := List.dropWhile_eq_nil_iff.mpr h
  unfold trim trimStart trimEnd
  rw [List.dropWhile_append, hdrop]
  split
  next hempty => rw [List.isEmpty_iff.mp hempty]
  next =>
    rw [List.reverse_append, List.dropWhile_append_of_pos fun c hc => h c (List.mem_reverse.mp hc)]

/-- What trimming takes off at the end is blank. -/
theorem exists_blanks_trimStart (cs : List Char) :
    ∃ after : List Char, (∀ c ∈ after, isBlank c = true) ∧ trimStart cs = trim cs ++ after := by
  refine ⟨((trimStart cs).reverse.takeWhile isBlank).reverse, fun c hc => ?_, ?_⟩
  · exact List.mem_takeWhile_imp (List.mem_reverse.mp hc)
  · rw [trim, trimEnd, ← List.reverse_append, List.takeWhile_append_dropWhile, List.reverse_reverse]

/-- Trimming takes blanks off both ends and nothing else. -/
theorem exists_blanks_trim (cs : List Char) :
    ∃ before after : List Char, (∀ c ∈ before ++ after, isBlank c = true) ∧
      cs = before ++ trim cs ++ after := by
  obtain ⟨after, hafter, htrim⟩ := exists_blanks_trimStart cs
  refine ⟨cs.takeWhile isBlank, after, ?_, ?_⟩
  · intro c hc
    rcases List.mem_append.mp hc with hc | hc
    · exact List.mem_takeWhile_imp hc
    · exact hafter c hc
  · rw [List.append_assoc, ← htrim]
    exact (List.takeWhile_append_dropWhile).symm

/-- What is no blank stays when a text is trimmed. -/
theorem mem_trim {c : Char} (h : c ∈ cs) (hc : isBlank c = false) : c ∈ trim cs := by
  obtain ⟨before, after, hblank, heq⟩ := exists_blanks_trim cs
  have hend : c ∉ before ++ after := fun hmem => by
    rw [hblank c hmem] at hc
    cases hc
  rw [List.mem_append, not_or] at hend
  rw [heq, List.mem_append, List.mem_append] at h
  tauto

theorem trim_eq_nil_iff : trim cs = [] ↔ isBlankText cs = true := by
  unfold isBlankText
  rw [List.all_eq_true]
  refine ⟨fun h c hc => ?_, fun h => ?_⟩
  · by_contra hblank
    have hmem := mem_trim hc (Bool.not_eq_true _ ▸ hblank)
    rw [h] at hmem
    exact nomatch hmem
  · have htrim := trim_append_blank [] h
    rwa [List.nil_append] at htrim

theorem trim_dropReturn (cs : List Char) : trim (dropReturn cs) = trim cs := by
  unfold dropReturn
  split
  next hlast =>
    obtain ⟨init, rfl⟩ := List.getLast?_eq_some_iff.mp hlast
    rw [List.dropLast_concat, trim_append_blank init]
    intro c hc
    rw [List.mem_singleton.mp hc]
    decide
  · rfl

theorem not_blank_of_head?_dropWhile {c : Char} (h : (cs.dropWhile isBlank).head? = some c) :
    isBlank c = false := by
  have hhead := List.head?_dropWhile_not isBlank cs
  rw [h] at hhead
  simpa using hhead

theorem not_blank_of_getLast?_trim {c : Char} (h : (trim cs).getLast? = some c) :
    isBlank c = false := by
  unfold trim trimEnd at h
  rw [List.getLast?_reverse] at h
  exact not_blank_of_head?_dropWhile h

theorem not_blank_of_head?_trim {c : Char} (h : (trim cs).head? = some c) : isBlank c = false := by
  unfold trim trimEnd at h
  rw [List.head?_reverse] at h
  -- what is left behind the blanks at the end still starts where the text starts
  obtain ⟨blanks, hsuffix⟩ := List.dropWhile_suffix (l := (trimStart cs).reverse) isBlank
  have hlast : (trimStart cs).reverse.getLast? = some c := by
    rw [← hsuffix, List.getLast?_append, h]
    rfl
  rw [List.getLast?_reverse] at hlast
  exact not_blank_of_head?_dropWhile hlast

end Trim

/-- A text without blanks at its ends stays as it is when it is trimmed. -/
theorem trim_eq_self {cs : List Char} (hfirst : ∀ c, cs.head? = some c → isBlank c = false)
    (hlast : ∀ c, cs.getLast? = some c → isBlank c = false) : trim cs = cs := by
  have hdrop : ∀ {l : List Char}, (∀ c, l.head? = some c → isBlank c = false) →
      l.dropWhile isBlank = l := by
    intro l hl
    cases l with
    | nil => rfl
    | cons c l =>
      rw [List.dropWhile_cons, hl c rfl]
      rfl
  unfold trim trimEnd trimStart
  rw [hdrop hfirst, hdrop, List.reverse_reverse]
  intro c hc
  rw [List.head?_reverse] at hc
  exact hlast c hc

/-- Only the capital letters of ASCII have a lower case of their own. -/
theorem toLower_eq_self {c : Char} (h : ¬ (65 ≤ c.toNat ∧ c.toNat ≤ 90)) : c.toLower = c := by
  have hcode : ¬ (c.val ≥ 'A'.val ∧ c.val ≤ 'Z'.val) := fun hc => h ⟨hc.1, hc.2⟩
  exact dif_neg hcode

/-- What capital letters have and a letter in lower case has, the letter itself has. -/
theorem of_toLower {p : Char → Prop} {c : Char} (hcapital : 65 ≤ c.toNat ∧ c.toNat ≤ 90 → p c)
    (h : p c.toLower) : p c := by
  by_cases hc : 65 ≤ c.toNat ∧ c.toNat ≤ 90
  · exact hcapital hc
  · rwa [toLower_eq_self hc] at h

theorem isAlphanum_of_capital {c : Char} (h : 65 ≤ c.toNat ∧ c.toNat ≤ 90) :
    c.isAlphanum = true := by
  have hupper : c.isUpper = true := decide_eq_true h
  show ((c.isUpper || c.isLower) || c.isDigit) = true
  rw [hupper, Bool.true_or, Bool.true_or]

theorem trim_trim (cs : List Char) : trim (trim cs) = trim cs :=
  trim_eq_self (fun _ => not_blank_of_head?_trim) (fun _ => not_blank_of_getLast?_trim)

theorem trim_of_plain {cs : List Char} (h : ∀ c ∈ cs, isBlank c = false) : trim cs = cs :=
  trim_eq_self (fun c hc => h c (List.mem_of_head? hc)) (fun c hc => h c (List.mem_of_getLast? hc))

theorem takeWhile_append_blank (as : List Char) {bs : List Char} (h : ∀ c ∈ bs, isBlank c = true) :
    (as ++ bs).takeWhile (!isBlank ·) = as.takeWhile (!isBlank ·) := by
  induction as with
  | nil =>
    rw [List.nil_append, List.takeWhile_nil, List.takeWhile_eq_nil_iff]
    intro hlt
    have hfirst : isBlank bs[0] = true := h _ (List.getElem_mem hlt)
    simp [hfirst]
  | cons a as ih => rw [List.cons_append, List.takeWhile_cons, List.takeWhile_cons, ih]

/-- A text with more behind a blank is trimmed at its end only. -/
theorem exists_trim_append {as bs : List Char} (has : trim as ≠ []) (hbs : isBlankText bs = false)
    (hfirst : ∀ c, bs.head? = some c → isBlank c = true) :
    ∃ c rest, isBlank c = true ∧ trim (as ++ bs) = trim as ++ c :: rest := by
  obtain ⟨before, after, hblank, heq⟩ := exists_blanks_trim as
  have hbefore : ∀ c ∈ before, isBlank c = true :=
    fun c hc => hblank c (List.mem_append_left after hc)
  -- the text behind the core starts with a blank, and it is not blank all through
  have htail : ∀ c, (after ++ bs).head? = some c → isBlank c = true := by
    intro c hc
    cases after with
    | nil => exact hfirst c hc
    | cons d after =>
      obtain rfl : d = c := by simpa using hc
      exact hblank d (by simp)
  have hcore : trim (after ++ bs) ≠ [] := by
    have hboth : isBlankText (after ++ bs) = (isBlankText after && isBlankText bs) :=
      List.all_append
    rw [Ne, trim_eq_nil_iff, hboth, hbs, Bool.and_false]
    exact Bool.false_ne_true
  obtain ⟨front, back, hends, hsplit⟩ := exists_blanks_trim (after ++ bs)
  have hlast : ∀ c, (trim (after ++ bs)).getLast? = some c → isBlank c = false :=
    fun c => not_blank_of_getLast?_trim
  have hhead : ∀ c, (trim (after ++ bs)).head? = some c → isBlank c = false :=
    fun c => not_blank_of_head?_trim
  generalize trim (after ++ bs) = core at hcore hsplit hlast hhead
  cases front with
  | nil =>
    obtain ⟨d, more, rfl⟩ := List.exists_cons_of_ne_nil hcore
    have hd := htail d (by rw [hsplit]; rfl)
    rw [hhead d rfl] at hd
    exact nomatch hd
  | cons c front =>
    refine ⟨c, front ++ core, hends c (by simp), ?_⟩
    have hwhole : as ++ bs = before ++ (trim as ++ c :: (front ++ core) ++ back) := by
      calc as ++ bs = before ++ trim as ++ (after ++ bs) := by
            conv_lhs => rw [heq]
            rw [List.append_assoc]
        _ = before ++ (trim as ++ c :: (front ++ core) ++ back) := by rw [hsplit]; simp
    rw [hwhole, trim_append_of_blank hbefore,
      trim_append_blank _ fun c hc => hends c (List.mem_append_right _ hc)]
    apply trim_eq_self
    · intro d hd
      rw [List.head?_append_of_ne_nil _ has] at hd
      exact not_blank_of_head?_trim hd
    · intro d hd
      rw [← List.cons_append, ← List.append_assoc, List.getLast?_append_of_ne_nil _ hcore] at hd
      exact hlast d hd

end Signoff.Text
