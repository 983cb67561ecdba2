import Signoff.Proofs.CompletionLog

/-!
# Behind a line that was not ended

A log may stop in the middle of a line. What is put behind it goes on that line, and no line that
begins with something else than blanks and ends with a whole line is well-formed
(`readLine?_torn_append`). So the torn line and the first one behind it are lost together, and
nothing else is (`lookup?_read_torn`).
-/

namespace Signoff

open Text Time

/-! ## No instant has a bar -/

namespace Time

variable {cs rest : List Char}

theorem mem_of_readDigits? {least most n : Nat} (h : readDigits? least most cs = some (n, rest))
    (hbar : '|' ∈ cs) : '|' ∈ rest := by
  unfold readDigits? at h
  dsimp only at h
  split at h
  · cases h
  · rw [Option.some.injEq, Prod.mk.injEq] at h
    obtain ⟨-, rfl⟩ := h
    set digits := (cs.take most).takeWhile Char.isDigit with hdigits
    have hprefix : digits <+: cs := (List.takeWhile_prefix _).trans (List.take_prefix _ _)
    rw [List.prefix_iff_eq_append.mp hprefix |>.symm] at hbar
    refine (List.mem_append.mp hbar).resolve_left fun hmem => ?_
    exact absurd (List.mem_takeWhile_imp hmem) (by decide)

theorem mem_of_expect? {c : Char} (h : expect? c cs = some rest) (hc : c ≠ '|')
    (hbar : '|' ∈ cs) : '|' ∈ rest := by
  cases cs with
  | nil => cases h
  | cons d cs =>
    rw [expect?] at h
    split at h
    next heq =>
      rw [← Option.some.inj h]
      exact (List.mem_cons.mp hbar).resolve_left fun hd => hc (heq.trans hd.symm)
    · cases h

theorem mem_of_skipDateMark? (h : skipDateMark? cs = some rest) (hbar : '|' ∈ cs) :
    '|' ∈ rest := by
  cases cs with
  | nil => cases h
  | cons d cs =>
    rw [skipDateMark?] at h
    split at h
    next hmark =>
      rw [← Option.some.inj h]
      refine (List.mem_cons.mp hbar).resolve_left ?_
      rintro rfl
      exact absurd hmark (by decide)
    · cases h

theorem mem_of_readNanos? {n : Nat} (h : readNanos? cs = some (n, rest)) (hbar : '|' ∈ cs) :
    '|' ∈ rest := by
  unfold readNanos? at h
  split at h
  next more =>
    dsimp only at h
    split at h
    · cases h
    · rw [Option.some.injEq, Prod.mk.injEq] at h
      obtain ⟨-, rfl⟩ := h
      have hmore : '|' ∈ more := (List.mem_cons.mp hbar).resolve_left (by decide)
      rw [← List.takeWhile_append_dropWhile (p := Char.isDigit) (l := more)] at hmore
      refine (List.mem_append.mp hmore).resolve_left fun hmem => ?_
      exact absurd (List.mem_takeWhile_imp hmem) (by decide)
  · cases h
    exact hbar

theorem mem_of_readOffset? {offset : Int} (h : readOffset? (expect? ':') cs = some (offset, rest))
    (hbar : '|' ∈ cs) : '|' ∈ rest := by
  cases cs with
  | nil => cases h
  | cons c cs =>
    have hcs : c = 'Z' ∨ c = 'z' ∨ c = '+' ∨ isMinus c = true → '|' ∈ cs := by
      intro hc
      refine (List.mem_cons.mp hbar).resolve_left ?_
      rintro rfl
      exact absurd hc (by decide)
    unfold readOffset? at h
    dsimp only at h
    split at h
    next hzulu =>
      cases h
      rw [Bool.or_eq_true, decide_eq_true_eq, decide_eq_true_eq] at hzulu
      exact hcs (by tauto)
    split at h
    next hsign =>
      rw [Bool.or_eq_true, decide_eq_true_eq] at hsign
      obtain ⟨⟨hours, afterHours⟩, hhours, h⟩ := Option.bind_eq_some_iff.mp h
      obtain ⟨afterMark, hmark, h⟩ := Option.bind_eq_some_iff.mp h
      obtain ⟨⟨minutes, afterMinutes⟩, hminutes, h⟩ := Option.bind_eq_some_iff.mp h
      split at h
      · cases h
        exact mem_of_readDigits? hminutes (mem_of_expect? hmark (by decide)
          (mem_of_readDigits? hhours (hcs (by tauto))))
      · cases h
    · cases h

theorem read?_eq_none_of_bar (hbar : '|' ∈ cs) : Instant.read? cs = none := by
  by_contra hread
  obtain ⟨t, h⟩ := Option.ne_none_iff_exists'.mp hread
  -- every part leaves the bar to the parts behind it, and nothing may be left in the end
  obtain ⟨⟨year, cs₁⟩, h₁, h⟩ := Option.bind_eq_some_iff.mp h
  obtain ⟨cs₂, h₂, h⟩ := Option.bind_eq_some_iff.mp h
  obtain ⟨⟨month, cs₃⟩, h₃, h⟩ := Option.bind_eq_some_iff.mp h
  obtain ⟨cs₄, h₄, h⟩ := Option.bind_eq_some_iff.mp h
  obtain ⟨⟨day, cs₅⟩, h₅, h⟩ := Option.bind_eq_some_iff.mp h
  obtain ⟨cs₆, h₆, h⟩ := Option.bind_eq_some_iff.mp h
  obtain ⟨⟨hour, cs₇⟩, h₇, h⟩ := Option.bind_eq_some_iff.mp h
  obtain ⟨cs₈, h₈, h⟩ := Option.bind_eq_some_iff.mp h
  obtain ⟨⟨minute, cs₉⟩, h₉, h⟩ := Option.bind_eq_some_iff.mp h
  obtain ⟨cs₁₀, h₁₀, h⟩ := Option.bind_eq_some_iff.mp h
  obtain ⟨⟨second, cs₁₁⟩, h₁₁, h⟩ := Option.bind_eq_some_iff.mp h
  obtain ⟨⟨nanos, cs₁₂⟩, h₁₂, h⟩ := Option.bind_eq_some_iff.mp h
  obtain ⟨⟨offset, cs₁₃⟩, h₁₃, h⟩ := Option.bind_eq_some_iff.mp h
  have hdate : '|' ∈ cs₆ := by
    refine mem_of_skipDateMark? h₆ (mem_of_readDigits? h₅ (mem_of_expect? h₄ (by decide) ?_))
    exact mem_of_readDigits? h₃ (mem_of_expect? h₂ (by decide) (mem_of_readDigits? h₁ hbar))
  have htime : '|' ∈ cs₁₁ := by
    refine mem_of_readDigits? h₁₁ (mem_of_expect? h₁₀ (by decide) (mem_of_readDigits? h₉ ?_))
    exact mem_of_expect? h₈ (by decide) (mem_of_readDigits? h₇ hdate)
  have hrest : '|' ∈ cs₁₃ := mem_of_readOffset? h₁₃ (mem_of_readNanos? h₁₂ htime)
  dsimp only at h
  split at h
  next hempty =>
    rw [List.isEmpty_iff.mp hempty] at hrest
    exact nomatch hrest
  next => cases h

end Time

/-! ## Lines with something in front -/

namespace Text

/-- The last of a limited number of pieces has the separators that are too many. -/
theorem mem_of_getLast?_splitFirst {sep : Char} {n : Nat} {cs last : List Char}
    (h : n < cs.count sep) (hlast : (splitFirst sep n cs).getLast? = some last) : sep ∈ last := by
  induction n generalizing cs with
  | zero =>
    rw [splitFirst, List.getLast?_singleton, Option.some.injEq] at hlast
    rw [← hlast]
    exact List.count_pos_iff.mp h
  | succ n ih =>
    obtain ⟨front, back, rfl, hfront⟩ :=
      List.eq_append_cons_of_mem (List.count_pos_iff.mp (Nat.zero_lt_of_lt h))
    rw [List.count_append, List.count_cons_self, List.count_eq_zero.mpr hfront] at h
    rw [splitFirst_append_cons sep hfront] at hlast
    have hback : n < back.count sep := by omega
    refine ih hback ?_
    cases hrest : splitFirst sep n back with
    | nil =>
      cases n with
      | zero => cases hrest
      | succ n =>
        rw [splitFirst] at hrest
        split at hrest <;> cases hrest
    | cons piece rest =>
      rw [hrest, List.getLast?_cons_cons] at hlast
      exact hlast

end Text

namespace Domain

/-- No word for a domain ends with the name of a domain and begins with something else. -/
theorem ofChars?_append_name {front : List Char} (hne : front ≠ [])
    (hfront : ∀ c, front.head? = some c → isBlank c = false) (d : Domain) :
    ofChars? (front ++ d.name.toList) = none := by
  let plain : List Char → List Char := fun cs => replaceChar '-' '_' (lower cs)
  have hends : ∀ d ∈ all, ∀ e ∈ all, ∀ word ∈ e.words,
      plain d.name.toList <:+ word.toList → word.toList = plain d.name.toList := by decide +kernel
  have hlast : ∀ c, (front ++ d.name.toList).getLast? = some c → isBlank c = false := by
    intro c hc
    cases d <;> (rw [List.getLast?_append] at hc; rw [← Option.some.inj hc]; decide)
  have hfirst : ∀ c, (front ++ d.name.toList).head? = some c → isBlank c = false := by
    intro c hc
    obtain ⟨x, xs, rfl⟩ := List.exists_cons_of_ne_nil hne
    exact hfront c hc
  have hmem : ∀ e : Domain, e ∈ all := by
    intro e
    cases e <;> decide
  rw [ofChars?, trim_eq_self hfirst hlast, List.find?_eq_none]
  intro e he hany
  obtain ⟨word, hword, heq⟩ := List.any_eq_true.mp hany
  rw [beq_iff_eq, lower, replaceChar, List.map_append, List.map_append] at heq
  -- the word would end with the name, but it would be longer
  have hname := hends d (hmem d) e he word hword ⟨_, heq.symm⟩
  rw [hname] at heq
  have hlength := congrArg List.length heq
  rw [List.length_append, List.length_map, List.length_map] at hlength
  have hpos := List.length_pos_iff.mpr hne
  have hplain : (plain d.name.toList).length = ((d.name.toList.map Char.toLower).map
    fun c => if c = '-' then '_' else c).length := rfl
  omega

end Domain

namespace CompletionLog

theorem three_le_count_writeLine (key : JobKey) (name : String) (t : Instant) :
    3 ≤ (writeLine key name t).toList.count '|' := by
  rw [toList_writeLine]
  simp only [List.count_append, List.count_cons_self]
  omega

/-- Nothing but blanks may stand in front of a line. -/
theorem readLine?_torn_append {torn : List Char} (h : isBlankText torn = false) (key : JobKey)
    (name : String) (t : Instant) :
    readLine? (torn ++ (writeLine key name t).toList) = none := by
  set line := (writeLine key name t).toList with hline
  obtain ⟨front, hfront⟩ : ∃ front, trimStart torn = front := ⟨_, rfl⟩
  have hne : front ≠ [] := by
    rintro rfl
    have hall := List.all_eq_true.mpr (List.dropWhile_eq_nil_iff.mp hfront)
    rw [isBlankText, hall] at h
    cases h
  have hhead : ∀ c, front.head? = some c → isBlank c = false := fun c hc =>
    not_blank_of_head?_dropWhile (hfront ▸ hc)
  have htrim : trim (torn ++ line) = front ++ line := by
    have htorn : torn = torn.takeWhile isBlank ++ front := by
      rw [← hfront]
      exact List.takeWhile_append_dropWhile.symm
    rw [htorn, List.append_assoc, trim_append_of_blank fun c hc => List.mem_takeWhile_imp hc]
    refine trim_eq_self (fun c hc => hhead c ?_) fun c hc => ?_
    · obtain ⟨x, xs, rfl⟩ := List.exists_cons_of_ne_nil hne
      exact hc
    · rw [List.getLast?_append, hline, getLast?_writeLine] at hc
      rw [← Option.some.inj hc]
      decide
  rw [readLine?, htrim]
  split
  next domain index unit time hfields =>
    by_cases hbar : '|' ∈ front
    -- with the bars of the line there is one too many, and it ends up in the time
    · have hcount : 3 < (front ++ line).count '|' := by
        have hthree : 3 ≤ line.count '|' := three_le_count_writeLine key name t
        have hone := List.count_pos_iff.mpr hbar
        rw [List.count_append]
        omega
      have htime : '|' ∈ time := mem_of_getLast?_splitFirst hcount (by rw [hfields]; rfl)
      rw [read?_eq_none_of_bar (mem_trim htime (by decide))]
      simp
    -- without a bar, the front goes with the domain
    · have hname : '|' ∉ front ++ key.domain.name.toList := by
        rw [List.mem_append, not_or]
        exact ⟨hbar, (domain_of_name key.domain).1⟩
      rw [hline, toList_writeLine, ← List.append_assoc, splitFirst_append_cons '|' hname] at hfields
      rw [← (List.cons.inj hfields).1, Domain.ofChars?_append_name hne hhead]
      rfl
  next => rfl

/-! ## Logs with a torn line -/

/-- The text up to its last line feed. -/
def ended (text : String) : String :=
  String.ofList ((splitOn '\n' text.toList).dropLast.flatMap fun l => l ++ ['\n'])

theorem splitOn_ended (text : String) :
    splitOn '\n' (ended text).toList = (splitOn '\n' text.toList).dropLast ++ [[]] := by
  unfold ended
  rw [String.toList_ofList]
  exact splitOn_flatMap fun l hl => not_mem_of_mem_splitOn '\n' (List.dropLast_subset _ hl)

/-- The first line behind a torn one is lost with it, and no other line is. -/
theorem lookup?_read_torn {text : String} (h : ¬ IsClosed text) (e : JobKey × Completion)
    (es : List (JobKey × Completion)) (k : JobKey) :
    (read (text ++ textOf (e :: es))).lookup? k =
      ((read (ended text)).lookup? k).or ((read (textOf es)).lookup? k) := by
  obtain ⟨init, last, hpieces⟩ : ∃ init last, splitOn '\n' text.toList = init ++ [last] :=
    ⟨_, _, (List.dropLast_append_getLast (splitOn_ne_nil '\n' text.toList)).symm⟩
  have htorn : isBlankText last = false := by
    rw [← Bool.not_eq_true, isBlankText, List.all_eq_true]
    intro hall
    refine h fun last' hlast' => ?_
    rw [hpieces, List.getLast?_concat, Option.some.injEq] at hlast'
    rw [← hlast']
    exact hall
  have hmore := splitOn_textOf (e :: es)
  rw [List.map_cons, List.cons_append] at hmore
  -- the torn line takes the first new one in, and what that gives is not well-formed
  have hread : (splitOn '\n' (text ++ textOf (e :: es)).toList).filterMap readLine? =
      (splitOn '\n' (ended text).toList).filterMap readLine? ++
        (splitOn '\n' (textOf es).toList).filterMap readLine? := by
    rw [String.toList_append, splitOn_append '\n' hpieces hmore, splitOn_ended, splitOn_textOf,
      hpieces, List.dropLast_concat, List.filterMap_append, List.filterMap_append,
      List.filterMap_cons_none (readLine?_torn_append htorn _ _ _),
      List.filterMap_cons_none (readLine?_of_blank (l := []) nofun), List.filterMap_nil, List.append_nil]
  rw [lookup?_read_eq, lookup?_read_eq, lookup?_read_eq, hread, List.find?_append, Option.map_or]

end CompletionLog

end Signoff
