import Signoff.Analysis.Formal
import Signoff.Proofs.Text.Separated

/-!
# Annotated flow lines

A line about a flow may go on behind the state. A remark in parentheses never counts. One behind a
blank does not count where the state is a single word, but it hides a state of two words with a
blank between them (`annotated_line`).
-/

namespace Signoff

open Text

/-! ## Words for a state -/

namespace FlowState

/-- What a character of a spelling is compared as. -/
def keyChar (c : Char) : Char :=
  let c := if c.toUpper = ' ' then '_' else c.toUpper
  if c = '-' then '_' else c

theorem ofChars?_eq (cs : List Char) :
    ofChars? cs =
      all.find? fun state => state.words.contains (String.ofList ((trim cs).map keyChar)) := by
  have hword : replaceChar '-' '_' (replaceChar ' ' '_' (upper (trim cs))) =
      (trim cs).map keyChar := by
    simp only [replaceChar, upper, List.map_map]
    rfl
  unfold ofChars?
  rw [hword]

theorem ofChars?_trim (cs : List Char) : ofChars? (trim cs) = ofChars? cs := by
  rw [ofChars?_eq, ofChars?_eq, trim_trim]

theorem exists_word {cs : List Char} {state : FlowState} (h : ofChars? cs = some state) :
    ∃ w ∈ state.words, w.toList = (trim cs).map keyChar := by
  rw [ofChars?_eq] at h
  have hmem := List.find?_some h
  rw [List.contains_iff_mem] at hmem
  exact ⟨_, hmem, String.toList_ofList⟩

theorem plain_of_mem_word (state : FlowState) :
    ∀ w ∈ state.words, ∀ c ∈ w.toList, isBlank c = false ∧ c ≠ '(' := by
  have hall : (state.words.all fun w => w.toList.all fun c => !isBlank c && c != '(') = true := by
    cases state <;> decide
  simpa using hall

/-- No word goes on from another one behind an underscore. -/
theorem not_prefix_of_word (s t : FlowState) :
    ∀ v ∈ s.words, ∀ w ∈ t.words, ¬ v.toList ++ ['_'] <+: w.toList := by
  cases s <;> cases t <;> decide

/-- The only blank that counts as a character of a word is the space. -/
theorem eq_space_of_keyChar {c : Char} (hc : isBlank c = true)
    (hkey : isBlank (keyChar c) = false) : c = ' ' := by
  by_contra hspace
  have hupper : c.toUpper = c := by
    apply dif_neg
    rintro ⟨hlow, hhigh⟩
    have hlow : 97 ≤ c.toNat := hlow
    have hhigh : c.toNat ≤ 122 := hhigh
    simp only [isBlank, Bool.or_eq_true, Bool.and_eq_true, decide_eq_true_eq, beq_iff_eq] at hc
    omega
  have hhyphen : c ≠ '-' := by
    rintro rfl
    exact absurd hc (by decide)
  have hself : keyChar c = c := by
    unfold keyChar
    rw [hupper, if_neg hspace, if_neg hhyphen]
  rw [hself, hc] at hkey
  exact nomatch hkey

section Spelling

variable {spelling : List Char} {state : FlowState} (h : ofChars? spelling = some state)
include h

theorem plain_keyChar {c : Char} (hc : c ∈ trim spelling) :
    isBlank (keyChar c) = false ∧ keyChar c ≠ '(' := by
  obtain ⟨w, hw, hchars⟩ := exists_word h
  apply plain_of_mem_word state w hw
  rw [hchars]
  exact List.mem_map_of_mem hc

theorem parenthesis_not_mem : '(' ∉ spelling := by
  intro hmem
  have hkey := (plain_keyChar h (mem_trim hmem (by decide))).2
  exact hkey (by decide)

theorem eq_space_of_mem {c : Char} (hc : c ∈ trim spelling) (hblank : isBlank c = true) :
    c = ' ' := eq_space_of_keyChar hblank (plain_keyChar h hc).1

theorem trim_ne_nil : trim spelling ≠ [] := by
  intro hnil
  rw [← ofChars?_trim, hnil] at h
  exact nomatch h.symm.trans (by decide : ofChars? [] = none)

/-- With a blank and more behind it, a word is no word any longer. -/
theorem ofChars?_append_blank {c : Char} {rest : List Char} (hword : trim spelling = spelling)
    (hc : isBlank c = true) (hwhole : trim (spelling ++ c :: rest) = spelling ++ c :: rest) :
    ofChars? (spelling ++ c :: rest) = none := by
  cases hlong : ofChars? (spelling ++ c :: rest) with
  | none => rfl
  | some t =>
    obtain ⟨v, hv, hshort⟩ := exists_word h
    obtain ⟨w, hw, hchars⟩ := exists_word hlong
    rw [hword] at hshort
    rw [hwhole, List.map_append, ← hshort, List.map_cons] at hchars
    have hkey := (plain_of_mem_word t w hw (keyChar c) (by simp [hchars])).1
    obtain rfl : c = ' ' := eq_space_of_keyChar hc hkey
    have hprefix : v.toList ++ ['_'] <+: w.toList := ⟨rest.map keyChar, by simp [hchars]; decide⟩
    exact absurd hprefix (not_prefix_of_word state t v hv w hw)

end Spelling

end FlowState

/-! ## The verdict text -/

namespace FlowReport

open FlowState

theorem beforeParenthesis_append {as : List Char} (h : '(' ∉ as) (bs : List Char) :
    beforeParenthesis (as ++ bs) = as ++ beforeParenthesis bs := by
  apply List.takeWhile_append_of_pos
  intro c hc
  rw [bne_iff_ne]
  rintro rfl
  exact h hc

theorem parenthesis_not_mem_blank {as : List Char} (h : ∀ c ∈ as, isBlank c = true) : '(' ∉ as :=
  fun hmem => absurd (h _ hmem) (by decide)

theorem trim_beforeParenthesis (cs : List Char) :
    trim (beforeParenthesis (trim cs)) = trim (beforeParenthesis cs) := by
  obtain ⟨before, after, hblank, heq⟩ := exists_blanks_trim cs
  have hbefore : ∀ c ∈ before, isBlank c = true :=
    fun c hc => hblank c (List.mem_append_left after hc)
  have hafter : ∀ c ∈ after, isBlank c = true :=
    fun c hc => hblank c (List.mem_append_right before hc)
  generalize trim cs = inner at heq
  rw [heq, List.append_assoc, beforeParenthesis_append (parenthesis_not_mem_blank hbefore),
    trim_append_of_blank hbefore]
  by_cases hmem : '(' ∈ inner
  · -- the parenthesis ends the front part, before the blanks at the end
    obtain ⟨front, back, rfl, hfront⟩ := List.eq_append_cons_of_mem hmem
    rw [List.append_assoc, beforeParenthesis_append hfront, beforeParenthesis_append hfront]
    rfl
  · have hinner : beforeParenthesis inner = inner := by
      have happend := beforeParenthesis_append hmem []
      rw [List.append_nil] at happend
      exact happend.trans (List.append_nil inner)
    have hrest : ∀ c ∈ beforeParenthesis after, isBlank c = true :=
      fun c hc => hafter c ((List.takeWhile_prefix _).subset hc)
    rw [beforeParenthesis_append hmem, hinner, trim_append_blank inner hrest]

theorem firstWord_append_blank {word : List Char} {c : Char} {rest : List Char} (hne : word ≠ [])
    (hword : ∀ d ∈ word, isBlank d = false) (hc : isBlank c = true) :
    firstWord (word ++ c :: rest) = word := by
  have hstart : trimStart (word ++ c :: rest) = word ++ c :: rest := by
    obtain ⟨d, more, rfl⟩ := List.exists_cons_of_ne_nil hne
    exact trimStart_cons_of_not_blank (hword d List.mem_cons_self) _
  unfold firstWord
  rw [hstart]
  apply (takeWhile_dropWhile_append _ _).1
  · intro d hd
    rw [hword d hd]
    rfl
  · intro d hd
    obtain rfl : c = d := by simpa using hd
    rw [hc]
    rfl

theorem firstWord_trim (cs : List Char) : firstWord (trim cs) = firstWord cs := by
  have hstart : trimStart (trim cs) = trim cs := by
    cases hinner : trim cs with
    | nil => rfl
    | cons c inner =>
      have hhead : (trim cs).head? = some c := by rw [hinner]; rfl
      exact trimStart_cons_of_not_blank (not_blank_of_head?_trim hhead) inner
  have hend : trimStart cs = trim cs ++ ((trimStart cs).reverse.takeWhile isBlank).reverse := by
    rw [trim, trimEnd, ← List.reverse_append, List.takeWhile_append_dropWhile,
      List.reverse_reverse]
  have hblank : ∀ c ∈ ((trimStart cs).reverse.takeWhile isBlank).reverse, isBlank c = true :=
    fun c hc => List.mem_takeWhile_imp (List.mem_reverse.mp hc)
  unfold firstWord
  rw [hstart, hend, takeWhile_append_blank _ hblank]

/-- A verdict text is read by the front part in front of a parenthesis, up to blanks. -/
theorem readState?_eq (cs : List Char) :
    readState? cs = (ofChars? (trim (beforeParenthesis cs))).or
      (ofChars? (firstWord (trim (beforeParenthesis cs)))) := by
  rw [ofChars?_trim, firstWord_trim]
  exact Option.orElse_eq_or

theorem readState?_trim (cs : List Char) : readState? (trim cs) = readState? cs := by
  rw [readState?_eq, readState?_eq, trim_beforeParenthesis]

section Note

variable {spelling : List Char} {state : FlowState} (h : ofChars? spelling = some state)
include h

/-- The first word alone stands for the state if it is the whole spelling, and for none else. -/
theorem ofChars?_firstWord {c : Char} (hc : isBlank c = true) (rest : List Char) :
    ofChars? (firstWord (trim spelling ++ c :: rest)) =
      if ' ' ∈ trim spelling then none else some state := by
  have hcore : ofChars? (trim spelling) = some state := by rw [ofChars?_trim, h]
  by_cases hspace : ' ' ∈ trim spelling
  · rw [if_pos hspace]
    have hspaced : isBlank ' ' = true := by decide
    obtain ⟨word, more, hsplit, hfree⟩ := List.eq_append_cons_of_mem hspace
    have hne : word ≠ [] := by
      rintro rfl
      have hhead : (trim spelling).head? = some ' ' := by rw [hsplit]; rfl
      rw [not_blank_of_head?_trim hhead] at hspaced
      exact nomatch hspaced
    have hplain : ∀ d ∈ word, isBlank d = false := by
      intro d hd
      by_contra hblank
      have hmem : d ∈ trim spelling := by
        rw [hsplit]
        exact List.mem_append_left _ hd
      rw [eq_space_of_mem h hmem (by simpa using hblank)] at hd
      exact hfree hd
    rw [hsplit, List.append_assoc, List.cons_append, firstWord_append_blank hne hplain hspaced]
    cases hfirst : ofChars? word with
    | none => rfl
    | some t =>
      -- then the spelling would go on from a word, and be none itself
      have hwhole : trim (word ++ ' ' :: more) = word ++ ' ' :: more := by rw [← hsplit, trim_trim]
      have hnone := ofChars?_append_blank hfirst (trim_of_plain hplain) hspaced hwhole
      rw [← hsplit, hcore] at hnone
      exact nomatch hnone
  · rw [if_neg hspace]
    have hplain : ∀ d ∈ trim spelling, isBlank d = false := by
      intro d hd
      by_contra hblank
      rw [eq_space_of_mem h hd (by simpa using hblank)] at hd
      exact hspace hd
    rw [firstWord_append_blank (trim_ne_nil h) hplain hc, hcore]

/-- What a spelling with a note behind it is read as. -/
theorem readState?_append {note : List Char}
    (hnote : ∀ c, note.head? = some c → isBlank c = true ∨ c = '(') :
    readState? (spelling ++ note) =
      if ' ' ∈ trim spelling ∧ isBlankText (beforeParenthesis note) = false then none
      else some state := by
  have hcore : ofChars? (trim spelling) = some state := by rw [ofChars?_trim, h]
  rw [readState?_eq, beforeParenthesis_append (parenthesis_not_mem h)]
  cases hblank : isBlankText (beforeParenthesis note) with
  | true =>
    have hrest : ∀ c ∈ beforeParenthesis note, isBlank c = true := List.all_eq_true.mp hblank
    rw [trim_append_blank spelling hrest, hcore, Option.some_or, if_neg (by simp)]
  | false =>
    have hfirst : ∀ c, (beforeParenthesis note).head? = some c → isBlank c = true := by
      intro c hc
      have hhead : note.head? = some c := by
        obtain ⟨behind, hbehind⟩ := List.takeWhile_prefix (l := note) (· != '(')
        rw [← hbehind, List.head?_append]
        exact congrArg (Option.or · _) hc
      have hmem := List.mem_takeWhile_imp (List.mem_of_head? hc)
      rcases hnote c hhead with hd | rfl
      · exact hd
      · exact nomatch hmem
    obtain ⟨c, rest, hc, htrim⟩ := exists_trim_append (trim_ne_nil h) hblank hfirst
    have hwhole : trim (trim spelling ++ c :: rest) = trim spelling ++ c :: rest := by
      rw [← htrim, trim_trim]
    rw [htrim, ofChars?_append_blank hcore (trim_trim spelling) hc hwhole, Option.none_or,
      ofChars?_firstWord h hc]
    simp

end Note

/-! ## The line -/

theorem isFlowChar_of_toLower {c : Char} (h : isFlowChar c.toLower = true) :
    isFlowChar c = true := by
  apply of_toLower (p := fun c => isFlowChar c = true) _ h
  intro hcapital
  simp [isFlowChar, isAlphanum_of_capital hcapital]

theorem not_blank_of_toLower {c : Char} (h : isBlank c.toLower = false) : isBlank c = false := by
  apply of_toLower (p := fun c => isBlank c = false) _ h
  intro hcapital
  rw [Bool.eq_false_iff]
  intro hblank
  simp only [isBlank, Bool.or_eq_true, Bool.and_eq_true, decide_eq_true_eq, beq_iff_eq] at hblank
  omega

section Name

variable {name : List Char} {flow : Flow} (h : Flow.ofChars? name = some flow)
include h

theorem lower_name : lower name = flow.name.toList ∨ lower name = flow.shortName.toList := by
  have hword := List.find?_some h
  simp only [Bool.or_eq_true, beq_iff_eq] at hword
  rcases hword with hword | hword
  · rw [hword, String.toList_ofList]
    exact .inl rfl
  · rw [hword, String.toList_ofList]
    exact .inr rfl

theorem isFlowChar_of_mem_name : ∀ c ∈ name, isFlowChar c = true := by
  intro c hc
  have hmem : c.toLower ∈ lower name := List.mem_map_of_mem hc
  have hall : ∀ d ∈ flow.name.toList ++ flow.shortName.toList, isFlowChar d = true :=
    List.all_eq_true.mp (by cases flow <;> decide)
  apply isFlowChar_of_toLower
  apply hall
  rcases lower_name h with hword | hword
  · rw [hword] at hmem
    exact List.mem_append_left _ hmem
  · rw [hword] at hmem
    exact List.mem_append_right _ hmem

theorem exists_cons_name : ∃ c more, name = c :: more ∧ c.toLower = 'r' := by
  have hfirst : flow.name.toList.head? = some 'r' ∧ flow.shortName.toList.head? = some 'r' := by
    cases flow <;> decide
  have hhead : (lower name).head? = some 'r' := by
    rcases lower_name h with hword | hword
    · rw [hword, hfirst.1]
    · rw [hword, hfirst.2]
  rw [lower, List.head?_map, Option.map_eq_some_iff] at hhead
  obtain ⟨c, hc, hr⟩ := hhead
  obtain ⟨more, rfl⟩ := List.head?_eq_some_iff.mp hc
  exact ⟨c, more, rfl, hr⟩

theorem splitFlowLine?_name (verdict : List Char) :
    splitFlowLine? (name ++ " : ".toList ++ verdict) = some (name, trim verdict) := by
  obtain ⟨c, more, hcons, -⟩ := exists_cons_name h
  have hrun : run? isFlowChar (name ++ " : ".toList ++ verdict) =
      some (name, " : ".toList ++ verdict) := by
    have hbehind : ∀ d, (" : ".toList ++ verdict).head? = some d → isFlowChar d = false := by
      intro d hd
      obtain rfl : ' ' = d := Option.some.inj hd
      decide
    obtain ⟨htake, hdrop⟩ := takeWhile_dropWhile_append (isFlowChar_of_mem_name h) hbehind
    have hne : name.isEmpty = false := by rw [hcons]; rfl
    unfold run?
    rw [List.append_assoc, htake, hdrop]
    dsimp only
    rw [hne]
    rfl
  have hspace : ∀ d ∈ [' '], isBlank d = true := List.forall_mem_singleton.mpr (by decide)
  have hmark : trimStart (" : ".toList ++ verdict) = ':' :: ' ' :: verdict :=
    List.dropWhile_append_of_pos hspace
  have htrim : trim (' ' :: verdict) = trim verdict := trim_append_of_blank hspace verdict
  unfold splitFlowLine?
  rw [hrun, Option.bind_eq_bind, Option.bind_some]
  dsimp only
  rw [hmark]
  exact congrArg (fun v => some (name, v)) htrim

/-- The word in front of a flow is not read where there is only the name. -/
theorem readLine?_name (verdict : List Char) :
    readLine? (name ++ " : ".toList ++ verdict) =
      (readState? (trim verdict)).map fun state =>
        ⟨flow, state, (firstFrom? readPoints? none (trim verdict)).bind readCount?⟩ := by
  obtain ⟨c, more, hcons, hr⟩ := exists_cons_name h
  have hblank : isBlank c = false := not_blank_of_toLower (by rw [hr]; decide)
  have hstart : trimStart (name ++ " : ".toList ++ verdict) = name ++ " : ".toList ++ verdict := by
    rw [hcons]
    exact trimStart_cons_of_not_blank hblank _
  have hfolds : foldsTo 'f' c = false := by
    simp [foldsTo, hr]
  have hword : keyword? "flow".toList (name ++ " : ".toList ++ verdict) = none := by
    have hflow : "flow".toList = ['f', 'l', 'o', 'w'] := by decide
    rw [hcons, hflow]
    exact if_neg (by rw [hfolds]; decide)
  unfold readLine?
  simp only [hstart, hword, splitFlowLine?_name h]
  cases hstate : readState? (trim verdict) with
  | none => simp [h, hstate]
  | some state => simp [h, hstate]

end Name

/-- A line that has a name, a state and a note is about this flow, and has this state unless a
blank stands both in the state and, with more behind it and before a parenthesis, after it. -/
theorem annotated_line {name spelling note : List Char} {flow : Flow} {state : FlowState}
    (hname : Flow.ofChars? name = some flow) (hspelling : ofChars? spelling = some state)
    (hnote : ∀ c, note.head? = some c → isBlank c = true ∨ c = '(')
    (hline : '\n' ∉ spelling ++ note) :
    (read (name ++ " : ".toList ++ (spelling ++ note))).flows.map (fun r => (r.flow, r.state)) =
      if ' ' ∈ trim spelling ∧ isBlankText (beforeParenthesis note) = false then []
      else [(flow, state)] := by
  have hlines : lines (name ++ " : ".toList ++ (spelling ++ note)) =
      [name ++ " : ".toList ++ (spelling ++ note)] := by
    have hname : '\n' ∉ name := fun hmem =>
      absurd (isFlowChar_of_mem_name hname _ hmem) (by decide)
    have hmark : '\n' ∉ " : ".toList := by decide
    have hnone : '\n' ∉ name ++ " : ".toList ++ (spelling ++ note) := by
      rw [List.mem_append, List.mem_append]
      tauto
    unfold lines
    rw [splitOn_of_not_mem '\n' hnone]
    simp
  have hread := readLine?_name hname (spelling ++ note)
  rw [readState?_trim, readState?_append hspelling hnote] at hread
  unfold read
  rw [hlines]
  by_cases hhidden : ' ' ∈ trim spelling ∧ isBlankText (beforeParenthesis note) = false
  · rw [if_pos hhidden] at hread ⊢
    rw [List.filterMap_cons_none hread]
    rfl
  · rw [if_neg hhidden] at hread ⊢
    rw [List.filterMap_cons_some hread]
    rfl

theorem annotated_line_runtime :
    (read "RTL2PNR : Non-Equivalent (3 points) in 3h12m".toList).flows.map
        (fun r => (r.flow, r.state)) = [(.rtlVsPnr, .failed)] := by
  have hnote : ∀ c, " (3 points) in 3h12m".toList.head? = some c → isBlank c = true ∨ c = '(' := by
    intro c hc
    obtain rfl : ' ' = c := Option.some.inj hc
    exact .inl (by decide)
  have h := @annotated_line "RTL2PNR".toList "Non-Equivalent".toList " (3 points) in 3h12m".toList
    .rtlVsPnr .failed (by decide +kernel) (by decide +kernel) hnote (by decide +kernel)
  rw [if_neg (by decide +kernel)] at h
  exact h

/-- A runtime behind a state of two words hides a failure. -/
theorem spaced_state_hidden :
    Flow.ofChars? "rtl_vs_pnr".toList = some .rtlVsPnr ∧
    ofChars? "NON EQUIVALENT".toList = some .failed ∧
    (read "rtl_vs_pnr : NON EQUIVALENT".toList).flows = [⟨.rtlVsPnr, .failed, none⟩] ∧
    (read "rtl_vs_pnr : NON EQUIVALENT in 3h12m".toList).flows = [] := by decide +kernel

end FlowReport

end Signoff
