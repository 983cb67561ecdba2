import Signoff.Proofs.CompletionLog
import Signoff.Proofs.Record

/-!
# A log is no record

A line of the log starts with a domain, and a record starts with a status.  No text is both
(`Domain.ofText?_of_status`), so a file whose first line is in a log is no record, and a file that
is a record of its own stays the same record when lines are put behind a log in it
(`decodeFile_append`).
-/

namespace Signoff

open Text

namespace Text

variable {as bs : List Char}

theorem toLower_toUpper (c : Char) : c.toUpper.toLower = c.toLower := by
  by_cases h : c.val ≥ 'a'.val ∧ c.val ≤ 'z'.val
  · have hletters : ∀ n < 123, 97 ≤ n →
        (Char.ofNat n).toUpper.toLower = (Char.ofNat n).toLower := by decide
    have hlow : 97 ≤ c.toNat := h.1
    have hhigh : c.toNat ≤ 122 := h.2
    rw [← Char.ofNat_toNat c]
    exact hletters c.toNat (by omega) hlow
  · have hself : c.toUpper = c := dif_neg h
    rw [hself]

theorem lower_upper (cs : List Char) : lower (upper cs) = lower cs := by
  unfold lower upper
  rw [List.map_map]
  apply List.map_congr_left
  intro c _
  exact toLower_toUpper c

/-- The first line ends at the first line feed. -/
theorem head?_lines_feed (h : '\n' ∉ as) (bs : List Char) :
    (lines (as ++ '\n' :: bs)).head? = some (dropReturn as) := by
  have hne := splitOn_ne_nil '\n' bs
  unfold lines
  dsimp only
  rw [splitOn_append_cons, splitOn_of_not_mem '\n' h, List.singleton_append,
    List.dropLast_cons_of_ne_nil hne]
  rfl

theorem head?_lines_append (h : '\n' ∈ as) (bs : List Char) :
    (lines (as ++ bs)).head? = (lines as).head? := by
  obtain ⟨front, back, rfl, hfront⟩ := List.eq_append_cons_of_mem h
  rw [List.append_assoc, List.cons_append, head?_lines_feed hfront, head?_lines_feed hfront]

theorem dropReturn_append_cons (as : List Char) {c : Char} (hc : c ≠ '\r') (bs : List Char) :
    ∃ cs, dropReturn (as ++ c :: bs) = as ++ c :: cs := by
  unfold dropReturn
  by_cases hlast : (as ++ c :: bs).getLast? = some '\r'
  · have hne : bs ≠ [] := by
      rintro rfl
      rw [List.getLast?_concat, Option.some.injEq] at hlast
      exact hc hlast
    refine ⟨bs.dropLast, ?_⟩
    rw [if_pos hlast, List.dropLast_append_of_ne_nil (by simp), List.dropLast_cons_of_ne_nil hne]
  · rw [if_neg hlast]
    exact ⟨bs, rfl⟩

/-- What a text starts with is the start of its first line, up to a mark that ends no line. -/
theorem head?_lines_cons (has : '\n' ∉ as) {c : Char} (hc : c ≠ '\n') (hr : c ≠ '\r')
    (bs : List Char) : ∃ cs, (lines (as ++ c :: bs)).head? = some (as ++ c :: cs) := by
  have hfront : '\n' ∉ as ++ [c] := by
    rw [List.mem_append, List.mem_singleton, not_or]
    exact ⟨has, hc.symm⟩
  by_cases hbs : '\n' ∈ bs
  · obtain ⟨line, rest, rfl, hline⟩ := List.eq_append_cons_of_mem hbs
    obtain ⟨cs, hcs⟩ := dropReturn_append_cons as hr line
    have hnot : '\n' ∉ as ++ c :: line := by simp_all
    refine ⟨cs, ?_⟩
    rw [← hcs, ← head?_lines_feed hnot rest, List.append_assoc, List.cons_append]
  · have hnot : '\n' ∉ as ++ c :: bs := by simp_all
    refine ⟨bs, ?_⟩
    unfold lines
    rw [splitOn_of_not_mem '\n' hnot]
    simp

end Text

/-! ## Domains and states -/

/-- No name of a state is a word for a domain. -/
theorem Domain.ofText?_of_status {s : String} {status : Status}
    (h : Status.ofText? s = some status) : Domain.ofText? s = none := by
  have hname : upper (trim s.toList) = status.name.toList := by
    unfold Status.ofText? Status.ofName? at h
    have hfound := List.find?_some h
    rw [beq_iff_eq] at hfound
    rw [hfound, String.toList_ofList]
  have hlower : lower (trim s.toList) = lower status.name.toList := by
    rw [← hname, lower_upper]
  unfold Domain.ofText? Domain.ofChars?
  rw [hlower]
  cases status <;> decide

/-- A domain is not spelled with a backslash. -/
theorem Domain.not_backslash {cs : List Char} {d : Domain} (h : Domain.ofChars? cs = some d) :
    '\\' ∉ cs := by
  intro hmem
  unfold Domain.ofChars? at h
  have hword := List.find?_some h
  rw [List.any_eq_true] at hword
  obtain ⟨word, hword, heq⟩ := hword
  rw [beq_iff_eq] at heq
  -- the backslash is no blank and no letter, so it would be in the word as well
  have htrim : '\\' ∈ trim cs := mem_trim hmem (by decide)
  have hin : '\\' ∈ word.toList := by
    rw [heq]
    unfold replaceChar lower
    rw [List.map_map, List.mem_map]
    exact ⟨'\\', htrim, by decide⟩
  have hnone : ∀ d : Domain, ∀ word ∈ d.words, '\\' ∉ word.toList := by
    intro d
    cases d <;> decide
  exact hnone d word hword hin

/-! ## Lines of the log as records -/

namespace Record

theorem split_cons {c : Char} (hslash : c ≠ '\\') (hbar : c ≠ '|') (cs : List Char) :
    split (c :: cs) = push c (split cs) := by
  rw [split, if_neg hbar]
  · exact fun h => absurd h hslash
  · exact fun _ _ h => absurd h hslash

/-- The first field ends at the first bar. -/
theorem split_bar {as : List Char} (hslash : '\\' ∉ as) (hbar : '|' ∉ as) (bs : List Char) :
    split (as ++ '|' :: bs) = as :: split bs := by
  induction as with
  | nil =>
    rw [List.nil_append, split, if_pos rfl]
    · exact fun h => absurd h (by decide)
    · exact fun _ _ h => absurd h (by decide)
  | cons c as ih =>
    rw [List.mem_cons, not_or] at hslash hbar
    rw [List.cons_append, split_cons (Ne.symm hslash.1) (Ne.symm hbar.1), ih hslash.2 hbar.2]
    rfl

theorem dropLineEnds_append_cons (as : List Char) {c : Char} (hc : isLineEnd c = false)
    (bs : List Char) : ∃ cs, dropLineEnds (as ++ c :: bs) = as ++ c :: cs := by
  unfold dropLineEnds
  rw [List.reverse_append, List.reverse_cons, List.append_assoc, List.dropWhile_append]
  split
  · refine ⟨[], ?_⟩
    rw [List.singleton_append, List.dropWhile_cons_of_neg (by simp [hc])]
    simp
  · refine ⟨(bs.reverse.dropWhile isLineEnd).reverse, ?_⟩
    simp

theorem decodeFields_ne_ok {status : List Char} {fields : List (List Char)}
    (h : Status.ofText? (String.ofList status) = none) (r : JobResult) :
    decodeFields (status :: fields) ≠ .ok r := by
  unfold decodeFields
  split
  next heq =>
    rw [(List.cons.inj heq).1] at h
    rw [h]
    exact nofun
  next => exact nofun

/-- A text that starts with a domain and a bar is no record. -/
theorem decodeFile_ne_ok {as : List Char} {d : Domain} (hd : Domain.ofChars? as = some d)
    (hbar : '|' ∉ as) (hfeed : '\n' ∉ as) (bs : List Char) (r : JobResult) :
    decodeFile (String.ofList (as ++ '|' :: bs)) ≠ .ok r := by
  obtain ⟨line, hline⟩ : ∃ line, (lines (as ++ '|' :: bs)).head? = some (as ++ '|' :: line) :=
    head?_lines_cons hfeed (by decide) (by decide) bs
  obtain ⟨rest, hrest⟩ : ∃ rest, dropLineEnds (as ++ '|' :: line) = as ++ '|' :: rest :=
    dropLineEnds_append_cons as (by decide) line
  have hstatus : Status.ofText? (String.ofList as) = none := by
    cases hs : Status.ofText? (String.ofList as) with
    | none => rfl
    | some status =>
      have hnone := Domain.ofText?_of_status hs
      unfold Domain.ofText? at hnone
      rw [String.toList_ofList, hd] at hnone
      exact absurd hnone (by simp)
  unfold decodeFile decode
  rw [String.toList_ofList, String.toList_ofList, hline, Option.getD_some, hrest,
    split_bar (Domain.not_backslash hd) hbar]
  exact decodeFields_ne_ok hstatus r

end Record

namespace CompletionLog

/-- A line of the log starts with a domain and a bar. -/
theorem exists_domain_of_readLine? {cs : List Char} {e : JobKey × Completion}
    (h : readLine? cs = some e) :
    ∃ as bs, cs = as ++ '|' :: bs ∧ '|' ∉ as ∧ Domain.ofChars? as = some e.1.domain := by
  obtain ⟨before, after, hblank, hcs⟩ := exists_blanks_trim cs
  unfold readLine? at h
  split at h
  next domain index name time hfields =>
    obtain ⟨d, hd, h⟩ := Option.bind_eq_some_iff.mp h
    obtain ⟨i, -, h⟩ := Option.bind_eq_some_iff.mp h
    obtain ⟨t, -, h⟩ := Option.bind_eq_some_iff.mp h
    dsimp only at h
    split at h
    · cases h
    -- the domain is what stands in front of the first bar
    have hmem : '|' ∈ trim cs := by
      by_contra hnot
      rw [splitFirst, List.dropWhile_eq_nil_iff.mpr] at hfields
      · simp at hfields
      · intro c hc
        rw [bne_iff_ne]
        rintro rfl
        exact hnot hc
    obtain ⟨front, back, htrim, hfront⟩ := List.eq_append_cons_of_mem hmem
    rw [htrim, splitFirst_append_cons '|' hfront] at hfields
    have hbefore : '|' ∉ before := by
      intro hbar
      exact absurd (hblank _ (List.mem_append_left _ hbar)) (by decide)
    refine ⟨before ++ front, back ++ after, ?_, ?_, ?_⟩
    · rw [hcs, htrim]
      simp
    · rw [List.mem_append, not_or]
      exact ⟨hbefore, hfront⟩
    · rw [(List.cons.inj hfields).1, ← Option.some.inj h]
      unfold Domain.ofChars? at hd ⊢
      rw [trim_append_of_blank fun c hc => hblank c (List.mem_append_left _ hc)]
      exact hd
  next => cases h

end CompletionLog

/-- What is put behind a text with a line of the log does not make another record of it. -/
theorem Record.decodeFile_append {text : String} {k : JobKey} {c : Completion}
    (h : (CompletionLog.read text).lookup? k = some c) (more : String) (r : JobResult) :
    Record.decodeFile (text ++ more) = .ok r ↔ Record.decodeFile text = .ok r := by
  by_cases hfeed : '\n' ∈ text.toList
  · unfold Record.decodeFile
    rw [String.toList_append, head?_lines_append hfeed]
  -- a single line is one of the log, so the file is no record with or without the rest
  · rw [CompletionLog.lookup?_read_eq, splitOn_of_not_mem '\n' hfeed] at h
    obtain ⟨e, he, -⟩ := Option.map_eq_some_iff.mp h
    have hmem := List.mem_of_find?_eq_some he
    rw [List.mem_filterMap] at hmem
    obtain ⟨line, hline, hread⟩ := hmem
    rw [List.mem_singleton.mp hline] at hread
    obtain ⟨as, bs, htext, hbar, hd⟩ := CompletionLog.exists_domain_of_readLine? hread
    have has : '\n' ∉ as := by
      intro hmem
      rw [htext] at hfeed
      exact hfeed (List.mem_append_left _ hmem)
    have htext' : text = String.ofList (as ++ '|' :: bs) := by
      rw [← htext, String.ofList_toList]
    have hmore : text ++ more = String.ofList (as ++ '|' :: (bs ++ more.toList)) := by
      rw [← String.ofList_toList (s := text ++ more), String.toList_append, htext]
      simp
    constructor
    · intro hr
      rw [hmore] at hr
      exact absurd hr (Record.decodeFile_ne_ok hd hbar has _ r)
    · intro hr
      rw [htext'] at hr
      exact absurd hr (Record.decodeFile_ne_ok hd hbar has _ r)

end Signoff
