import Mathlib.Data.List.Dedup
import Signoff.LogFile
import Signoff.Proofs.Text.Separated
import Signoff.Proofs.Time

/-!
# Writing and reading the completion log

A line is read back with the name that it was written with, but for bars and line ends
(`readLine?_writeLine_eq`), so a name that a line can hold is read back as it is
(`readLine?_writeLine`).  A log knows the first line of each job, and lines that are put behind a
log that ends with a line do not touch what it knew (`lookup?_read_append`).
-/

namespace Signoff.CompletionLog

open Text Time

/-! ## Lines -/

/-- A line can hold the name: there are no blanks around it and no marks of the line in it. -/
structure IsName (name : String) : Prop where
  trimmed : trim name.toList = name.toList
  nonempty : name.toList ≠ []
  bar : '|' ∉ name.toList
  feed : '\n' ∉ name.toList
  carriage : '\r' ∉ name.toList

theorem sanitize_eq_self {name : String} (h : IsName name) :
    sanitize name.toList = name.toList := by
  unfold sanitize
  -- only bars and line ends are replaced
  refine (List.map_congr_left fun c hc => ?_).trans (List.map_id _)
  rw [if_neg]
  · rfl
  · simp only [Bool.or_eq_true, decide_eq_true_eq, not_or]
    exact ⟨⟨fun heq => h.bar (heq ▸ hc), fun heq => h.feed (heq ▸ hc)⟩,
      fun heq => h.carriage (heq ▸ hc)⟩

/-- A written instant has no blanks. -/
theorem not_blank_of_mem_write {t : Instant} {c : Char} (h : c ∈ t.write.toList) :
    isBlank c = false := by
  have hpadded : ∀ {width n}, c ∈ padded width n → isBlank c = false := fun hc =>
    not_blank_of_isDigit (isDigit_of_mem_padded hc)
  have hyear : ∀ {year}, c ∈ writeYear year → isBlank c = false := by
    intro year hc
    unfold writeYear at hc
    split at hc
    · exact hpadded hc
    · rcases List.mem_cons.mp hc with rfl | hc
      · split <;> decide
      · exact hpadded hc
  have hfraction : ∀ {nanos}, c ∈ writeFraction nanos → isBlank c = false := by
    intro nanos hc
    have hpoint : ∀ {width n}, c ∈ '.' :: padded width n → isBlank c = false := by
      intro width n hc
      rcases List.mem_cons.mp hc with rfl | hc
      · decide
      · exact hpadded hc
    unfold writeFraction at hc
    split at hc
    · simp at hc
    · split at hc
      · exact hpoint hc
      · split at hc <;> exact hpoint hc
  have hoffset : c ∈ "+00:00".toList → isBlank c = false := by
    intro hc
    have hlist : "+00:00".toList = ['+', '0', '0', ':', '0', '0'] := by decide
    rw [hlist] at hc
    simp only [List.mem_cons, List.not_mem_nil, or_false] at hc
    rcases hc with rfl | rfl | rfl | rfl | rfl | rfl <;> decide
  unfold Instant.write at h
  rw [String.toList_ofList] at h
  unfold Instant.writeLocal at h
  simp only [List.mem_append, List.mem_cons] at h
  -- an instant consists of padded numbers, the marks between them and the zone
  rcases h with ((((((h | rfl | h) | rfl | h) | rfl | h) | rfl | h) | rfl | h) | h) | h
  all_goals
    first
    | exact hpadded h
    | decide
    | skip
  · exact hyear h
  · exact hfraction h
  · exact hoffset h

/-- No mark of a line is left in a name that is put into one. -/
theorem not_mem_sanitize (cs : List Char) :
    '|' ∉ sanitize cs ∧ '\n' ∉ sanitize cs ∧ '\r' ∉ sanitize cs := by
  have hmark : ∀ c : Char, c = '|' ∨ c = '\n' ∨ c = '\r' → c ∉ sanitize cs := by
    intro c hc hmem
    obtain ⟨d, -, hd⟩ := List.mem_map.mp hmem
    split at hd
    next =>
      rw [← hd] at hc
      revert hc
      decide
    next hplain =>
      rw [hd] at hplain
      simp only [Bool.or_eq_true, decide_eq_true_eq, not_or] at hplain
      tauto
  exact ⟨hmark _ (by simp), hmark _ (by simp), hmark _ (by simp)⟩

theorem toList_writeLine (key : JobKey) (name : String) (t : Instant) :
    (writeLine key name t).toList = key.domain.name.toList ++ '|' :: (digitsOf key.index.toNat ++
      '|' :: (sanitize name.toList ++ '|' :: t.write.toList)) := by
  unfold writeLine
  rw [String.toList_ofList]
  simp only [join, List.append_assoc, List.cons_append, List.nil_append]

theorem getLast?_write (t : Instant) : t.write.toList.getLast? = some '0' := by
  unfold Instant.write
  rw [String.toList_ofList, List.getLast?_append]
  rfl

theorem getLast?_writeLine (key : JobKey) (name : String) (t : Instant) :
    (writeLine key name t).toList.getLast? = some '0' := by
  have hfront : (writeLine key name t).toList = (key.domain.name.toList ++ '|' ::
      (digitsOf key.index.toNat ++ '|' :: (sanitize name.toList ++ ['|']))) ++ t.write.toList := by
    rw [toList_writeLine]
    simp
  rw [hfront, List.getLast?_append, getLast?_write]
  rfl

/-- A line has no line end inside. -/
theorem not_lineEnd_of_mem_writeLine {key : JobKey} {name : String} {t : Instant} {c : Char}
    (h : c ∈ (writeLine key name t).toList) : c ≠ '\n' ∧ c ≠ '\r' := by
  have hdomain : ∀ d : Domain, '\n' ∉ d.name.toList ∧ '\r' ∉ d.name.toList := by
    intro d
    cases d <;> decide
  have hblank : ∀ {d : Char}, isBlank d = false → d ≠ '\n' ∧ d ≠ '\r' := by
    intro d hd
    constructor <;> (rintro rfl; exact absurd hd (by decide))
  obtain ⟨-, hfeed, hreturn⟩ := not_mem_sanitize name.toList
  rw [toList_writeLine] at h
  simp only [List.mem_append, List.mem_cons] at h
  rcases h with h | rfl | h | rfl | h | rfl | h
  · exact ⟨fun heq => (hdomain _).1 (heq ▸ h), fun heq => (hdomain _).2 (heq ▸ h)⟩
  · decide
  · exact hblank (not_blank_of_isDigit (isDigit_of_mem_digitsOf h))
  · decide
  · exact ⟨fun heq => hfeed (heq ▸ h), fun heq => hreturn (heq ▸ h)⟩
  · decide
  · exact hblank (not_blank_of_mem_write h)

/-- A line has no line feed and does not end with a carriage return. -/
theorem isLine_writeLine (key : JobKey) (name : String) (t : Instant) :
    '\n' ∉ (writeLine key name t).toList ∧
      (writeLine key name t).toList.getLast? ≠ some '\r' :=
  ⟨fun h => (not_lineEnd_of_mem_writeLine h).1 rfl,
    fun h => (not_lineEnd_of_mem_writeLine (List.mem_of_getLast? h)).2 rfl⟩

/-- The domain's name in a line. -/
theorem domain_of_name (d : Domain) : '|' ∉ d.name.toList ∧
    Domain.ofChars? d.name.toList = some d ∧
    ∀ c, d.name.toList.head? = some c → isBlank c = false := by
  refine ⟨?_, ?_, ?_⟩
  · cases d <;> decide
  · cases d <;> decide +kernel
  · intro c hc
    cases d <;> (rw [← Option.some.inj hc]; decide)

/-- A line is cut at its first three bars: neither the domain nor the number nor what is left of the
name has one. -/
theorem splitFirst_writeLine (key : JobKey) (name : String) (t : Instant) :
    splitFirst '|' 3 (writeLine key name t).toList =
      [key.domain.name.toList, digitsOf key.index.toNat, sanitize name.toList, t.write.toList] := by
  have hdigits : '|' ∉ digitsOf key.index.toNat := fun hc =>
    absurd (isDigit_of_mem_digitsOf hc) (by decide)
  rw [toList_writeLine, splitFirst_append_cons '|' (domain_of_name key.domain).1,
    splitFirst_append_cons '|' hdigits, splitFirst_append_cons '|' (not_mem_sanitize _).1,
    splitFirst]

/-- A line is read back with its key, and with what is left of the name. -/
theorem readLine?_writeLine_eq (key : JobKey) (name : String) (t : Instant) :
    readLine? (writeLine key name t).toList = (Instant.read? t.write.toList).bind fun time =>
      if (trim (sanitize name.toList)).isEmpty then none
      else some (key, ⟨String.ofList (trim (sanitize name.toList)), time⟩) := by
  obtain ⟨-, hdomain, hfirst⟩ := domain_of_name key.domain
  -- a line starts with a letter and ends with a digit, so trimming leaves it alone
  have htrimLine : trim (writeLine key name t).toList = (writeLine key name t).toList := by
    refine trim_eq_self (fun c hc => hfirst c ?_) (fun c hc => ?_)
    · rw [toList_writeLine, List.head?_append] at hc
      cases hname : key.domain.name.toList with
      | nil => cases hd : key.domain <;> simp [hd, Domain.name] at hname
      | cons d ds =>
        rw [hname] at hc
        exact hc
    · rw [getLast?_writeLine, Option.some.injEq] at hc
      rw [← hc]
      decide
  have htrimDigits : trim (digitsOf key.index.toNat) = digitsOf key.index.toNat :=
    trim_eq_self
      (fun c hc => not_blank_of_isDigit (isDigit_of_mem_digitsOf (List.mem_of_mem_head? hc)))
      (fun c hc => not_blank_of_isDigit (isDigit_of_mem_digitsOf (List.mem_of_mem_getLast? hc)))
  have htrimTime : trim t.write.toList = t.write.toList :=
    trim_eq_self (fun c hc => not_blank_of_mem_write (List.mem_of_mem_head? hc))
      (fun c hc => not_blank_of_mem_write (List.mem_of_mem_getLast? hc))
  unfold readLine?
  rw [htrimLine, splitFirst_writeLine]
  simp only [hdomain, htrimDigits, readUInt64?_digitsOf, htrimTime, Option.bind_eq_bind,
    Option.bind_some]
  rfl

/-- A line is read back as it was written. -/
theorem readLine?_writeLine {name : String} (h : IsName name) (key : JobKey) {t : Instant}
    (ht : t.IsPlain) : readLine? (writeLine key name t).toList = some (key, ⟨name, t⟩) := by
  have hname : name.toList.isEmpty = false := by
    rw [List.isEmpty_eq_false_iff]
    exact h.nonempty
  rw [readLine?_writeLine_eq, read?_write ht, sanitize_eq_self h, h.trimmed, hname,
    String.ofList_toList]
  rfl

/-- A line that is read back at all names the job, and the unit but for bars and line ends. -/
theorem eq_of_readLine?_writeLine {key : JobKey} {name : String} {t : Instant}
    {e : JobKey × Completion} (h : readLine? (writeLine key name t).toList = some e) :
    e.1 = key ∧ e.2.unitName.toList = trim (sanitize name.toList) := by
  rw [readLine?_writeLine_eq, Option.bind_eq_some_iff] at h
  obtain ⟨time, -, h⟩ := h
  split at h
  · cases h
  · rw [← Option.some.inj h]
    exact ⟨rfl, String.toList_ofList⟩

/-! ## Logs -/

namespace Completions

theorem lookup?_add (c : Completions) (e : JobKey × Completion) (k : JobKey) :
    (c.add e).lookup? k = (c.lookup? k).or (if e.1 = k then some e.2 else none) := by
  unfold add
  -- an entry is only added for a job without one
  by_cases hk : e.1 = k
  · rw [if_pos hk, hk]
    cases hc : c.lookup? k with
    | some entry =>
      rw [if_pos (by simp), hc]
      rfl
    | none =>
      rw [if_neg (by simp)]
      have hfind : c.entries.find? (·.1 == k) = none := by simpa [lookup?] using hc
      simp [lookup?, List.find?_append, hfind, hk]
  · rw [if_neg hk, Option.or_none]
    split
    · rfl
    · simp [lookup?, List.find?_append, hk]

/-- The first entry of a job counts. -/
theorem lookup?_foldl_add (es : List (JobKey × Completion)) (c : Completions) (k : JobKey) :
    (es.foldl add c).lookup? k =
      (c.lookup? k).or ((es.find? (·.1 == k)).map (·.2)) := by
  -- what is already there wins over the entries to come
  induction es generalizing c with
  | nil => simp
  | cons e es ih =>
    rw [List.foldl_cons, ih, lookup?_add, Option.or_assoc]
    congr 1
    by_cases hk : e.1 = k <;> simp [hk]

theorem lookup?_ofLines (ls : List (List Char)) (k : JobKey) :
    (ofLines ls).lookup? k = ((ls.filterMap readLine?).find? (·.1 == k)).map (·.2) := by
  unfold ofLines
  rw [lookup?_foldl_add]
  rfl

theorem isSome_lookup?_iff {c : Completions} {k : JobKey} :
    (c.lookup? k).isSome = true ↔ k ∈ c.entries.map (·.1) := by
  unfold lookup?
  rw [Option.isSome_map, List.find?_isSome, List.mem_map]
  simp only [beq_iff_eq]

/-- Each job has one entry. -/
theorem nodup_keys_foldl_add (es : List (JobKey × Completion)) {c : Completions}
    (h : (c.entries.map (·.1)).Nodup) : ((es.foldl add c).entries.map (·.1)).Nodup := by
  induction es generalizing c with
  | nil => exact h
  | cons e es ih =>
    refine ih ?_
    unfold add
    split
    · exact h
    next hnew =>
      rw [isSome_lookup?_iff] at hnew
      rw [List.map_append]
      exact h.append (List.nodup_singleton _) (List.disjoint_singleton.mpr hnew)

/-- The size of a log is the number of jobs that it knows. -/
theorem size_ofLines {ls : List (List Char)} {keys : List JobKey}
    (h : ∀ k, ((ofLines ls).lookup? k).isSome = true ↔ k ∈ keys) :
    (ofLines ls).size = keys.dedup.length := by
  have hnodup : ((ofLines ls).entries.map (·.1)).Nodup :=
    nodup_keys_foldl_add _ (c := empty) List.nodup_nil
  have hperm : ((ofLines ls).entries.map (·.1)).Perm keys.dedup := by
    rw [List.perm_ext_iff_of_nodup hnodup keys.nodup_dedup]
    intro k
    rw [List.mem_dedup, ← h k, isSome_lookup?_iff]
  rw [← hperm.length_eq, List.length_map]
  rfl

end Completions

/-! ## The text of a log -/

/-- Blanks around a line do not matter, and neither does how the line ends. -/
theorem readLine?_congr {l m : List Char} (h : trim l = trim m) : readLine? l = readLine? m := by
  unfold readLine?
  rw [h]

theorem readLine?_of_blank {l : List Char} (h : ∀ c ∈ l, isBlank c = true) :
    readLine? l = none := by
  have htrim := trim_append_blank [] h
  rw [List.nil_append] at htrim
  rw [readLine?_congr htrim]
  rfl

/-- What a log knows can be read off its pieces between line feeds. -/
theorem filterMap_lines (cs : List Char) :
    (lines cs).filterMap readLine? = (splitOn '\n' cs).filterMap readLine? := by
  obtain ⟨init, last, hpieces⟩ : ∃ init last, splitOn '\n' cs = init ++ [last] :=
    ⟨_, _, (List.dropLast_append_getLast (splitOn_ne_nil '\n' cs)).symm⟩
  have hinit : (init.map dropReturn).filterMap readLine? = init.filterMap readLine? := by
    rw [List.filterMap_map]
    exact List.filterMap_congr fun l _ => readLine?_congr (trim_dropReturn l)
  unfold lines
  dsimp only
  rw [hpieces, List.dropLast_concat, List.getLast?_concat, List.filterMap_append, hinit,
    List.filterMap_append]
  -- an empty piece at the end is no line, and reads as none
  cases last with
  | nil => rfl
  | cons c last => rfl

theorem lookup?_read_eq (text : String) (k : JobKey) : (read text).lookup? k =
    (((splitOn '\n' text.toList).filterMap readLine?).find? (·.1 == k)).map (·.2) := by
  unfold read
  rw [Completions.lookup?_ofLines, filterMap_lines]

/-- The text ends with a line feed, but for blanks behind it. -/
def IsClosed (text : String) : Prop :=
  ∀ last, (splitOn '\n' text.toList).getLast? = some last → ∀ c ∈ last, isBlank c = true

/-- What is put behind a log that ends with a line is read as a log of its own. -/
theorem lookup?_read_append {text : String} (h : IsClosed text) (more : String) (k : JobKey) :
    (read (text ++ more)).lookup? k = ((read text).lookup? k).or ((read more).lookup? k) := by
  obtain ⟨init, last, hpieces⟩ : ∃ init last, splitOn '\n' text.toList = init ++ [last] :=
    ⟨_, _, (List.dropLast_append_getLast (splitOn_ne_nil '\n' text.toList)).symm⟩
  obtain ⟨first, rest, hmore⟩ := List.exists_cons_of_ne_nil (splitOn_ne_nil '\n' more.toList)
  have hblank : ∀ c ∈ last, isBlank c = true := h last (by rw [hpieces, List.getLast?_concat])
  -- the last piece of the log is blank, so it goes unnoticed in front of the first new line
  have hread : (splitOn '\n' (text ++ more).toList).filterMap readLine? =
      (splitOn '\n' text.toList).filterMap readLine? ++
        (splitOn '\n' more.toList).filterMap readLine? := by
    have hfirst : readLine? (last ++ first) = readLine? first :=
      readLine?_congr (trim_append_of_blank hblank first)
    rw [String.toList_append, splitOn_append '\n' hpieces hmore, hpieces, hmore,
      List.filterMap_append, List.filterMap_append, List.filterMap_cons, hfirst,
      List.filterMap_cons_none (readLine?_of_blank hblank), List.filterMap_nil, List.append_nil,
      List.filterMap_cons]
  rw [lookup?_read_eq, lookup?_read_eq, lookup?_read_eq, hread, List.find?_append, Option.map_or]

/-! ## Logs of written lines -/

def line (e : JobKey × Completion) : String :=
  writeLine e.1 e.2.unitName e.2.completedAt ++ "\n"

/-- The lines of jobs one after the other. -/
def textOf (es : List (JobKey × Completion)) : String :=
  String.ofList (es.flatMap fun e => (line e).toList)

@[simp] theorem textOf_nil : textOf [] = "" := rfl

theorem textOf_append (es fs : List (JobKey × Completion)) :
    textOf (es ++ fs) = textOf es ++ textOf fs := by
  unfold textOf
  rw [List.flatMap_append, String.ofList_append]

theorem textOf_singleton (e : JobKey × Completion) : textOf [e] = line e := by
  unfold textOf
  rw [List.flatMap_singleton, String.ofList_toList]

/-- Written lines are found between the line feeds of their text. -/
theorem splitOn_textOf (es : List (JobKey × Completion)) : splitOn '\n' (textOf es).toList =
    (es.map fun e => (writeLine e.1 e.2.unitName e.2.completedAt).toList) ++ [[]] := by
  have hfeed : "\n".toList = ['\n'] := by decide
  have hlines : (textOf es).toList =
      (es.map fun e => (writeLine e.1 e.2.unitName e.2.completedAt).toList).flatMap
        fun l => l ++ ['\n'] := by
    unfold textOf
    rw [String.toList_ofList, List.flatMap_map]
    refine List.flatMap_congr fun e _ => ?_
    rw [line, String.toList_append, hfeed]
  rw [hlines]
  refine splitOn_flatMap fun l hl => ?_
  obtain ⟨e, -, rfl⟩ := List.mem_map.mp hl
  exact (isLine_writeLine e.1 e.2.unitName e.2.completedAt).1

/-- A log of written lines has the first completion of each job whose line can be read. -/
theorem lookup?_read_textOf (es : List (JobKey × Completion)) (k : JobKey) :
    (read (textOf es)).lookup? k =
      ((es.filterMap fun e => readLine? (writeLine e.1 e.2.unitName e.2.completedAt).toList).find?
        (·.1 == k)).map (·.2) := by
  rw [lookup?_read_eq, splitOn_textOf, List.filterMap_append, List.filterMap_map,
    List.filterMap_cons_none (readLine?_of_blank (l := []) nofun), List.filterMap_nil, List.append_nil,
    Function.comp_def]

/-- A log of written lines has the first completion of each job. -/
theorem lookup?_read {es : List (JobKey × Completion)}
    (h : ∀ e ∈ es, IsName e.2.unitName ∧ e.2.completedAt.IsPlain) (k : JobKey) :
    (read (textOf es)).lookup? k = (es.find? (·.1 == k)).map (·.2) := by
  have hread : (es.filterMap fun e =>
      readLine? (writeLine e.1 e.2.unitName e.2.completedAt).toList) = es := by
    refine (List.filterMap_congr fun e he => ?_).trans List.filterMap_some
    rw [readLine?_writeLine (h e he).1 e.1 (h e he).2]
  rw [lookup?_read_textOf, hread]

end Signoff.CompletionLog
