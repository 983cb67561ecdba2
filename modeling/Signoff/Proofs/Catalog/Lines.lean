import Mathlib.Data.List.Basic
import Mathlib.Data.List.Forall2
import Mathlib.Data.List.GetD
import Signoff.Config.Basic
import Signoff.Proofs.Catalog

/-!
# The lines of a catalog

A catalog is read line by line. It is refused exactly if a line with data has too few fields or an
empty one among those that every row needs, and the fault is that of the first such line
(`rejection_exact`). The fields of a line are its columns as written, unless a delimiter stands among
the blanks in front of it: then as many columns are lost there (`columns_of_accepted`).
-/

namespace Signoff

open Text

theorem Config.delimiter_ne_feed {c : Config} (h : c.validate = .ok ()) : c.delimiter ≠ '\n' := by
  intro hfeed
  unfold validate at h
  rw [hfeed] at h
  split at h
  · exact nomatch h
  · split at h
    · exact nomatch h
    · exact nomatch h

namespace Catalog

/-! ## Lines with data -/

/-- The line with a number, counted from one. -/
def IsLine (text : List Char) (n : Nat) (line : List Char) : Prop :=
  ∃ i, n = i + 1 ∧ (lines text)[i]? = some line

/-- Neither blank nor a comment. -/
def IsContent (line : List Char) : Prop := trim line ≠ [] ∧ (trim line).head? ≠ some '#'

def fieldsOf (delimiter : Char) (line : List Char) : List (List Char) :=
  (splitOn delimiter (trim line)).map trim

/-- The fields of a line with data. Only the first line with content can be a heading, which is
known by its first field. -/
structure IsDataLine (delimiter : Char) (text : List Char) (n : Nat)
    (fields : List (List Char)) : Prop where
  content : ∃ line, IsLine text n line ∧ IsContent line ∧ fields = fieldsOf delimiter line
  notHeading : ¬ (fields.head?.map lower = some "unit".toList ∧
    ∀ m < n, ∀ line, IsLine text m line → ¬ IsContent line)

theorem isComment_trim (line : List Char) : isComment (trim line) = false ↔ IsContent line := by
  unfold isComment IsContent
  rw [Bool.or_eq_false_iff, List.isEmpty_eq_false_iff, beq_eq_false_iff_ne]

theorem isHeading_iff (fields : List (List Char)) :
    isHeading fields = true ↔ fields.head?.map lower = some "unit".toList := by
  have hunit : lower "unit".toList = "unit".toList := by decide
  unfold isHeading sameLetters
  rw [hunit]
  cases fields.head? <;> simp

theorem mem_dataLines_iff {delimiter : Char} {text : List Char} {n : Nat}
    {fields : List (List Char)} :
    (n, fields) ∈ dataLines delimiter text ↔
      ∃ line, IsLine text n line ∧ IsContent line ∧ fields = fieldsOf delimiter line := by
  unfold dataLines
  rw [List.mem_filterMap]
  constructor
  · rintro ⟨⟨line, i⟩, hmem, hentry⟩
    dsimp only at hentry
    cases hcomment : isComment (trim line) with
    | true =>
      rw [hcomment] at hentry
      exact nomatch hentry
    | false =>
      rw [hcomment] at hentry
      obtain ⟨rfl, rfl⟩ := Prod.mk.inj (Option.some.inj hentry)
      exact ⟨line, ⟨i, rfl, List.mem_zipIdx_iff_getElem?.mp hmem⟩,
        (isComment_trim line).mp hcomment, rfl⟩
  · rintro ⟨line, ⟨i, rfl, hline⟩, hcontent, rfl⟩
    refine ⟨(line, i), List.mem_zipIdx_iff_getElem?.mpr hline, ?_⟩
    dsimp only
    rw [(isComment_trim line).mpr hcontent]
    rfl

-- the lines keep their order, so that no number comes twice
theorem pairwise_dataLines (delimiter : Char) (text : List Char) :
    (dataLines delimiter text).Pairwise (·.1 < ·.1) := by
  have hnumbers : (lines text).zipIdx.Pairwise (·.2 < ·.2) := by
    rw [← List.pairwise_map, List.zipIdx_map_snd]
    exact List.pairwise_lt_range'
  unfold dataLines
  rw [List.pairwise_filterMap]
  refine hnumbers.imp ?_
  rintro ⟨line, i⟩ ⟨other, j⟩ hij e he f hf
  dsimp only at he hf hij
  split at he
  · exact nomatch he
  · split at hf
    · exact nomatch hf
    · rw [← Option.some.inj he, ← Option.some.inj hf]
      exact Nat.succ_lt_succ hij

theorem mem_withoutHeading_iff {entries : List (Nat × List (List Char))}
    (h : entries.Pairwise (·.1 < ·.1)) {n : Nat} {fields : List (List Char)} :
    (n, fields) ∈ withoutHeading entries ↔
      (n, fields) ∈ entries ∧ ¬ (isHeading fields = true ∧ ∀ e ∈ entries, ¬ e.1 < n) := by
  cases entries with
  | nil => simp [withoutHeading]
  | cons first rest =>
    obtain ⟨hfirst, -⟩ := List.pairwise_cons.mp h
    -- only the first entry has no other one in front of it
    have hbehind : (n, fields) ∈ rest → ¬ ∀ e ∈ first :: rest, ¬ e.1 < n := fun hmem hall =>
      hall first List.mem_cons_self (hfirst _ hmem)
    have hfront : (n, fields) = first → ∀ e ∈ first :: rest, ¬ e.1 < n := by
      rintro rfl e he
      rcases List.mem_cons.mp he with rfl | he
      · exact Nat.lt_irrefl _
      · exact Nat.lt_asymm (hfirst e he)
    have hirrefl : (n, fields) = first → (n, fields) ∉ rest := by
      rintro rfl hmem
      exact Nat.lt_irrefl n (hfirst _ hmem)
    rw [withoutHeading, List.mem_cons]
    by_cases hheading : isHeading first.2 = true
    · rw [if_pos hheading]
      constructor
      · exact fun hmem => ⟨Or.inr hmem, fun hall => hbehind hmem hall.2⟩
      · rintro ⟨heq | hmem, hnot⟩
        · exact absurd ⟨by rw [← heq] at hheading; exact hheading, hfront heq⟩ hnot
        · exact hmem
    · rw [if_neg hheading, List.mem_cons]
      refine ⟨fun hmem => ⟨hmem, fun hall => ?_⟩, And.left⟩
      rcases hmem with heq | hmem
      · exact hheading (by rw [← heq]; exact hall.1)
      · exact hbehind hmem hall.2

/-- The lines that are read as rows, with their numbers. -/
def entries (delimiter : Char) (text : String) : List (Nat × List (List Char)) :=
  withoutHeading (dataLines delimiter text.toList)

theorem pairwise_entries (delimiter : Char) (text : String) :
    (entries delimiter text).Pairwise (·.1 < ·.1) := by
  unfold entries
  refine List.Pairwise.sublist ?_ (pairwise_dataLines delimiter text.toList)
  cases dataLines delimiter text.toList with
  | nil => exact List.Sublist.refl _
  | cons first rest =>
    rw [withoutHeading]
    split
    · exact List.sublist_cons_self first rest
    · exact List.Sublist.refl _

theorem mem_entries_iff {delimiter : Char} {text : String} {n : Nat} {fields : List (List Char)} :
    (n, fields) ∈ entries delimiter text ↔ IsDataLine delimiter text.toList n fields := by
  have hfront : (∀ e ∈ dataLines delimiter text.toList, ¬ e.1 < n) ↔
      ∀ m < n, ∀ line, IsLine text.toList m line → ¬ IsContent line := by
    constructor
    · intro h m hm line hline hcontent
      exact h (m, _) (mem_dataLines_iff.mpr ⟨line, hline, hcontent, rfl⟩) hm
    · rintro h ⟨m, other⟩ he hm
      obtain ⟨line, hline, hcontent, -⟩ := mem_dataLines_iff.mp he
      exact h m hm line hline hcontent
  unfold entries
  rw [mem_withoutHeading_iff (pairwise_dataLines delimiter text.toList), mem_dataLines_iff,
    isHeading_iff, hfront]
  exact ⟨fun h => ⟨h.1, h.2⟩, fun h => ⟨h.content, h.notHeading⟩⟩

/-! ## Rows -/

/-- A line with too few fields, or without one that every row needs. -/
def Offends (fields : List (List Char)) : Prop :=
  fields.length < 3 ∨ ∃ k < 3, fields[k]? = some []

/-- The fault of a line: too few fields come before an empty one, and the leftmost empty one
counts. -/
inductive IsFault (n : Nat) (fields : List (List Char)) : RowFault → Prop
  | missing (h : fields.length < 3) : IsFault n fields (.missingFields n 3 fields.length)
  | empty (h : 3 ≤ fields.length) (k : Nat) (name : String)
      (hname : ["unit", "chiplet", "workarea"][k]? = some name) (hempty : fields[k]? = some [])
      (hleft : ∀ j < k, fields[j]? ≠ some []) : IsFault n fields (.emptyField n name)

/-- The row that the fields of a line make. Missing fields are empty, and an empty tag is none. -/
structure Row.Shows (row : Row) (fields : List (List Char)) : Prop where
  name : row.name.toList = fields.getD 0 []
  chiplet : row.chiplet.toList = fields.getD 1 []
  workarea : row.workarea.text.toList = fields.getD 2 []
  rtlTag : (row.rtlTag.getD "").toList = fields.getD 3 [] ∧ row.rtlTag ≠ some ""
  releaseTypes : row.releaseTypes.map String.toList =
    ((splitOn ';' (fields.getD 4 [])).map trim).filter (· ≠ [])
  releaseDate : row.releaseDate.toList = fields.getD 5 []
  releaseUser : row.releaseUser.toList = fields.getD 6 []

section EmptyField

variable {names : List String} {fields : List (List Char)}

-- the leftmost field that is empty, of those with a name
theorem findSome?_empty_eq_some {name : String} :
    ((fields.zip names).findSome? fun e => if e.1.isEmpty then some e.2 else none) = some name ↔
      ∃ k : Nat, names[k]? = some name ∧ fields[k]? = some [] ∧
        ∀ j < k, fields[j]? ≠ some [] := by
  induction fields generalizing names with
  | nil => simp
  | cons field fields ih =>
    cases names with
    | nil => simp
    | cons first names =>
      rw [List.zip_cons_cons, List.findSome?_cons]
      cases field with
      | nil =>
        constructor
        · intro h
          exact ⟨0, h, rfl, fun j hj => absurd hj (Nat.not_lt_zero j)⟩
        · rintro ⟨k, hname, -, hleft⟩
          cases k with
          | zero => exact hname
          | succ k => exact absurd rfl (hleft 0 (Nat.succ_pos k))
      | cons c cs =>
        change (fields.zip names).findSome? _ = some name ↔ _
        rw [ih]
        constructor
        · rintro ⟨k, hname, hempty, hleft⟩
          refine ⟨k + 1, hname, hempty, fun j hj => ?_⟩
          cases j with
          | zero => simp
          | succ j => exact hleft j (Nat.lt_of_succ_lt_succ hj)
        · rintro ⟨k, hname, hempty, hleft⟩
          cases k with
          | zero => simp at hempty
          | succ k => exact ⟨k, hname, hempty, fun j hj => hleft (j + 1) (Nat.succ_lt_succ hj)⟩

theorem findSome?_empty_eq_none :
    ((fields.zip names).findSome? fun e => if e.1.isEmpty then some e.2 else none) = none ↔
      ∀ k < names.length, fields[k]? ≠ some [] := by
  induction fields generalizing names with
  | nil => simp
  | cons field fields ih =>
    cases names with
    | nil => simp
    | cons first names =>
      rw [List.zip_cons_cons, List.findSome?_cons]
      cases field with
      | nil =>
        constructor
        · exact fun h => nomatch h
        · exact fun h => absurd rfl (h 0 (Nat.succ_pos _))
      | cons c cs =>
        change (fields.zip names).findSome? _ = none ↔ _
        rw [ih]
        constructor
        · intro h k hk
          cases k with
          | zero => simp
          | succ k => exact h k (Nat.lt_of_succ_lt_succ hk)
        · exact fun h k hk => h (k + 1) (Nat.succ_lt_succ hk)

end EmptyField

theorem offends_of_isFault {n : Nat} {fields : List (List Char)} {fault : RowFault}
    (h : IsFault n fields fault) : Offends fields := by
  cases h with
  | missing h => exact Or.inl h
  | empty h k name hname hempty hleft =>
    have hk : k < 3 := (List.getElem?_eq_some_iff.mp hname).1
    exact Or.inr ⟨k, hk, hempty⟩

theorem tag_of_field (cs : List Char) :
    let tag := if cs.isEmpty then none else some (String.ofList cs)
    (tag.getD "").toList = cs ∧ tag ≠ some "" := by
  cases cs with
  | nil => exact ⟨rfl, fun h => nomatch h⟩
  | cons c cs =>
    refine ⟨String.toList_ofList, fun h => ?_⟩
    have hnil := congrArg String.toList (Option.some.inj h)
    rw [String.toList_ofList] at hnil
    exact nomatch hnil

theorem map_toList_readFlags (cs : List Char) :
    (readFlags cs).map String.toList = ((splitOn ';' cs).map trim).filter (· ≠ []) := by
  have hback : String.toList ∘ String.ofList = id := funext fun _ => String.toList_ofList
  unfold readFlags
  rw [List.map_map, hback, List.map_id]
  apply List.filter_congr
  intro flag _
  cases flag <;> rfl

theorem shows_of_readRow {n : Nat} {fields : List (List Char)} {row : Row}
    (h : readRow n fields = .ok row) : row.Shows fields := by
  unfold readRow at h
  split at h
  · exact nomatch h
  · split at h
    · exact nomatch h
    · rw [← Except.ok.inj h]
      exact ⟨String.toList_ofList, String.toList_ofList, String.toList_ofList, tag_of_field _,
        map_toList_readFlags _, String.toList_ofList, String.toList_ofList⟩

theorem readRow_cases (n : Nat) (fields : List (List Char)) :
    (∃ fault, readRow n fields = .error fault ∧ IsFault n fields fault) ∨
      ∃ row, readRow n fields = .ok row ∧ ¬ Offends fields := by
  unfold readRow
  change (∃ fault, (if fields.length < 3 then _ else _) = _ ∧ _) ∨
    ∃ row, (if fields.length < 3 then _ else _) = _ ∧ _
  by_cases hlength : fields.length < 3
  · exact Or.inl ⟨_, if_pos hlength, .missing hlength⟩
  · rw [if_neg hlength]
    cases hempty : emptyField? fields with
    | some name =>
      obtain ⟨k, hname, hk, hleft⟩ := findSome?_empty_eq_some.mp hempty
      exact Or.inl ⟨_, rfl, .empty (Nat.le_of_not_lt hlength) k name hname hk hleft⟩
    | none =>
      refine Or.inr ⟨_, rfl, ?_⟩
      rintro (h | ⟨k, hk, h⟩)
      · exact hlength h
      · exact findSome?_empty_eq_none.mp hempty k hk h

theorem isOk_readRow_iff {n : Nat} {fields : List (List Char)} :
    (∃ row, readRow n fields = .ok row) ↔ ¬ Offends fields := by
  rcases readRow_cases n fields with ⟨fault, hread, hfault⟩ | ⟨row, hread, hfine⟩
  · refine iff_of_false ?_ (not_not.mpr (offends_of_isFault hfault))
    rintro ⟨row, hrow⟩
    rw [hread] at hrow
    exact nomatch hrow
  · exact iff_of_true ⟨row, hread⟩ hfine

theorem isFault_unique {n : Nat} {fields : List (List Char)} {fault other : RowFault}
    (h : IsFault n fields fault) (hother : IsFault n fields other) : fault = other := by
  cases h with
  | missing h =>
    cases hother with
    | missing => rfl
    | empty h' => exact absurd h (Nat.not_lt.mpr h')
  | empty h k name hname hempty hleft =>
    cases hother with
    | missing h' => exact absurd h' (Nat.not_lt.mpr h)
    | empty h' j name' hname' hempty' hleft' =>
      have hjk : j = k := Nat.le_antisymm (Nat.le_of_not_lt fun hlt => hleft' k hlt hempty)
        (Nat.le_of_not_lt fun hlt => hleft j hlt hempty')
      rw [hjk, hname] at hname'
      rw [Option.some.inj hname']

theorem readRow_eq_error_iff {n : Nat} {fields : List (List Char)} {fault : RowFault} :
    readRow n fields = .error fault ↔ IsFault n fields fault := by
  rcases readRow_cases n fields with ⟨other, hread, hother⟩ | ⟨row, hread, hfine⟩
  · rw [hread]
    constructor
    · exact fun h => Except.error.inj h ▸ hother
    · exact fun h => congrArg _ (isFault_unique hother h)
  · refine iff_of_false (fun h => ?_) fun h => hfine (offends_of_isFault h)
    rw [hread] at h
    exact nomatch h

/-! ## Rejection -/

section MapM

variable {ε α β : Type} {f : α → Except ε β}

theorem mapM_cons_of_error {a : α} {e : ε} (h : f a = .error e) (as : List α) :
    (a :: as).mapM f = .error e := by
  rw [List.mapM_cons, h]
  rfl

theorem mapM_cons_of_ok {a : α} {b : β} (h : f a = .ok b) (as : List α) :
    (a :: as).mapM f = (as.mapM f).map (b :: ·) := by
  rw [List.mapM_cons, h]
  cases as.mapM f <;> rfl

theorem forall₂_of_mapM_eq_ok {as : List α} {bs : List β} (h : as.mapM f = .ok bs) :
    List.Forall₂ (fun a b => f a = .ok b) as bs := by
  induction as generalizing bs with
  | nil =>
    rw [List.mapM_nil] at h
    rw [← Except.ok.inj h]
    exact .nil
  | cons a as ih =>
    cases ha : f a with
    | error e =>
      rw [mapM_cons_of_error ha] at h
      exact nomatch h
    | ok b =>
      rw [mapM_cons_of_ok ha] at h
      cases has : as.mapM f with
      | error e =>
        rw [has] at h
        exact nomatch h
      | ok rest =>
        rw [has] at h
        rw [← Except.ok.inj h]
        exact .cons ha (ih has)

/-- The first member that is refused gives the error. -/
theorem mapM_eq_error_iff {as : List α} {e : ε} :
    as.mapM f = .error e ↔
      ∃ before a after, as = before ++ a :: after ∧ f a = .error e ∧
        ∀ b ∈ before, ∃ r, f b = .ok r := by
  constructor
  · intro h
    induction as with
    | nil =>
      rw [List.mapM_nil] at h
      exact nomatch h
    | cons first as ih =>
      -- a member that is taken leaves the error to those behind it
      cases hfirst : f first with
      | error e' =>
        rw [mapM_cons_of_error hfirst] at h
        refine ⟨[], first, as, rfl, ?_, fun b hb => absurd hb List.not_mem_nil⟩
        exact hfirst.trans (congrArg _ (Except.error.inj h))
      | ok r =>
        rw [mapM_cons_of_ok hfirst] at h
        have hrest : as.mapM f = .error e := by
          cases has : as.mapM f with
          | error e' =>
            rw [has] at h
            exact congrArg _ (Except.error.inj h)
          | ok rest =>
            rw [has] at h
            exact nomatch h
        obtain ⟨before, a, after, rfl, ha, hbefore⟩ := ih hrest
        refine ⟨first :: before, a, after, rfl, ha, List.forall_mem_cons.mpr ⟨⟨r, hfirst⟩, hbefore⟩⟩
  · rintro ⟨before, a, after, rfl, ha, hbefore⟩
    induction before with
    | nil => exact mapM_cons_of_error ha after
    | cons b before ih =>
      obtain ⟨⟨r, hr⟩, hrest⟩ := List.forall_mem_cons.mp hbefore
      rw [List.cons_append, mapM_cons_of_ok hr, ih hrest]
      rfl

end MapM

variable {text : String} {delimiter : Char}

theorem readRows_eq (text : String) (delimiter : Char) :
    readRows text delimiter = (entries delimiter text).mapM fun e => readRow e.1 e.2 := rfl

theorem readRows_eq_error_iff {fault : RowFault} :
    readRows text delimiter = .error fault ↔
      ∃ n fields, IsDataLine delimiter text.toList n fields ∧ IsFault n fields fault ∧
        ∀ m < n, ∀ earlier, IsDataLine delimiter text.toList m earlier → ¬ Offends earlier := by
  have hsorted := pairwise_entries delimiter text
  rw [readRows_eq, mapM_eq_error_iff]
  constructor
  · rintro ⟨before, ⟨n, fields⟩, after, heq, hfault, hbefore⟩
    rw [heq, List.pairwise_append, List.pairwise_cons] at hsorted
    refine ⟨n, fields, mem_entries_iff.mp (by rw [heq]; simp), readRow_eq_error_iff.mp hfault,
      fun m hm earlier hearlier => ?_⟩
    -- a line with a smaller number is neither this one nor behind it
    have hmem := mem_entries_iff.mpr hearlier
    rw [heq] at hmem
    rcases List.mem_append.mp hmem with hmem | hmem
    · exact isOk_readRow_iff.mp (hbefore _ hmem)
    · rcases List.mem_cons.mp hmem with hmem | hmem
      · exact absurd (congrArg Prod.fst hmem) (Nat.ne_of_lt hm)
      · exact absurd (hsorted.2.1.1 _ hmem) (Nat.lt_asymm hm)
  · rintro ⟨n, fields, hdata, hfault, hearlier⟩
    obtain ⟨before, after, heq⟩ := List.append_of_mem (mem_entries_iff.mpr hdata)
    rw [heq, List.pairwise_append] at hsorted
    refine ⟨before, (n, fields), after, heq, readRow_eq_error_iff.mpr hfault, ?_⟩
    rintro ⟨m, earlier⟩ hmem
    have hm : m < n := hsorted.2.2 _ hmem _ List.mem_cons_self
    have hentry : (m, earlier) ∈ entries delimiter text := by
      rw [heq]
      exact List.mem_append_left _ hmem
    exact isOk_readRow_iff.mpr (hearlier m hm earlier (mem_entries_iff.mp hentry))

theorem forall₂_of_readRows {rows : List Row} (h : readRows text delimiter = .ok rows) :
    List.Forall₂ (fun e row => readRow e.1 e.2 = .ok row) (entries delimiter text) rows :=
  forall₂_of_mapM_eq_ok h

theorem exists_error_iff :
    (∃ fault, readRows text delimiter = .error fault) ↔
      ∃ n fields, IsDataLine delimiter text.toList n fields ∧ Offends fields := by
  constructor
  · rintro ⟨fault, h⟩
    obtain ⟨n, fields, hdata, hfault, -⟩ := readRows_eq_error_iff.mp h
    exact ⟨n, fields, hdata, offends_of_isFault hfault⟩
  · rintro ⟨n, fields, hdata, hoffends⟩
    cases hread : readRows text delimiter with
    | error fault => exact ⟨fault, rfl⟩
    | ok rows =>
      have hrows := forall₂_of_readRows hread
      obtain ⟨i, hi, hget⟩ := List.getElem_of_mem (mem_entries_iff.mpr hdata)
      have hrow := hrows.get hi (hrows.length_eq ▸ hi)
      rw [List.get_eq_getElem, hget] at hrow
      exact absurd hoffends (isOk_readRow_iff.mp ⟨_, hrow⟩)

/-- A catalog is refused exactly if a line with data offends, with the fault of the first such line;
else each line with data makes a row. -/
theorem rejection_exact (text : String) (delimiter : Char) :
    ((∃ fault, readRows text delimiter = .error fault) ↔
      ∃ n fields, IsDataLine delimiter text.toList n fields ∧ Offends fields) ∧
    (∀ fault, readRows text delimiter = .error fault ↔
      ∃ n fields, IsDataLine delimiter text.toList n fields ∧ IsFault n fields fault ∧
        ∀ m < n, ∀ earlier, IsDataLine delimiter text.toList m earlier → ¬ Offends earlier) ∧
    ∀ rows, readRows text delimiter = .ok rows →
      ∃ data : List (Nat × List (List Char)), data.Pairwise (·.1 < ·.1) ∧
        (∀ n fields, (n, fields) ∈ data ↔ IsDataLine delimiter text.toList n fields) ∧
        List.Forall₂ (fun e row => row.Shows e.2) data rows := by
  refine ⟨exists_error_iff, fun fault => readRows_eq_error_iff, fun rows h => ?_⟩
  refine ⟨entries delimiter text, pairwise_entries delimiter text, fun n fields => mem_entries_iff,
    ?_⟩
  exact (forall₂_of_readRows h).imp fun e row => shows_of_readRow

/-! ## Columns -/

/-- The text between two delimiters of a line, or one of its ends, without the blanks around it. -/
def column (delimiter : Char) (line : List Char) (k : Nat) : List Char :=
  trim ((splitOn delimiter line).getD k [])

theorem getD_map_trim (delimiter : Char) (cs : List Char) (k : Nat) :
    ((splitOn delimiter cs).map trim).getD k [] = column delimiter cs k := by
  have hmap := List.getD_map (n := k) (splitOn delimiter cs) [] trim
  rwa [trim_nil] at hmap

theorem trim_eq_nil_of_blank {cs : List Char} (h : ∀ c ∈ cs, isBlank c = true) : trim cs = [] :=
  trim_eq_nil_iff.mpr (List.all_eq_true.mpr h)

theorem column_of_blank {cs : List Char} (h : ∀ c ∈ cs, isBlank c = true) (delimiter : Char)
    (k : Nat) : column delimiter cs k = [] := by
  apply trim_eq_nil_of_blank
  intro c hc
  rw [List.getD_eq_getElem?_getD] at hc
  cases hpiece : (splitOn delimiter cs)[k]? with
  | none =>
    rw [hpiece] at hc
    exact absurd hc List.not_mem_nil
  | some piece =>
    rw [hpiece] at hc
    exact h c ((infix_of_mem_splitOn (List.mem_of_getElem? hpiece)).subset hc)

/-- A blank in front of a line goes into its first column, where it does not show, or else makes one
more column. -/
theorem column_cons_blank {c : Char} (hc : isBlank c = true) (delimiter : Char) (cs : List Char)
    (k : Nat) :
    column delimiter (c :: cs) (k + if c == delimiter then 1 else 0) = column delimiter cs k := by
  unfold column
  rw [splitOn]
  by_cases hsep : c = delimiter
  · rw [if_pos hsep, if_pos (beq_iff_eq.mpr hsep), List.getD_cons_succ]
  · obtain ⟨piece, rest, hpieces⟩ := List.exists_cons_of_ne_nil (splitOn_ne_nil delimiter cs)
    rw [if_neg hsep, if_neg (fun h => hsep (eq_of_beq h)), hpieces]
    cases k with
    | zero =>
      have hfront : ∀ b ∈ [c], isBlank b = true := List.forall_mem_singleton.mpr hc
      exact trim_append_of_blank hfront piece
    | succ k => rfl

theorem column_blank_append {before : List Char} (h : ∀ c ∈ before, isBlank c = true)
    (delimiter : Char) (cs : List Char) (k : Nat) :
    column delimiter (before ++ cs) (k + before.count delimiter) = column delimiter cs k := by
  induction before generalizing k with
  | nil => rfl
  | cons c before ih =>
    obtain ⟨hc, hbefore⟩ := List.forall_mem_cons.mp h
    rw [List.cons_append, List.count_cons, ← Nat.add_assoc, column_cons_blank hc, ih hbefore]

theorem column_append_blank {after : List Char} (h : ∀ c ∈ after, isBlank c = true)
    (delimiter : Char) (cs : List Char) (k : Nat) :
    column delimiter (cs ++ after) k = column delimiter cs k := by
  have hcs := (List.dropLast_append_getLast (splitOn_ne_nil delimiter cs)).symm
  generalize (splitOn delimiter cs).dropLast = init at hcs
  generalize (splitOn delimiter cs).getLast _ = last at hcs
  obtain ⟨first, rest, hafter⟩ := List.exists_cons_of_ne_nil (splitOn_ne_nil delimiter after)
  have hblank : ∀ piece ∈ first :: rest, ∀ c ∈ piece, isBlank c = true := by
    intro piece hpiece c hc
    rw [← hafter] at hpiece
    exact h c ((infix_of_mem_splitOn hpiece).subset hc)
  unfold column
  rw [splitOn_append delimiter hcs hafter, hcs]
  rcases Nat.lt_or_ge k init.length with hk | hk
  · rw [List.getD_append _ _ _ _ hk, List.getD_append _ _ _ _ hk]
  · rw [List.getD_append_right _ _ _ _ hk, List.getD_append_right _ _ _ _ hk]
    cases k - init.length with
    | zero => exact trim_append_blank last (hblank first List.mem_cons_self)
    | succ j =>
      -- behind the last column of the line, there are only blank ones
      rw [List.getD_cons_succ, List.getD_cons_succ, List.getD_nil, trim_nil]
      apply trim_eq_nil_of_blank
      rw [List.getD_eq_getElem?_getD]
      cases hpiece : rest[j]? with
      | none => exact fun c hc => absurd hc List.not_mem_nil
      | some piece =>
        exact hblank piece (List.mem_cons_of_mem _ (List.mem_of_getElem? hpiece))

/-- The fields of a line are its columns behind those that stand among the blanks in front. -/
theorem getD_fieldsOf_eq_column (delimiter : Char) (line : List Char) (k : Nat) :
    (fieldsOf delimiter line).getD k [] =
      column delimiter line (k + (line.takeWhile isBlank).count delimiter) := by
  have hbefore : ∀ c ∈ line.takeWhile isBlank, isBlank c = true :=
    fun c hc => List.mem_takeWhile_imp hc
  obtain ⟨after, hafter, htrim⟩ := exists_blanks_trimStart line
  have hline : line.takeWhile isBlank ++ (trim line ++ after) = line := by
    rw [← htrim]
    exact List.takeWhile_append_dropWhile
  calc (fieldsOf delimiter line).getD k []
      = column delimiter (trim line) k := getD_map_trim delimiter (trim line) k
    _ = column delimiter (trim line ++ after) k := (column_append_blank hafter _ _ _).symm
    _ = column delimiter (line.takeWhile isBlank ++ (trim line ++ after))
          (k + (line.takeWhile isBlank).count delimiter) :=
        (column_blank_append hbefore _ _ _).symm
    _ = column delimiter line (k + (line.takeWhile isBlank).count delimiter) := by rw [hline]

/-- A delimiter among the blanks in front leaves the first column without text. -/
theorem column_zero_of_mem {delimiter : Char} {line : List Char}
    (h : delimiter ∈ line.takeWhile isBlank) : column delimiter line 0 = [] := by
  obtain ⟨before, after, hblanks⟩ := List.append_of_mem h
  have hline : line = before ++ delimiter :: (after ++ line.dropWhile isBlank) := by
    conv_lhs => rw [← List.takeWhile_append_dropWhile (p := isBlank) (l := line), hblanks]
    rw [List.append_assoc, List.cons_append]
  have hbefore : ∀ c ∈ before, isBlank c = true := by
    intro c hc
    apply List.mem_takeWhile_imp (l := line)
    rw [hblanks]
    exact List.mem_append_left _ hc
  have hlength : 0 < (splitOn delimiter before).length :=
    List.length_pos_of_ne_nil (splitOn_ne_nil delimiter before)
  have hfirst : column delimiter line 0 = column delimiter before 0 := by
    unfold column
    conv_lhs => rw [hline, splitOn_append_cons, List.getD_append _ _ _ _ hlength]
  rw [hfirst]
  exact column_of_blank hbefore delimiter 0

/-- If the delimiter is blank, a line with content has a first field, whatever its first column. -/
theorem getD_fieldsOf_zero_ne_nil {delimiter : Char} {line : List Char} (hline : trim line ≠ [])
    (hdelimiter : isBlank delimiter = true) : (fieldsOf delimiter line).getD 0 [] ≠ [] := by
  obtain ⟨c, cs, htrim⟩ := List.exists_cons_of_ne_nil hline
  have hhead : (trim line).head? = some c := by rw [htrim]; rfl
  have hc : isBlank c = false := not_blank_of_head?_trim hhead
  have hne : c ≠ delimiter := fun heq => by
    rw [heq, hdelimiter] at hc
    exact nomatch hc
  obtain ⟨piece, rest, hpieces⟩ := List.exists_cons_of_ne_nil (splitOn_ne_nil delimiter cs)
  have hfield : (fieldsOf delimiter line).getD 0 [] = trim (c :: piece) := by
    unfold fieldsOf
    rw [htrim, splitOn, if_neg hne, hpieces]
    rfl
  rw [hfield]
  exact List.ne_nil_of_mem (mem_trim List.mem_cons_self hc)

theorem columns_kept_iff {delimiter : Char} {line : List Char} (hline : trim line ≠ []) :
    (∀ k, (fieldsOf delimiter line).getD k [] = column delimiter line k) ↔
      delimiter ∉ line.takeWhile isBlank := by
  constructor
  · intro h hmem
    apply getD_fieldsOf_zero_ne_nil hline (List.mem_takeWhile_imp hmem)
    rw [h 0, column_zero_of_mem hmem]
  · intro h k
    rw [getD_fieldsOf_eq_column, List.count_eq_zero.mpr h, Nat.add_zero]

/-- Without a delimiter among the blanks of a line, its fields are its columns. -/
theorem fieldsOf_of_not_blank {delimiter : Char} (h : isBlank delimiter = false)
    (line : List Char) : fieldsOf delimiter line = (splitOn delimiter line).map trim := by
  have hnot : ∀ blanks : List Char, (∀ c ∈ blanks, isBlank c = true) →
      blanks.count delimiter = 0 := by
    intro blanks hblanks
    refine List.count_eq_zero.mpr fun hmem => ?_
    rw [hblanks _ hmem] at h
    exact nomatch h
  obtain ⟨before, after, hends, hline⟩ := exists_blanks_trim line
  have hcount : line.count delimiter = (trim line).count delimiter := by
    rw [List.forall_mem_append] at hends
    conv_lhs => rw [hline]
    rw [List.count_append, List.count_append, hnot before hends.1, hnot after hends.2,
      Nat.zero_add, Nat.add_zero]
  have hlength : (fieldsOf delimiter line).length = ((splitOn delimiter line).map trim).length := by
    unfold fieldsOf
    rw [List.length_map, List.length_map, length_splitOn, length_splitOn, hcount]
  refine List.ext_getElem hlength fun k hk hk' => ?_
  rw [← List.getD_eq_getElem _ [] hk, ← List.getD_eq_getElem _ [] hk', getD_fieldsOf_eq_column,
    getD_map_trim, hnot _ fun c hc => List.mem_takeWhile_imp hc, Nat.add_zero]

/-- A line with content has its fields, and no others. -/
theorem mem_dataLines_of_isLine {text : List Char} {n : Nat} {line : List Char}
    (hline : IsLine text n line) (hcontent : IsContent line) (delimiter : Char)
    (fields : List (List Char)) :
    (n, fields) ∈ dataLines delimiter text ↔ fields = fieldsOf delimiter line := by
  rw [mem_dataLines_iff]
  constructor
  · rintro ⟨other, ⟨i, hi, hother⟩, -, rfl⟩
    obtain ⟨j, hj, hline⟩ := hline
    obtain rfl : i = j := by omega
    rw [hline] at hother
    rw [Option.some.inj hother]
  · exact fun h => ⟨line, hline, hcontent, h⟩

/-- A line without text in its first column is refused, if its columns are kept. -/
theorem exists_error_of_column_zero {text : String} {n : Nat} {line : List Char} {delimiter : Char}
    (hline : IsLine text.toList n line) (hcontent : IsContent line)
    (hfirst : column delimiter line 0 = []) (hkept : delimiter ∉ line.takeWhile isBlank) :
    ∃ fault, readRows text delimiter = .error fault := by
  have hzero : (fieldsOf delimiter line).getD 0 [] = [] := by
    rw [(columns_kept_iff hcontent.1).mpr hkept 0, hfirst]
  obtain ⟨first, rest, hfields⟩ : ∃ first rest, fieldsOf delimiter line = first :: rest :=
    List.exists_cons_of_ne_nil fun h => splitOn_ne_nil _ _ (List.map_eq_nil_iff.mp h)
  rw [hfields, List.getD_cons_zero] at hzero
  subst hzero
  refine exists_error_iff.mpr ⟨n, _, ⟨⟨line, hline, hcontent, rfl⟩, fun h => ?_⟩,
    Or.inr ⟨0, by decide, by rw [hfields]; rfl⟩⟩
  rw [hfields] at h
  have hunit : lower [] = "unit".toList := Option.some.inj h.1
  exact absurd hunit (by decide)

theorem lines_of_not_mem {cs : List Char} (h : '\n' ∉ cs) (hne : cs ≠ []) : lines cs = [cs] := by
  unfold lines
  rw [splitOn_of_not_mem '\n' h]
  cases cs with
  | nil => exact absurd rfl hne
  | cons c cs => rfl

/-- A blank delimiter in front of a letter makes a column that is lost. -/
theorem exists_column_lost {delimiter : Char} (hblank : isBlank delimiter = true)
    (hfeed : delimiter ≠ '\n') :
    ∃ (text : String) (line : List Char), IsLine text.toList 1 line ∧ IsContent line ∧
      fieldsOf delimiter line ≠ (splitOn delimiter line).map trim := by
  have hfront : ∀ b ∈ [delimiter], isBlank b = true := List.forall_mem_singleton.mpr hblank
  have htrim : trim [delimiter, 'x'] = ['x'] := trim_append_of_blank hfront ['x']
  have hcontent : IsContent [delimiter, 'x'] := by
    unfold IsContent
    rw [htrim]
    decide
  refine ⟨String.ofList [delimiter, 'x'], [delimiter, 'x'], ⟨0, rfl, ?_⟩, hcontent, fun h => ?_⟩
  -- the delimiter ends no line
  · rw [String.toList_ofList, lines_of_not_mem (by simp [hfeed.symm]) (List.cons_ne_nil _ _)]
    rfl
  · have hkept : ∀ k, (fieldsOf delimiter [delimiter, 'x']).getD k [] =
        column delimiter [delimiter, 'x'] k := by
      intro k
      rw [h, getD_map_trim]
    apply (columns_kept_iff hcontent.1).mp hkept
    rw [List.takeWhile_cons_of_pos hblank]
    exact List.mem_cons_self

/-- What the fields of a line are with a delimiter that the settings admit. All columns are kept if
no delimiter stands among the blanks in front of the line. So the fields are the columns of every
line exactly if the delimiter is not blank. -/
theorem columns_of_accepted (c : Config) (hc : c.validate = .ok ()) :
    (∀ (text : String) (n : Nat) (line : List Char), IsLine text.toList n line → IsContent line →
      ∃ fields, (∀ other, (n, other) ∈ dataLines c.delimiter text.toList ↔ other = fields) ∧
        (∀ k, fields.getD k [] =
          column c.delimiter line (k + (line.takeWhile isBlank).count c.delimiter)) ∧
        ((∀ k, fields.getD k [] = column c.delimiter line k) ↔
          c.delimiter ∉ line.takeWhile isBlank) ∧
        (column c.delimiter line 0 = [] → c.delimiter ∉ line.takeWhile isBlank →
          ∃ fault, readRows text c.delimiter = .error fault)) ∧
    ((∀ (text : String) (n : Nat) (line : List Char) (fields : List (List Char)),
      IsLine text.toList n line → IsContent line → (n, fields) ∈ dataLines c.delimiter text.toList →
        fields = (splitOn c.delimiter line).map trim) ↔ isBlank c.delimiter = false) := by
  constructor
  · intro text n line hline hcontent
    exact ⟨fieldsOf c.delimiter line, mem_dataLines_of_isLine hline hcontent c.delimiter,
      getD_fieldsOf_eq_column c.delimiter line, columns_kept_iff hcontent.1,
      exists_error_of_column_zero hline hcontent⟩
  · constructor
    · intro h
      by_contra hnot
      obtain ⟨text, line, hline, hcontent, hlost⟩ :=
        exists_column_lost (Bool.of_not_eq_false hnot) (Config.delimiter_ne_feed hc)
      exact hlost (h text 1 line _ hline hcontent
        ((mem_dataLines_of_isLine hline hcontent c.delimiter _).mpr rfl))
    -- what is cut off at the ends of a line holds no delimiter
    · intro hblank text n line fields hline hcontent hfields
      rw [(mem_dataLines_of_isLine hline hcontent c.delimiter fields).mp hfields]
      exact fieldsOf_of_not_blank hblank line

end Catalog

namespace Sample

/-- A row with a tab in front of its first field. -/
def indentedRow : String := "\talu\tcore0\twa\n"

def tabbed : Config := { delimiter := '\t' }

theorem isLine_indentedRow : Catalog.IsLine indentedRow.toList 1 "\talu\tcore0\twa".toList :=
  ⟨0, rfl, by decide +kernel⟩

end Sample

namespace Catalog

theorem columns_of_accepted_tab :
    Sample.tabbed.validate = .ok () ∧
    IsLine Sample.indentedRow.toList 1 "\talu\tcore0\twa".toList ∧
    IsContent "\talu\tcore0\twa".toList ∧
    ∃ fields, (1, fields) ∈ dataLines '\t' Sample.indentedRow.toList ∧
      ∀ k, fields.getD k [] = column '\t' "\talu\tcore0\twa".toList (k + 1) := by
  have hvalid : Sample.tabbed.validate = .ok () := by decide +kernel
  have hcontent : IsContent "\talu\tcore0\twa".toList := by
    unfold IsContent
    decide +kernel
  obtain ⟨fields, hfields, hcolumns, -⟩ := (columns_of_accepted Sample.tabbed hvalid).1 _ 1 _
    Sample.isLine_indentedRow hcontent
  exact ⟨hvalid, Sample.isLine_indentedRow, hcontent, fields, (hfields fields).mpr rfl, hcolumns⟩

/-- A line that starts with a tab, so with a column without text, is accepted as a row of its other
columns. -/
theorem indented_row_shifted :
    Sample.tabbed.validate = .ok () ∧ ∃ line, IsLine Sample.indentedRow.toList 1 line ∧
      IsContent line ∧ column Sample.tabbed.delimiter line 0 = [] ∧
      ∃ row, readRows Sample.indentedRow Sample.tabbed.delimiter = .ok [row] ∧
        row.name.toList ≠ column Sample.tabbed.delimiter line 0 ∧
        row.name.toList = column Sample.tabbed.delimiter line 1 := by
  have hcontent : IsContent "\talu\tcore0\twa".toList := by
    unfold IsContent
    decide +kernel
  refine ⟨by decide +kernel, _, Sample.isLine_indentedRow, hcontent, by decide +kernel, _, rfl, ?_⟩
  decide +kernel

end Catalog

end Signoff
