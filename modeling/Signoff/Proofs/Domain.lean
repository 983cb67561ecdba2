import Signoff.Command.Program
import Signoff.Proofs.Grouping
import Signoff.Proofs.Ledger
import Signoff.Proofs.Text.Separated

/-!
# Lists of domains

A list of domains is read part by part, up to the word for all of them (`readList_eq`).  Whatever it
is read as has each domain once, in the order of first mention, and is read again from the names or
the slugs of its domains (`readList_normalises`).  So a run from the command line has each of its
domains once (`domains_of_planOf`).
-/

namespace Signoff

open Text

namespace Domain

/-! ## Words for a domain -/

/-- A part of a list names a domain by one of its words, in any case of the letters and with hyphens
for underscores. -/
def Names (part : List Char) (d : Domain) : Prop :=
  ∃ word ∈ d.words, word.toList = replaceChar '-' '_' (lower (trim part))

theorem eq_of_word (d e : Domain) : ∀ word ∈ d.words, word ∈ e.words → d = e := by
  cases d <;> cases e <;> decide

theorem Names.unique {part : List Char} {d e : Domain} (hd : Names part d) (he : Names part e) :
    d = e := by
  obtain ⟨word, hword, hpart⟩ := hd
  obtain ⟨word', hword', hpart'⟩ := he
  obtain rfl : word = word' := String.toList_inj.mp (hpart.trans hpart'.symm)
  exact eq_of_word d e word hword hword'

theorem ofChars?_eq_some_iff {part : List Char} {d : Domain} :
    ofChars? part = some d ↔ Names part d := by
  have hany : ∀ e : Domain,
      (e.words.any (·.toList == replaceChar '-' '_' (lower (trim part)))) = true ↔
        Names part e := by
    intro e
    unfold Names
    simp only [List.any_eq_true, beq_iff_eq]
  have hfound : ∀ e, ofChars? part = some e → Names part e := by
    intro e he
    unfold ofChars? at he
    dsimp only at he
    have hword := List.find?_some he
    exact (hany e).mp hword
  refine ⟨hfound d, fun h => ?_⟩
  have hsome : (ofChars? part).isSome = true :=
    List.find?_isSome.mpr ⟨d, mem_all d, (hany d).mpr h⟩
  obtain ⟨e, he⟩ := Option.isSome_iff_exists.mp hsome
  rw [he, (hfound e he).unique h]

theorem isNone_ofChars?_iff {part : List Char} :
    (ofChars? part).isNone = true ↔ ¬ ∃ d, Names part d := by
  rw [Option.isNone_iff_eq_none, Option.eq_none_iff_forall_ne_some, not_exists]
  exact forall_congr' fun d => not_congr ofChars?_eq_some_iff

/-! ## The parts of a list -/

/-- What stands between the commas, without the blanks around it and where it is not blank. -/
def partsOf (cs : List Char) : List (List Char) :=
  ((splitOn ',' cs).map trim).filter (!·.isEmpty)

/-- The word that stands for all domains, in any case of the letters. -/
def isAll (part : List Char) : Bool := sameLetters part "all".toList

theorem partsOf_append_cons (as bs : List Char) :
    partsOf (as ++ ',' :: bs) = partsOf as ++ partsOf bs := by
  unfold partsOf
  rw [splitOn_append_cons, List.map_append, List.filter_append]

/-- A list that is joined from lists has their parts. -/
theorem partsOf_intercalate (lists : List (List Char)) :
    partsOf ([','].intercalate lists) = lists.flatMap partsOf := by
  induction lists with
  | nil => rfl
  | cons cs lists ih =>
    cases lists with
    | nil => simp
    | cons ds lists =>
      rw [List.intercalate_cons_cons, List.append_assoc, List.singleton_append,
        partsOf_append_cons, ih]
      rfl

/-! ## Reading a list -/

/-- A domain that is mentioned goes behind those mentioned so far, unless it is one of them. -/
theorem enter_eraseDups (mentioned : List Domain) (d : Domain) :
    (if mentioned.eraseDups.contains d then mentioned.eraseDups
      else mentioned.eraseDups ++ [d]) = (mentioned ++ [d]).eraseDups := by
  rw [eraseDups_concat]
  by_cases hd : d ∈ mentioned
  · rw [if_pos hd, if_pos (List.contains_iff_mem.mpr (List.mem_eraseDups.mpr hd))]
  · have hnew : ¬ mentioned.eraseDups.contains d = true := fun h =>
      hd (List.mem_eraseDups.mp (List.contains_iff_mem.mp h))
    rw [if_neg hd, if_neg hnew]

/-- Nothing stands for every domain. -/
def orAll (ds : List Domain) : List Domain := if ds.isEmpty then all else ds

theorem collect_cons (found : List Domain) (part : List Char) (rest : List (List Char)) :
    collect found (part :: rest) =
      if isAll part then .ok all
      else match ofChars? part with
        | none => .error (.unknownDomain (String.ofList part))
        | some d => collect (if found.contains d then found else found ++ [d]) rest := rfl

/-- The loop, entered with the domains that have been mentioned so far. -/
theorem collect_eraseDups (mentioned : List Domain) (parts : List (List Char)) :
    collect mentioned.eraseDups parts =
      match (parts.takeWhile (!isAll ·)).find? fun part => (ofChars? part).isNone with
      | some part => .error (.unknownDomain (String.ofList part))
      | none => .ok (if parts.any isAll then all
          else orAll (mentioned ++ parts.filterMap ofChars?).eraseDups) := by
  induction parts generalizing mentioned with
  | nil => simp [collect, orAll]
  | cons part rest ih =>
    rw [collect_cons]
    by_cases hall : isAll part = true
    · -- no part counts from here on
      rw [if_pos hall, List.takeWhile_cons_of_neg (by rw [hall]; decide), List.any_cons, hall]
      rfl
    · have hnot : isAll part = false := Bool.not_eq_true _ ▸ hall
      rw [if_neg hall, List.takeWhile_cons_of_pos (by rw [hnot]; decide), List.any_cons, hnot,
        Bool.false_or]
      cases hpart : ofChars? part with
      | none =>
        rw [List.find?_cons_of_pos (by rw [hpart]; rfl)]
      | some d =>
        rw [List.find?_cons_of_neg (by simp [hpart]), List.filterMap_cons_some hpart]
        dsimp only
        -- what is found is still each domain once of those mentioned, now with this one
        rw [enter_eraseDups, ih, List.append_assoc, List.singleton_append]

theorem readList_eq (s : String) :
    readList s =
      match ((partsOf s.toList).takeWhile (!isAll ·)).find? fun part => (ofChars? part).isNone with
      | some part => .error (.unknownDomain (String.ofList part))
      | none => .ok (if (partsOf s.toList).any isAll then all
          else orAll ((partsOf s.toList).filterMap ofChars?).eraseDups) :=
  collect_eraseDups [] (partsOf s.toList)

/-- A list is read if each part in front of the word for all domains names one. -/
theorem exists_readList_iff {s : String} :
    (∃ ds, readList s = .ok ds) ↔
      ∀ part ∈ (partsOf s.toList).takeWhile (!isAll ·), ∃ d, Names part d := by
  have hnone : (((partsOf s.toList).takeWhile (!isAll ·)).find? fun part =>
      (ofChars? part).isNone) = none ↔
        ∀ part ∈ (partsOf s.toList).takeWhile (!isAll ·), ∃ d, Names part d := by
    simp only [List.find?_eq_none, isNone_ofChars?_iff, not_not]
  rw [readList_eq, ← hnone]
  cases ((partsOf s.toList).takeWhile (!isAll ·)).find? fun part => (ofChars? part).isNone with
  | none => exact iff_of_true ⟨_, rfl⟩ rfl
  | some part => exact iff_of_false (fun ⟨_, h⟩ => nomatch h) (fun h => nomatch h)

theorem eq_of_readList {s : String} {ds : List Domain} (h : readList s = .ok ds) :
    ds = if (partsOf s.toList).any isAll then all
      else orAll ((partsOf s.toList).filterMap ofChars?).eraseDups := by
  rw [readList_eq] at h
  split at h
  · exact nomatch h
  · exact (Except.ok.inj h).symm

theorem nodup_of_readList {s : String} {ds : List Domain} (h : readList s = .ok ds) :
    ds ≠ [] ∧ ds.Nodup := by
  have hall : all ≠ [] ∧ all.Nodup := by decide
  rw [eq_of_readList h, orAll]
  split
  · exact hall
  split
  · exact hall
  next hne => exact ⟨fun hnil => hne (List.isEmpty_iff.mpr hnil), nodup_eraseDups _⟩

theorem eq_all_of_readList {s : String} {ds : List Domain} (h : readList s = .ok ds)
    (hall : partsOf s.toList = [] ∨ ∃ part ∈ partsOf s.toList, isAll part = true) : ds = all := by
  rw [eq_of_readList h]
  rcases hall with hnil | hall
  · rw [hnil]
    rfl
  · rw [if_pos (List.any_eq_true.mpr hall)]

theorem forall₂_filterMap {parts : List (List Char)} (h : ∀ part ∈ parts, ∃ d, Names part d) :
    List.Forall₂ Names parts (parts.filterMap ofChars?) := by
  induction parts with
  | nil => exact .nil
  | cons part rest ih =>
    obtain ⟨⟨d, hd⟩, hrest⟩ := List.forall_mem_cons.mp h
    rw [List.filterMap_cons_some (ofChars?_eq_some_iff.mpr hd)]
    exact .cons hd (ih hrest)

theorem named_of_readList {s : String} {ds : List Domain} (h : readList s = .ok ds)
    (hne : partsOf s.toList ≠ []) (hnone : ∀ part ∈ partsOf s.toList, isAll part = false) :
    ∃ named, List.Forall₂ Names (partsOf s.toList) named ∧ ds = named.eraseDups := by
  have hwhole : (partsOf s.toList).takeWhile (!isAll ·) = partsOf s.toList := by
    rw [List.takeWhile_eq_self_iff]
    intro part hpart
    rw [hnone part hpart]
    rfl
  have hnamed : ∀ part ∈ partsOf s.toList, ∃ d, Names part d :=
    hwhole ▸ exists_readList_iff.mp ⟨ds, h⟩
  have hany : ¬ (partsOf s.toList).any isAll = true := by
    rw [List.any_eq_true]
    rintro ⟨part, hpart, hall⟩
    rw [hnone part hpart] at hall
    exact nomatch hall
  have hforall := forall₂_filterMap hnamed
  refine ⟨_, hforall, ?_⟩
  -- there is a part, so there is a domain as well
  obtain ⟨part, rest, hparts⟩ := List.exists_cons_of_ne_nil hne
  rw [hparts] at hforall
  obtain ⟨d, named, -, -, hcons⟩ := List.forall₂_cons_left_iff.mp hforall
  rw [eq_of_readList h, if_neg hany, hparts, hcons, orAll, List.eraseDups_cons, if_neg (by simp)]

/-! ## Spellings -/

/-- A text that is read as one domain, also within a list. -/
structure Spells (w : String) (d : Domain) : Prop where
  parts : partsOf w.toList = [w.toList]
  single : isAll w.toList = false
  named : ofChars? w.toList = some d

theorem spells_name (d : Domain) : Spells d.name d := by
  cases d <;> exact ⟨by decide +kernel, by decide +kernel, by decide +kernel⟩

theorem spells_slug (d : Domain) : Spells d.slug d := by
  cases d <;> exact ⟨by decide +kernel, by decide +kernel, by decide +kernel⟩

theorem readList_spelled {ds : List Domain} {spelling : Domain → String} (hne : ds ≠ [])
    (hnodup : ds.Nodup) (h : ∀ d, Spells (spelling d) d) :
    readList (String.intercalate "," (ds.map spelling)) = .ok ds := by
  have hparts : partsOf (String.intercalate "," (ds.map spelling)).toList =
      ds.map fun d => (spelling d).toList := by
    have hcomma : ",".toList = [','] := by decide
    rw [String.toList_intercalate, hcomma, partsOf_intercalate, List.map_map, List.flatMap_map]
    simp only [Function.comp_apply, (h _).parts]
    exact List.map_eq_flatMap.symm
  have hnamed : (ds.map fun d => (spelling d).toList).filterMap ofChars? = ds := by
    rw [List.filterMap_map]
    have hsome : ∀ d ∈ ds, (ofChars? ∘ fun d => (spelling d).toList) d = some d :=
      fun d _ => (h d).named
    rw [List.filterMap_congr hsome, List.filterMap_some]
  have hsingle : (ds.map fun d => (spelling d).toList).any isAll = false := by
    rw [List.any_map, List.any_eq_false]
    intro d _
    rw [Function.comp_apply, (h d).single]
    decide
  have hknown : ∀ part ∈ ds.map (fun d => (spelling d).toList), ∃ d, Names part d := by
    intro part hpart
    obtain ⟨d, -, rfl⟩ := List.mem_map.mp hpart
    exact ⟨d, ofChars?_eq_some_iff.mp (h d).named⟩
  obtain ⟨es, hes⟩ := exists_readList_iff.mpr fun part hpart =>
    hknown part (hparts ▸ (List.takeWhile_sublist _).mem hpart)
  have hread := eq_of_readList hes
  rw [hparts, hsingle, if_neg (by decide), hnamed, eraseDups_of_nodup hnodup, orAll,
    if_neg (by simpa using hne)] at hread
  rw [hes, hread]

/-- A list is read if what stands in front of the word for all domains names domains.  It is read as
those that it names, or as all of them where it has that word or no part, and what it is read as is
read from its names and slugs. -/
theorem readList_normalises (s : String) :
    ((∃ ds, readList s = .ok ds) ↔
      ∀ part ∈ (partsOf s.toList).takeWhile (!isAll ·), ∃ d, Names part d) ∧
    ∀ ds, readList s = .ok ds →
      ds ≠ [] ∧ ds.Nodup ∧
      (partsOf s.toList = [] ∨ (∃ part ∈ partsOf s.toList, isAll part = true) → ds = all) ∧
      (partsOf s.toList ≠ [] → (∀ part ∈ partsOf s.toList, isAll part = false) →
        ∃ named, List.Forall₂ Names (partsOf s.toList) named ∧ ds = named.eraseDups) ∧
      ∀ spelling : Domain → String, (∀ d, spelling d = d.name ∨ spelling d = d.slug) →
        readList (String.intercalate "," (ds.map spelling)) = .ok ds := by
  refine ⟨exists_readList_iff, fun ds h => ?_⟩
  obtain ⟨hne, hnodup⟩ := nodup_of_readList h
  refine ⟨hne, hnodup, eq_all_of_readList h, named_of_readList h, fun spelling hspelling => ?_⟩
  refine readList_spelled hne hnodup fun d => ?_
  rcases hspelling d with hd | hd
  · rw [hd]
    exact spells_name d
  · rw [hd]
    exact spells_slug d

theorem readList_normalises_aliases :
    readList " Timing,PHYSICAL-verification,, lec,pv ,STA" = .ok [.timing, .physical, .formal] ∧
      readList "TIMING,pv,FORMAL" = .ok [.timing, .physical, .formal] := by
  have h : readList " Timing,PHYSICAL-verification,, lec,pv ,STA" =
      .ok [.timing, .physical, .formal] := by decide +kernel
  obtain ⟨-, hread⟩ := readList_normalises " Timing,PHYSICAL-verification,, lec,pv ,STA"
  obtain ⟨-, -, -, -, hagain⟩ := hread _ h
  refine ⟨h, hagain (fun d => if d = .physical then d.slug else d.name) fun d => ?_⟩
  by_cases hd : d = .physical
  · exact .inr (if_pos hd)
  · exact .inl (if_neg hd)

end Domain

namespace Command.Program

theorem exists_of_bind_eq_ok {ε α β : Type} {x : Except ε α} {f : α → Except ε β} {b : β}
    (h : x >>= f = .ok b) : ∃ a, x = .ok a ∧ f a = .ok b := by
  cases x with
  | error e => exact nomatch h
  | ok a => exact ⟨a, rfl, h⟩

/-- A run from the command line has a domain, and each of its domains once. -/
theorem domains_of_planOf {w : Workspace} {c c' : Config} {r : RunRequest} {plan : Plan}
    (h : planOf w c r = .ok (c', plan)) : plan.domains ≠ [] ∧ plan.domains.Nodup := by
  unfold planOf at h
  obtain ⟨settings, -, h⟩ := exists_of_bind_eq_ok h
  obtain ⟨units, -, h⟩ := exists_of_bind_eq_ok h
  obtain ⟨domains, hdomains, h⟩ := exists_of_bind_eq_ok h
  cases h
  cases hread : Domain.readList r.domains with
  | error e =>
    rw [hread] at hdomains
    exact nomatch hdomains
  | ok ds =>
    rw [hread] at hdomains
    cases hdomains
    exact Domain.nodup_of_readList hread

end Command.Program

end Signoff
