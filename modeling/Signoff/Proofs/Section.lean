import Mathlib.Data.List.Nodup
import Mathlib.Data.List.Find
import Mathlib.Data.List.Perm.Basic
import Signoff.Proofs.Text.Separated
import Signoff.Verdict

/-!
# Banners and sections

A line is a banner line if it has the form of one without the blanks around it, and these are the
lines that the pattern of banner lines matches, in whichever way it is matched. So the body of a
section is found by that grammar (`banners_by_grammar`).

A transcript of the tool is a preamble and sections, each with a banner line that carries one of
the titles of its domain. What stands in the first section of a domain decides the verdict on the
domain, whatever the preamble and the other sections say and in whichever order they stand.
-/

namespace Signoff

open Signoff.Text

namespace Section

/-! ## Banner lines -/

/-- A banner line with this title: the title stands between two rules of at least three equal
signs, with blanks around the title and around the whole. -/
def IsBanner (title line : List Char) : Prop :=
  ∃ m n : Nat, ∃ before front back after : List Char, 3 ≤ m ∧ 3 ≤ n ∧
    (∀ c ∈ before ++ front ++ back ++ after, isBlank c = true) ∧
    line = before ++ (List.replicate m '=' ++ ((front ++ title ++ back) ++
      List.replicate n '=')) ++ after

/-- What may stand as a title: a text without equal signs that neither starts nor ends with a
blank. -/
structure IsTitle (title : List Char) : Prop where
  nonempty : title ≠ []
  noRule : '=' ∉ title
  trimmed : trim title = title

theorem not_isRule_of_isBlank {c : Char} (h : isBlank c = true) : isRule c = false := by
  rw [isRule, beq_eq_false_iff_ne]
  rintro rfl
  exact absurd h (by decide)

theorem isRule_of_mem_replicate {m : Nat} {c : Char} (h : c ∈ List.replicate m '=') :
    isRule c = true := by
  rw [List.eq_of_mem_replicate h]
  rfl

theorem eq_replicate_of_isRule {cs : List Char} (h : ∀ c ∈ cs, isRule c = true) :
    cs = List.replicate cs.length '=' :=
  List.eq_replicate_iff.mpr ⟨rfl, fun c hc => beq_iff_eq.mp (h c hc)⟩

theorem isTitle_of_title? {line title : List Char} (h : title? line = some title) :
    IsTitle title ∧ IsBanner title line := by
  unfold title? at h
  dsimp only at h
  split at h
  next hshape =>
    simp only [Bool.and_eq_true, decide_eq_true_eq, Bool.not_eq_true', List.all_eq_true,
      List.isEmpty_eq_false_iff] at hshape
    obtain ⟨⟨⟨hopen, hne⟩, hclose⟩, hrule⟩ := hshape
    obtain rfl := Option.some.inj h
    clear h
    generalize hafter : (trim line).dropWhile isRule = afterRule at hne hclose hrule ⊢
    obtain ⟨before, after, houter, hline⟩ := exists_blanks_trim line
    obtain ⟨front, back, hinner, htitle⟩ :=
      exists_blanks_trim (afterRule.takeWhile (!isRule ·))
    refine ⟨⟨hne, fun hmem => ?_, trim_trim _⟩, ?_⟩
    -- the title is cut out of a text without equal signs
    · have hin : '=' ∈ afterRule.takeWhile (!isRule ·) := by
        rw [htitle]
        simp [hmem]
      exact absurd (List.mem_takeWhile_imp hin) (by decide)
    · refine ⟨((trim line).takeWhile isRule).length, (afterRule.dropWhile (!isRule ·)).length,
        before, front, back, after, hopen, hclose, ?_, ?_⟩
      · intro c hc
        simp only [List.mem_append] at hc houter hinner
        rcases hc with ((hc | hc) | hc) | hc
        · exact houter c (.inl hc)
        · exact hinner c (.inl hc)
        · exact hinner c (.inr hc)
        · exact houter c (.inr hc)
      · rw [← eq_replicate_of_isRule hrule, ← htitle, List.takeWhile_append_dropWhile, ← hafter,
          ← eq_replicate_of_isRule (fun c hc => List.mem_takeWhile_imp hc),
          List.takeWhile_append_dropWhile]
        exact hline
  next => exact nomatch h

/-- A text between rules stays when the blanks around it are trimmed. -/
theorem trim_ruled {before mid after : List Char} {m n : Nat} (hm : m ≠ 0) (hn : n ≠ 0)
    (hbefore : ∀ c ∈ before, isBlank c = true) (hafter : ∀ c ∈ after, isBlank c = true) :
    trim (before ++ (List.replicate m '=' ++ (mid ++ List.replicate n '=')) ++ after) =
      List.replicate m '=' ++ (mid ++ List.replicate n '=') := by
  obtain ⟨m, rfl⟩ := Nat.exists_eq_succ_of_ne_zero hm
  obtain ⟨n, rfl⟩ := Nat.exists_eq_succ_of_ne_zero hn
  rw [trim_append_blank _ hafter, trim_append_of_blank hbefore]
  refine trim_eq_self (fun c hc => ?_) (fun c hc => ?_)
  · obtain rfl : '=' = c := by simpa [List.replicate_succ] using hc
    decide
  · obtain rfl : '=' = c := by simpa [List.getLast?_append, List.getLast?_replicate] using hc
    decide

theorem title?_of_isBanner {line title : List Char} (ht : IsTitle title)
    (hb : IsBanner title line) : title? line = some title := by
  obtain ⟨m, n, before, front, back, after, hm, hn, hblank, rfl⟩ := hb
  simp only [List.mem_append] at hblank
  have houter := @trim_ruled before (front ++ title ++ back) after m n (by omega) (by omega)
    (fun c hc => hblank c (.inl (.inl (.inl hc)))) (fun c hc => hblank c (.inr hc))
  obtain ⟨m, rfl⟩ := Nat.exists_eq_succ_of_ne_zero (n := m) (by omega)
  obtain ⟨n, rfl⟩ := Nat.exists_eq_succ_of_ne_zero (n := n) (by omega)
  -- the text between the rules has no equal sign, and it is not empty
  have hplain : ∀ c ∈ front ++ title ++ back, isRule c = false := by
    intro c hc
    simp only [List.mem_append] at hc
    rcases hc with (hc | hc) | hc
    · exact not_isRule_of_isBlank (hblank c (.inl (.inl (.inr hc))))
    · rw [isRule, beq_eq_false_iff_ne]
      rintro rfl
      exact ht.noRule hc
    · exact not_isRule_of_isBlank (hblank c (.inl (.inr hc)))
  have hmid : front ++ title ++ back ≠ [] := by simp [ht.nonempty]
  have htrim : trim (front ++ title ++ back) = title := by
    rw [trim_append_blank _ fun c hc => hblank c (.inl (.inr hc)),
      trim_append_of_blank (fun c hc => hblank c (.inl (.inl (.inr hc)))), ht.trimmed]
  generalize front ++ title ++ back = mid at hplain hmid htrim houter ⊢
  obtain ⟨hopen, hrest⟩ := @takeWhile_dropWhile_append isRule (List.replicate (m + 1) '=')
    (mid ++ List.replicate (n + 1) '=') (fun c hc => isRule_of_mem_replicate hc) (by
      intro c hc
      obtain ⟨d, mid, rfl⟩ := List.exists_cons_of_ne_nil hmid
      obtain rfl : d = c := by simpa using hc
      exact hplain d List.mem_cons_self)
  obtain ⟨htitle, hclose⟩ := @takeWhile_dropWhile_append (!isRule ·) mid
    (List.replicate (n + 1) '=') (fun c hc => by rw [hplain c hc]; rfl) (by
      intro c hc
      obtain rfl : '=' = c := by simpa [List.replicate_succ] using hc
      rfl)
  unfold title?
  dsimp only
  rw [houter, hopen, hrest, htitle, hclose, htrim, if_pos]
  simp only [Bool.and_eq_true, decide_eq_true_eq, Bool.not_eq_true', List.all_eq_true,
    List.isEmpty_eq_false_iff, List.length_replicate]
  exact ⟨⟨⟨hm, ht.nonempty⟩, hn⟩, fun c hc => isRule_of_mem_replicate hc⟩

/-- The reader of titles takes exactly the banner lines. -/
theorem title?_eq_some_iff {line title : List Char} :
    title? line = some title ↔ IsTitle title ∧ IsBanner title line :=
  ⟨isTitle_of_title?, fun h => title?_of_isBanner h.1 h.2⟩

/-- A line that no title makes a banner line. -/
def IsPlainLine (line : List Char) : Prop := ∀ title, IsTitle title → ¬ IsBanner title line

theorem title?_eq_none_iff {line : List Char} : title? line = none ↔ IsPlainLine line := by
  simp only [IsPlainLine, Option.eq_none_iff_forall_ne_some, ne_eq, title?_eq_some_iff, not_and]

/-! ## Titles of domains -/

/-- A title of the domain, in any letter case, with underscores, hyphens or blanks. -/
def Names (d : Domain) (title : List Char) : Prop :=
  ∃ known ∈ d.titles, plainTitle (lower title) = plainTitle known.toList

theorem Names.domain_eq {d e : Domain} {title : List Char} (hd : Names d title)
    (he : Names e title) : d = e := by
  obtain ⟨known, hknown, hplain⟩ := hd
  obtain ⟨other, hother, hplain'⟩ := he
  have hapart : ∀ known ∈ d.titles, ∀ other ∈ e.titles,
      plainTitle known.toList = plainTitle other.toList → d = e := by
    cases d <;> cases e <;> decide
  exact hapart known hknown other hother (hplain.symm.trans hplain')

theorem isTitleOf_iff {d : Domain} {title : List Char} (ht : IsTitle title) :
    isTitleOf d title = true ↔ Names d title := by
  unfold isTitleOf Names
  rw [ht.trimmed, List.any_eq_true]
  simp only [beq_iff_eq, eq_comm (a := plainTitle (lower title))]

/-- How a character of a title is compared. -/
def plainLetter (c : Char) : Char :=
  if c.toLower = '-' ∨ c.toLower = '_' then ' ' else c.toLower

theorem plainTitle_lower (cs : List Char) : plainTitle (lower cs) = cs.map plainLetter := by
  unfold plainTitle replaceChar lower
  rw [List.map_map, List.map_map]
  refine List.map_congr_left fun c _ => ?_
  unfold plainLetter
  simp only [Function.comp_apply]
  by_cases hlow : c.toLower = '_'
  · simp [hlow]
  · simp [hlow]

theorem toLower_of_isBlank {c : Char} (h : isBlank c = true) : c.toLower = c := by
  refine toLower_eq_self fun hcode => ?_
  unfold isBlank at h
  simp at h
  omega

theorem plainLetter_of_isBlank {c : Char} (h : isBlank c = true) : plainLetter c = c := by
  rw [plainLetter, toLower_of_isBlank h, if_neg]
  rintro (rfl | rfl) <;> exact absurd h (by decide)

theorem titles_plain (d : Domain) : ∀ known ∈ d.titles,
    plainTitle known.toList ≠ [] ∧ '=' ∉ plainTitle known.toList ∧
      (∀ c ∈ (plainTitle known.toList).head?, isBlank c = false) ∧
      (∀ c ∈ (plainTitle known.toList).getLast?, isBlank c = false) := by
  have hall : d.titles.all (fun known => !(plainTitle known.toList).isEmpty &&
      !(plainTitle known.toList).contains '=' &&
      (plainTitle known.toList).head?.all (!isBlank ·) &&
      (plainTitle known.toList).getLast?.all (!isBlank ·)) = true := by
    cases d <;> decide
  intro known hknown
  have htitle := List.all_eq_true.mp hall known hknown
  simpa [Option.all_eq_true, and_assoc] using htitle

theorem Names.isTitle {d : Domain} {title : List Char} (h : Names d title) : IsTitle title := by
  obtain ⟨known, hknown, hplain⟩ := h
  obtain ⟨hne, hrule, hfirst, hlast⟩ := titles_plain d known hknown
  rw [← hplain, plainTitle_lower] at hne hrule hfirst hlast
  -- a blank is compared as itself
  have hkept : ∀ c, isBlank (plainLetter c) = false → isBlank c = false := by
    intro c hc
    by_contra hblank
    rw [Bool.not_eq_false] at hblank
    rw [plainLetter_of_isBlank hblank, hblank] at hc
    exact nomatch hc
  refine ⟨fun h => hne (by rw [h]; rfl), fun h => hrule ?_, trim_eq_self ?_ ?_⟩
  · exact List.mem_map.mpr ⟨'=', h, by decide⟩
  · intro c hc
    exact hkept c (hfirst (plainLetter c) (by rw [List.head?_map, hc]; rfl))
  · intro c hc
    exact hkept c (hlast (plainLetter c) (by rw [List.getLast?_map, hc]; rfl))

/-! ## The scan for a section -/

/-- A line is passed over if it is no banner line of the domain. -/
theorem linesAfterBanner?_of_not_names {d : Domain} {line : List Char}
    (h : ∀ title, title? line = some title → ¬ Names d title) (rest : List (List Char)) :
    linesAfterBanner? d (line :: rest) = linesAfterBanner? d rest := by
  rw [linesAfterBanner?, if_neg]
  cases htitle : title? line with
  | none => exact nofun
  | some title =>
    have hof := h title htitle
    rwa [← isTitleOf_iff (title?_eq_some_iff.mp htitle).1] at hof

theorem linesAfterBanner?_of_plain {d : Domain} {front : List (List Char)}
    (h : ∀ line ∈ front, IsPlainLine line) (rest : List (List Char)) :
    linesAfterBanner? d (front ++ rest) = linesAfterBanner? d rest := by
  induction front with
  | nil => rfl
  | cons line front ih =>
    have hline := title?_eq_none_iff.mpr (h line List.mem_cons_self)
    rw [List.cons_append, linesAfterBanner?_of_not_names (by simp [hline]),
      ih fun l hl => h l (List.mem_cons_of_mem _ hl)]

theorem linesAfterBanner?_of_names {d : Domain} {title line : List Char} (hn : Names d title)
    (hb : IsBanner title line) (rest : List (List Char)) :
    linesAfterBanner? d (line :: rest) = some rest := by
  rw [linesAfterBanner?, title?_of_isBanner hn.isTitle hb, Option.any_some,
    (isTitleOf_iff hn.isTitle).mpr hn, if_pos rfl]

/-- The body of a section goes up to the next banner line. -/
theorem bodyLines_append {body rest : List (List Char)} (h : ∀ line ∈ body, IsPlainLine line)
    (hrest : ∀ line, rest.head? = some line → ∃ title, IsTitle title ∧ IsBanner title line) :
    bodyLines (body ++ rest) = body := by
  unfold bodyLines
  rw [List.takeWhile_append_of_pos fun line hl => by rw [title?_eq_none_iff.mpr (h line hl)]; rfl]
  cases rest with
  | nil => exact List.append_nil body
  | cons line rest =>
    obtain ⟨title, ht, hb⟩ := hrest line rfl
    rw [List.takeWhile_cons, title?_of_isBanner ht hb]
    exact List.append_nil body

/-! ## The grammar of banners -/

/-- The form of a banner line without the blanks around it. -/
structure Heads (title text : List Char) : Prop where
  nonempty : title ≠ []
  noRule : '=' ∉ title
  first : ∀ c, title.head? = some c → isBlank c = false
  last : ∀ c, title.getLast? = some c → isBlank c = false
  framed : ∃ m n : Nat, ∃ front back : List Char, 3 ≤ m ∧ 3 ≤ n ∧
    (∀ c ∈ front ++ back, isBlank c = true) ∧
    text = List.replicate m '=' ++ ((front ++ title ++ back) ++ List.replicate n '=')

/-- A banner line, whatever its title. -/
def IsHeading (line : List Char) : Prop := ∃ title, Heads title (trim line)

/-- A banner line with a title of the domain. -/
def Opens (d : Domain) (line : List Char) : Prop :=
  ∃ title, Heads title (trim line) ∧
    ∃ known ∈ d.titles, plainTitle (lower title) = plainTitle (lower known.toList)

/-- What the group may take where `^\s*={3,}\s*([^=\s][^=]*?)\s*={3,}\s*$` matches a line.  It may
take some of the blanks behind the title, so there are several ways to match. -/
def Captures (line group : List Char) : Prop :=
  ∃ m n : Nat, ∃ before front back after : List Char, 3 ≤ m ∧ 3 ≤ n ∧
    (∀ c ∈ before ++ front ++ back ++ after, isBlank c = true) ∧
    (∃ c rest, group = c :: rest ∧ c ≠ '=' ∧ isBlank c = false ∧ '=' ∉ rest) ∧
    line = before ++ (List.replicate m '=' ++ ((front ++ group ++ back) ++
      List.replicate n '=')) ++ after

theorem heads_trim_iff {line title : List Char} :
    Heads title (trim line) ↔ title? line = some title := by
  rw [title?_eq_some_iff]
  constructor
  · intro h
    obtain ⟨m, n, front, back, hm, hn, hinner, htext⟩ := h.framed
    obtain ⟨before, after, houter, hline⟩ := exists_blanks_trim line
    refine ⟨⟨h.nonempty, h.noRule, trim_eq_self h.first h.last⟩,
      m, n, before, front, back, after, hm, hn, fun c hc => ?_, htext ▸ hline⟩
    simp only [List.mem_append] at hc hinner houter
    rcases hc with ((hc | hc) | hc) | hc
    · exact houter c (.inl hc)
    · exact hinner c (.inl hc)
    · exact hinner c (.inr hc)
    · exact houter c (.inr hc)
  · rintro ⟨ht, m, n, before, front, back, after, hm, hn, hblank, rfl⟩
    simp only [List.mem_append] at hblank
    refine ⟨ht.nonempty, ht.noRule, fun c hc => ?_, fun c hc => ?_,
      m, n, front, back, hm, hn, fun c hc => ?_, ?_⟩
    · rw [← ht.trimmed] at hc
      exact not_blank_of_head?_trim hc
    · rw [← ht.trimmed] at hc
      exact not_blank_of_getLast?_trim hc
    · rcases List.mem_append.mp hc with hc | hc
      · exact hblank c (.inl (.inl (.inr hc)))
      · exact hblank c (.inl (.inr hc))
    · exact trim_ruled (by omega) (by omega) (fun c hc => hblank c (.inl (.inl (.inl hc))))
        fun c hc => hblank c (.inr hc)

/-- The group of every match has the title, perhaps with blanks behind it. -/
theorem exists_captures_iff {line title : List Char} :
    (∃ group, Captures line group ∧ trim group = title) ↔ title? line = some title := by
  constructor
  · rintro ⟨group, ⟨m, n, before, front, back, after, hm, hn, hblank, hgroup, rfl⟩, rfl⟩
    obtain ⟨c, rest, rfl, hrule, hc, hrest⟩ := hgroup
    -- what the group has around the title goes to the blanks on both sides of it
    obtain ⟨ahead, behind, hends, hsplit⟩ := exists_blanks_trim (c :: rest)
    refine title?_of_isBanner ⟨?_, fun hmem => ?_, trim_trim _⟩
      ⟨m, n, before, front ++ ahead, behind ++ back, after, hm, hn, fun b hb => ?_, ?_⟩
    · exact List.ne_nil_of_mem (mem_trim List.mem_cons_self hc)
    · have hmem : '=' ∈ c :: rest := by
        rw [hsplit]
        simp [hmem]
      rcases List.mem_cons.mp hmem with rfl | hmem
      · exact hrule rfl
      · exact hrest hmem
    · simp only [List.mem_append] at hb hblank hends
      rcases hb with ((hb | hb | hb) | hb | hb) | hb
      · exact hblank b (.inl (.inl (.inl hb)))
      · exact hblank b (.inl (.inl (.inr hb)))
      · exact hends b (.inl hb)
      · exact hends b (.inr hb)
      · exact hblank b (.inl (.inr hb))
      · exact hblank b (.inr hb)
    · nth_rewrite 1 [hsplit]
      simp only [List.append_assoc]
  · intro h
    obtain ⟨ht, m, n, before, front, back, after, hm, hn, hblank, hline⟩ := isTitle_of_title? h
    obtain ⟨c, rest, rfl⟩ := List.exists_cons_of_ne_nil ht.nonempty
    refine ⟨c :: rest, ⟨m, n, before, front, back, after, hm, hn, hblank,
      ⟨c, rest, rfl, ?_, ?_, fun hmem => ht.noRule (List.mem_cons_of_mem c hmem)⟩, hline⟩,
      ht.trimmed⟩
    · rintro rfl
      exact ht.noRule List.mem_cons_self
    · have hfirst : (trim (c :: rest)).head? = some c := by rw [ht.trimmed]; rfl
      exact not_blank_of_head?_trim hfirst

theorem isHeading_iff {line : List Char} : IsHeading line ↔ (title? line).isSome = true := by
  rw [IsHeading, Option.isSome_iff_exists]
  exact exists_congr fun title => heads_trim_iff

theorem lower_titles (d : Domain) : ∀ known ∈ d.titles, lower known.toList = known.toList := by
  cases d <;> decide

theorem opens_iff {d : Domain} {line : List Char} :
    Opens d line ↔ (title? line).any (isTitleOf d) = true := by
  have hnames : ∀ title, Names d title ↔
      ∃ known ∈ d.titles, plainTitle (lower title) = plainTitle (lower known.toList) := by
    intro title
    refine exists_congr fun known => and_congr_right fun hknown => ?_
    rw [lower_titles d known hknown]
  rw [Option.any_eq_true]
  refine exists_congr fun title => ?_
  rw [heads_trim_iff, ← hnames]
  refine and_congr_right fun htitle => ?_
  exact (isTitleOf_iff (isTitle_of_title? htitle).1).symm

theorem linesAfterBanner?_eq_none_iff {d : Domain} {ls : List (List Char)} :
    linesAfterBanner? d ls = none ↔ ∀ line ∈ ls, ¬ Opens d line := by
  induction ls with
  | nil => simp [linesAfterBanner?]
  | cons line ls ih =>
    rw [linesAfterBanner?, List.forall_mem_cons, opens_iff]
    split
    next h => simp [h]
    next h => rw [ih, and_iff_right h]

theorem linesAfterBanner?_eq_some_iff {d : Domain} {ls rest : List (List Char)} :
    linesAfterBanner? d ls = some rest ↔
      ∃ before line, ls = before ++ line :: rest ∧ (∀ l ∈ before, ¬ Opens d l) ∧ Opens d line := by
  induction ls with
  | nil => simp [linesAfterBanner?]
  | cons first ls ih =>
    rw [linesAfterBanner?]
    split
    next hopens =>
      rw [← opens_iff] at hopens
      rw [Option.some.injEq]
      constructor
      · rintro rfl
        exact ⟨[], first, rfl, nofun, hopens⟩
      · rintro ⟨before, line, heq, hbefore, -⟩
        -- nothing stands in front of the first line that opens the section
        cases before with
        | nil => exact (List.cons.inj heq).2
        | cons l before =>
          rw [(List.cons.inj heq).1] at hopens
          exact absurd hopens (hbefore l List.mem_cons_self)
    next hopens =>
      rw [← opens_iff] at hopens
      rw [ih]
      constructor
      · rintro ⟨before, line, rfl, hbefore, hline⟩
        exact ⟨first :: before, line, rfl, List.forall_mem_cons.mpr ⟨hopens, hbefore⟩, hline⟩
      · rintro ⟨before, line, heq, hbefore, hline⟩
        cases before with
        | nil =>
          rw [(List.cons.inj heq).1] at hopens
          exact absurd hline hopens
        | cons l before =>
          exact ⟨before, line, (List.cons.inj heq).2, (List.forall_mem_cons.mp hbefore).2, hline⟩

theorem bodyLines_eq_iff {rest inside : List (List Char)} :
    bodyLines rest = inside ↔
      ∃ after, rest = inside ++ after ∧ (∀ line ∈ inside, ¬ IsHeading line) ∧
        ∀ line, after.head? = some line → IsHeading line := by
  constructor
  · rintro rfl
    refine ⟨rest.dropWhile fun line => (title? line).isNone,
      (List.takeWhile_append_dropWhile).symm, fun line hline => ?_, fun line hline => ?_⟩
    · have hnone := List.mem_takeWhile_imp hline
      rw [isHeading_iff]
      simpa using hnone
    · have hsome := List.head?_dropWhile_not (fun line => (title? line).isNone) rest
      rw [hline] at hsome
      rw [isHeading_iff]
      simpa using hsome
  · rintro ⟨after, rfl, hinside, hafter⟩
    refine bodyLines_append (fun line hline => ?_) fun line hline => ?_
    · rw [← title?_eq_none_iff]
      simpa [isHeading_iff] using hinside line hline
    · obtain ⟨title, htitle⟩ := hafter line hline
      exact ⟨title, title?_eq_some_iff.mp (heads_trim_iff.mp htitle)⟩

/-- A line is read as a banner line if it has the form of one, which is if the pattern matches it,
and whatever the group takes has the title.  The body of the section goes from the first banner
line that has a title of the domain to the next banner line with any title. -/
theorem banners_by_grammar :
    (∀ line title, title? line = some title ↔ Heads title (trim line)) ∧
    (∀ line title, title? line = some title ↔ ∃ group, Captures line group ∧ trim group = title) ∧
    (∀ d output, body? d output = none ↔ ∀ line ∈ lines output, ¬ Opens d line) ∧
    (∀ d output body, body? d output = some body ↔
      ∃ before line inside after, lines output = before ++ line :: (inside ++ after) ∧
        (∀ l ∈ before, ¬ Opens d l) ∧ Opens d line ∧ (∀ l ∈ inside, ¬ IsHeading l) ∧
        (∀ l, after.head? = some l → IsHeading l) ∧ body = join ['\n'] inside) := by
  refine ⟨fun line title => heads_trim_iff.symm, fun line title => exists_captures_iff.symm,
    fun d output => ?_, fun d output body => ?_⟩
  · rw [body?, Option.map_eq_none_iff, linesAfterBanner?_eq_none_iff]
  · rw [body?, Option.map_eq_some_iff]
    constructor
    · rintro ⟨rest, hrest, rfl⟩
      obtain ⟨before, line, hlines, hbefore, hline⟩ := linesAfterBanner?_eq_some_iff.mp hrest
      obtain ⟨after, hsplit, hinside, hafter⟩ := bodyLines_eq_iff.mp (Eq.refl (bodyLines rest))
      exact ⟨before, line, bodyLines rest, after, hsplit ▸ hlines, hbefore, hline, hinside, hafter,
        rfl⟩
    · rintro ⟨before, line, inside, after, hlines, hbefore, hline, hinside, hafter, rfl⟩
      refine ⟨inside ++ after,
        linesAfterBanner?_eq_some_iff.mpr ⟨before, line, hlines, hbefore, hline⟩, ?_⟩
      rw [bodyLines_eq_iff.mpr ⟨after, rfl, hinside, hafter⟩]

end Section

/-! ## Transcripts -/

open Section

/-- A section as the tool prints it: a banner line with a title of the domain, then lines that are
no banner lines. -/
structure PrintedSection where
  domain : Domain
  banner : List Char
  body : List (List Char)
  titled : ∃ title, Names domain title ∧ IsBanner title banner
  plain : ∀ line ∈ body, IsPlainLine line

def PrintedSection.lines (s : PrintedSection) : List (List Char) := s.banner :: s.body

/-- The output of the tool: lines in front of the first section, then the sections. -/
structure Transcript where
  preamble : List (List Char)
  sections : List PrintedSection
  plain : ∀ line ∈ preamble, IsPlainLine line

namespace Transcript

variable {d : Domain}

def lines (t : Transcript) : List (List Char) :=
  t.preamble ++ t.sections.flatMap PrintedSection.lines

/-- The text has the lines of the transcript, whichever line ends it uses. -/
def PrintedAs (t : Transcript) (output : String) : Prop := Text.lines output.toList = t.lines

theorem printedAs_flatMap {t : Transcript}
    (h : ∀ line ∈ t.lines, '\n' ∉ line ∧ line.getLast? ≠ some '\r') :
    t.PrintedAs (String.ofList (t.lines.flatMap fun line => line ++ ['\n'])) := by
  rw [PrintedAs, String.toList_ofList, lines_flatMap h]

def single (s : PrintedSection) : Transcript := ⟨[], [s], nofun⟩

/-- The first section of a domain. -/
def section? (t : Transcript) (d : Domain) : Option PrintedSection :=
  t.sections.find? (·.domain = d)

/-- The scan goes by the sections of other domains and takes the body of the first one that is of
this domain. -/
theorem bodyLines_sections (d : Domain) (sections : List PrintedSection) :
    (linesAfterBanner? d (sections.flatMap PrintedSection.lines)).map bodyLines =
      (sections.find? (·.domain = d)).map PrintedSection.body := by
  induction sections with
  | nil => rfl
  | cons s rest ih =>
    obtain ⟨title, hnames, hbanner⟩ := s.titled
    rw [List.flatMap_cons, PrintedSection.lines, List.cons_append]
    by_cases hd : s.domain = d
    · rw [List.find?_cons_of_pos (by simpa using hd),
        linesAfterBanner?_of_names (hd ▸ hnames) hbanner, Option.map_some, Option.map_some,
        bodyLines_append s.plain]
      -- what follows the body is the end of the text or the banner of the next section
      intro line hline
      cases rest with
      | nil => exact nomatch hline
      | cons next rest =>
        obtain ⟨title', hnames', hbanner'⟩ := next.titled
        obtain rfl : next.banner = line := Option.some.inj hline
        exact ⟨title', hnames'.isTitle, hbanner'⟩
    · rw [List.find?_cons_of_neg (by simpa using hd), linesAfterBanner?_of_not_names,
        linesAfterBanner?_of_plain s.plain, ih]
      intro title' htitle' hnames'
      rw [title?_of_isBanner hnames.isTitle hbanner] at htitle'
      rw [← Option.some.inj htitle'] at hnames'
      exact hd (hnames.domain_eq hnames')

variable {t : Transcript} {output : String}

theorem body?_eq (h : t.PrintedAs output) (d : Domain) :
    body? d output.toList = (t.section? d).map fun s => join ['\n'] s.body := by
  have hscan := bodyLines_sections d t.sections
  rw [body?, h, lines, linesAfterBanner?_of_plain t.plain, ← Function.comp_def (join ['\n']),
    ← Option.map_map, hscan, Option.map_map]
  rfl

theorem classify_eq (h : t.PrintedAs output) (d : Domain) :
    d.classify output = match t.section? d with
      | none => Verdict.noSection d
      | some s => (Verdict.ofBody? d (join ['\n'] s.body)).getD (Verdict.noData d) := by
  rw [Domain.classify, body?_eq h]
  cases t.section? d <;> rfl

theorem section?_single (s : PrintedSection) : (single s).section? s.domain = some s := by
  simp [single, section?]

/-- With at most one section for each domain their order does not matter. -/
theorem section?_perm {t' : Transcript} (hperm : t'.sections.Perm t.sections)
    (hone : (t.sections.map PrintedSection.domain).Nodup) (d : Domain) :
    t'.section? d = t.section? d := by
  refine (List.find?_eq_find?_of_perm hperm.symm ?_).symm
  rintro s ⟨hs, hsd⟩ s' ⟨hs', hsd'⟩
  refine List.inj_on_of_nodup_map hone hs hs' ?_
  exact (of_decide_eq_true hsd).trans (of_decide_eq_true hsd').symm

/-- Sections do not interfere. The verdict on a domain is that on its first section alone, and
NOT_FOUND if it has none; so it is the same for every transcript with this section, whatever else
stands there, and with at most one section for each domain it is the same in every order of the
sections. -/
theorem sections_apart (t : Transcript) (output : String) (h : t.PrintedAs output) (d : Domain) :
    (∀ s alone, t.section? d = some s → (single s).PrintedAs alone →
      d.classify output = d.classify alone) ∧
    ((∀ s ∈ t.sections, s.domain ≠ d) → d.classify output = Verdict.noSection d) ∧
    (∀ t' output', Transcript.PrintedAs t' output' → t'.section? d = t.section? d →
      d.classify output' = d.classify output) ∧
    ((t.sections.map PrintedSection.domain).Nodup →
      ∀ t' output', Transcript.PrintedAs t' output' → t'.sections.Perm t.sections →
        d.classify output' = d.classify output) := by
  have hsame : ∀ t' output', Transcript.PrintedAs t' output' → t'.section? d = t.section? d →
      d.classify output' = d.classify output := by
    intro t' output' h' hsection
    rw [classify_eq h', hsection, classify_eq h]
  refine ⟨fun s alone hs halone => ?_, fun hnone => ?_, hsame, fun hone t' output' h' hperm => ?_⟩
  · have hd : s.domain = d := by simpa using List.find?_some hs
    subst hd
    exact (hsame (single s) alone halone ((section?_single s).trans hs.symm)).symm
  · have hsection : t.section? d = none := by simpa [section?] using hnone
    rw [classify_eq h, hsection]
  · exact hsame t' output' h' (section?_perm hperm hone d)

/-- A section with one line, its title between rules of five signs. -/
def oneLine (d : Domain) (title line : String) (hnames : Names d title.toList)
    (hline : title? line.toList = none) : PrintedSection where
  domain := d
  banner := "=====".toList ++ ([' '] ++ title.toList ++ [' '] ++ "=====".toList)
  body := [line.toList]
  titled := ⟨title.toList, hnames, 5, 5, [], [' '], [' '], [], by decide, by decide,
    List.all_eq_true.mp (by decide), by simp⟩
  plain := by simpa using title?_eq_none_iff.mp hline

def sampleSlack : PrintedSection :=
  oneLine .timing "STA" "setup: WNS=-0.10" ⟨"sta", by decide, by decide⟩ (by decide)

def sampleTree : PrintedSection :=
  oneLine .clock "Clock_Tree" "core: latency 510 ps" ⟨"clock tree", by decide, by decide⟩
    (by decide)

def sampleSlackAgain : PrintedSection :=
  oneLine .timing "timing" "setup: WNS=0.25" ⟨"timing", by decide, by decide⟩ (by decide)

/-- A first line, then slack, latency and slack again. -/
def sample : Transcript where
  preamble := ["tool 1.0".toList]
  sections := [sampleSlack, sampleTree, sampleSlackAgain]
  plain := by simpa using title?_eq_none_iff.mp (by decide)

def sampleText : String :=
  "tool 1.0
===== STA =====
setup: WNS=-0.10
===== Clock_Tree =====
core: latency 510 ps
===== timing =====
setup: WNS=0.25
"

theorem sampleText_printed : sample.PrintedAs sampleText := by
  unfold PrintedAs
  decide +kernel

theorem sections_apart_sample :
    Domain.timing.classify sampleText =
      Domain.timing.classify "===== STA =====\r\nsetup: WNS=-0.10" ∧
    Domain.formal.classify sampleText = Verdict.noSection .formal ∧
    Domain.clock.classify "===== STA =====\nsetup: WNS=-0.10
===== Clock_Tree =====\ncore: latency 510 ps" =
      Domain.clock.classify "===== Clock_Tree =====\ncore: latency 510 ps
===== STA =====\nsetup: WNS=-0.10" := by
  have htiming := sections_apart sample sampleText sampleText_printed .timing
  have hformal := sections_apart sample sampleText sampleText_printed .formal
  have hclock := sections_apart ⟨[], [sampleTree, sampleSlack], nofun⟩
    "===== Clock_Tree =====\ncore: latency 510 ps\n===== STA =====\nsetup: WNS=-0.10"
    (by unfold PrintedAs; decide +kernel) .clock
  refine ⟨htiming.1 sampleSlack _ rfl (by unfold PrintedAs; decide +kernel),
    hformal.2.1 (by decide), ?_⟩
  exact hclock.2.2.2 (by decide) ⟨[], [sampleSlack, sampleTree], nofun⟩ _
    (by unfold PrintedAs; decide +kernel) (.swap _ _ _)

end Transcript

end Signoff
