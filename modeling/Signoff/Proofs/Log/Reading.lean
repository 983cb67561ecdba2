import Mathlib.Logic.Relation
import Signoff.Proofs.CompletionLog

/-!
# What a log says

A line says which job was completed when, and of the unit's name what a line can hold: no two jobs
and no two instants have a line in common (`line_round_trip`). A log says of a job what the first
line that names it says, so lines that name none can stand anywhere in it (`first_line_counts`).
-/

namespace Signoff.CompletionLog

open Text Time

/-! ## Lines -/

/-- Values that are read back from what is written of them are told apart by it. -/
theorem eq_of_read {α β : Type} {read : β → Option α} {written written' : β} {a a' : α}
    (h : written = written') (hread : read written = some a) (hread' : read written' = some a') :
    a = a' := by
  rw [h, hread', Option.some.injEq] at hread
  exact hread.symm

theorem write_injective {t t' : Instant} (ht : t.IsStrict) (ht' : t'.IsStrict)
    (h : t.write.toList = t'.write.toList) : t = t' :=
  eq_of_read h (read?_write_strict ht) (read?_write_strict ht')

theorem name_injective {d d' : Domain} (h : d.name.toList = d'.name.toList) : d = d' :=
  eq_of_read h (domain_of_name d).2.1 (domain_of_name d').2.1

theorem digitsOf_toNat_injective {n n' : UInt64} (h : digitsOf n.toNat = digitsOf n'.toNat) :
    n = n' :=
  eq_of_read h (readUInt64?_digitsOf n) (readUInt64?_digitsOf n')

/-- Lines are the same only if all their fields are. -/
theorem writeLine_inj {key key' : JobKey} {name name' : String} {t t' : Instant}
    (ht : t.IsStrict) (ht' : t'.IsStrict) : writeLine key name t = writeLine key' name' t' ↔
      key = key' ∧ sanitize name.toList = sanitize name'.toList ∧ t = t' := by
  constructor
  · intro h
    -- both lines are cut into the same four fields
    have hfields := splitFirst_writeLine key name t
    rw [h, splitFirst_writeLine] at hfields
    simp only [List.cons.injEq, and_true] at hfields
    obtain ⟨hdomain, hindex, hname, htime⟩ := hfields
    refine ⟨?_, hname.symm, (write_injective ht' ht htime).symm⟩
    obtain ⟨domain, index⟩ := key
    obtain ⟨domain', index'⟩ := key'
    obtain rfl : domain' = domain := name_injective hdomain
    obtain rfl : index' = index := digitsOf_toNat_injective hindex
    rfl
  · rintro ⟨rfl, hname, rfl⟩
    unfold writeLine
    rw [hname]

/-- A line is one line, and unless nothing is left of the unit's name it is read back: the job and
the instant as they were, and the name but for bars, line ends and the blanks around it. So lines
of different jobs or instants differ. -/
theorem line_round_trip (key : JobKey) (name : String) {t : Instant} (ht : t.IsStrict) :
    (∀ c ∈ (writeLine key name t).toList, c ≠ '\n' ∧ c ≠ '\r') ∧
    (trim (sanitize name.toList) ≠ [] → readLine? (writeLine key name t).toList =
      some (key, ⟨String.ofList (trim (sanitize name.toList)), t⟩)) ∧
    ∀ key' name' t', t'.IsStrict → key' ≠ key ∨ t' ≠ t →
      writeLine key' name' t' ≠ writeLine key name t := by
  refine ⟨fun c hc => not_lineEnd_of_mem_writeLine hc, fun hname => ?_,
    fun key' name' t' ht' hne heq => ?_⟩
  · rw [readLine?_writeLine_eq, read?_write_strict ht, Option.bind_some, if_neg]
    rwa [List.isEmpty_iff]
  · obtain ⟨hkey, -, htime⟩ := (writeLine_inj ht' ht).mp heq
    exact hne.elim (· hkey) (· htime)

/-- The last second of 2016 was followed by a leap second. -/
def leapSecond : Instant := ⟨1483228799, 1000000001⟩

theorem line_round_trip_leap_second :
    leapSecond.IsStrict ∧ trim (sanitize " ddr|phy\r\n 0\t".toList) ≠ [] ∧
    writeLine ⟨.physical, 18446744073709551615⟩ " ddr|phy\r\n 0\t" leapSecond =
      "PHYSICAL_VERIFICATION|18446744073709551615| ddr_phy__ 0\t|2016-12-31T23:59:60.000000001+00:00" ∧
    readLine? (writeLine ⟨.physical, 18446744073709551615⟩ " ddr|phy\r\n 0\t" leapSecond).toList =
      some (⟨.physical, 18446744073709551615⟩, ⟨"ddr_phy__ 0", leapSecond⟩) ∧
    writeLine ⟨.physical, 18446744073709551615⟩ "alu" ⟨1483228800, 1⟩ ≠
      writeLine ⟨.physical, 18446744073709551615⟩ " ddr|phy\r\n 0\t" leapSecond := by
  have hleap : leapSecond.IsStrict :=
    ⟨⟨by decide +kernel, by decide, by decide⟩, by decide +kernel⟩
  have hnext : (⟨1483228800, 1⟩ : Instant).IsStrict :=
    ⟨⟨by decide +kernel, by decide, by decide⟩, by decide +kernel⟩
  have hname : trim (sanitize " ddr|phy\r\n 0\t".toList) ≠ [] := by decide +kernel
  obtain ⟨-, hread, hdiffer⟩ :=
    line_round_trip ⟨.physical, 18446744073709551615⟩ " ddr|phy\r\n 0\t" hleap
  refine ⟨hleap, hname, by decide +kernel, (hread hname).trans ?_,
    hdiffer _ _ _ hnext (.inr (by decide))⟩
  decide +kernel

/-! ## Logs -/

/-- The text is empty or ends with a line feed. -/
def IsEnded (text : String) : Prop := text = "" ∨ text.toList.getLast? = some '\n'

theorem IsEnded.isClosed {text : String} (h : IsEnded text) : IsClosed text := by
  intro last hlast
  -- the piece behind the last line feed is empty
  have hempty : last = [] := by
    rcases h with rfl | h
    · exact (Option.some.inj hlast).symm
    · rw [← List.dropLast_append_getLast? _ h, splitOn_append_cons, List.getLast?_append] at hlast
      exact (Option.some.inj hlast).symm
  rw [hempty]
  exact nofun

/-- What a line says about a job. -/
def entryFor? (k : JobKey) (line : List Char) : Option Completion :=
  (readLine? line).bind fun e => if e.1 = k then some e.2 else none

theorem entryFor?_eq_some {k : JobKey} {line : List Char} {c : Completion} :
    entryFor? k line = some c ↔ readLine? line = some (k, c) := by
  unfold entryFor?
  constructor
  · intro h
    obtain ⟨e, he, h⟩ := Option.bind_eq_some_iff.mp h
    split at h
    next hkey => rw [he, ← hkey, ← Option.some.inj h]
    next => exact nomatch h
  · intro h
    rw [h, Option.bind_some, if_pos rfl]

/-- The first line that says something about a job counts. -/
theorem lookup?_read_eq_findSome? (text : String) (k : JobKey) :
    (read text).lookup? k = (lines text.toList).findSome? (entryFor? k) := by
  unfold read
  rw [Completions.lookup?_ofLines]
  induction lines text.toList with
  | nil => rfl
  | cons line ls ih =>
    rw [List.findSome?_cons, ← ih]
    unfold entryFor?
    cases hline : readLine? line with
    | none => rw [List.filterMap_cons_none hline, Option.bind_none]
    | some e =>
      rw [List.filterMap_cons_some hline, Option.bind_some]
      by_cases hkey : e.1 = k
      · rw [List.find?_cons_of_pos (by simpa using hkey), if_pos hkey, Option.map_some]
      · rw [List.find?_cons_of_neg (by simpa using hkey), if_neg hkey]

theorem lookup?_read_eq_some_iff {text : String} {k : JobKey} {c : Completion} :
    (read text).lookup? k = some c ↔ ∃ before line after,
      lines text.toList = before ++ line :: after ∧ readLine? line = some (k, c) ∧
        ∀ l ∈ before, ∀ c', readLine? l ≠ some (k, c') := by
  rw [lookup?_read_eq_findSome?, List.findSome?_eq_some_iff]
  simp only [entryFor?_eq_some, Option.eq_none_iff_forall_ne_some, ne_eq]

/-- A blank or malformed line. -/
def IsNoise (line : String) : Prop :=
  '\n' ∉ line.toList ∧ (isBlankText line.toList = true ∨ readLine? line.toList = none)

/-- The second text has one line of noise more than the first, in front of a line or at the end. -/
def AddsNoise (text noisy : String) : Prop :=
  ∃ front line back, IsEnded front ∧ IsNoise line ∧ text = front ++ back ∧
    noisy = front ++ (line ++ "\n") ++ back

/-- A line of noise says nothing about any job. -/
theorem lookup?_read_noise {line : String} (h : IsNoise line) (k : JobKey) :
    (read (line ++ "\n")).lookup? k = none := by
  obtain ⟨hfeed, hnoise⟩ := h
  have hread : readLine? line.toList = none := by
    rcases hnoise with hblank | hread
    · exact readLine?_of_blank fun c hc => List.all_eq_true.mp hblank c hc
    · exact hread
  have hpieces : splitOn '\n' (line ++ "\n").toList = [line.toList, []] := by
    rw [String.toList_append]
    show splitOn '\n' (line.toList ++ '\n' :: []) = _
    rw [splitOn_append_cons, splitOn_of_not_mem '\n' hfeed]
    rfl
  rw [lookup?_read_eq, hpieces, List.filterMap_cons_none hread]
  rfl

theorem isEnded_append_feed (line : String) : IsEnded (line ++ "\n") := by
  refine Or.inr ?_
  rw [String.toList_append, List.getLast?_append]
  rfl

theorem AddsNoise.lookup?_eq {text noisy : String} (h : AddsNoise text noisy) (k : JobKey) :
    (read noisy).lookup? k = (read text).lookup? k := by
  obtain ⟨front, line, back, hfront, hline, rfl, rfl⟩ := h
  -- the line is a log of its own between the two parts
  rw [String.append_assoc, lookup?_read_append hfront.isClosed,
    lookup?_read_append (isEnded_append_feed line).isClosed, lookup?_read_noise hline,
    Option.none_or, lookup?_read_append hfront.isClosed]

/-- A log says of a job what the first line that names it says. Of two logs one behind the other
the first one counts where it says something, and blank and malformed lines may be put between the
lines of a log or taken away, any number of them. -/
theorem first_line_counts :
    (∀ text more, IsEnded text → ∀ k,
      (read (text ++ more)).lookup? k = ((read text).lookup? k).or ((read more).lookup? k)) ∧
    (∀ text other, Relation.EqvGen AddsNoise text other → ∀ k,
      (read other).lookup? k = (read text).lookup? k) ∧
    ∀ text k c, (read text).lookup? k = some c ↔ ∃ before line after,
      lines text.toList = before ++ line :: after ∧ readLine? line = some (k, c) ∧
        ∀ l ∈ before, ∀ c', readLine? l ≠ some (k, c') := by
  refine ⟨fun text more h k => lookup?_read_append h.isClosed more k, fun text other h k => ?_,
    fun text k c => lookup?_read_eq_some_iff⟩
  -- any number of lines put in or taken away
  induction h with
  | rel text noisy h => exact h.lookup?_eq k
  | refl text => rfl
  | symm text other _ ih => exact ih.symm
  | trans text middle other _ _ first second => exact second.trans first

def firstLog : String := "TIMING|0|alu|2024-05-01T10:00:00+00:00\r\n"

/-- The same with a blank line in front and a line without a number behind. -/
def noisyLog : String := "\t\r\n" ++ firstLog ++ "TIMING|x|alu|2024-05-01T10:00:00+00:00\n"

/-- Another line of the job, one of a second job, and one that was cut off. -/
def secondLog : String :=
  "timing|0|renamed|2024-05-02T10:00:00Z\n cts|+3|phy|2024-05-01T13:00:00+02:00 \nCLOCK|4|ddr|2024"

theorem first_line_counts_two_logs :
    IsEnded firstLog ∧ Relation.EqvGen AddsNoise firstLog noisyLog ∧
    (read (firstLog ++ secondLog)).lookup? ⟨.timing, 0⟩ = some ⟨"alu", ⟨1714557600, 0⟩⟩ ∧
    (read (firstLog ++ secondLog)).lookup? ⟨.clock, 3⟩ = some ⟨"phy", ⟨1714561200, 0⟩⟩ ∧
    (read noisyLog).lookup? ⟨.timing, 0⟩ = some ⟨"alu", ⟨1714557600, 0⟩⟩ := by
  obtain ⟨happend, hnoise, hfirst⟩ := first_line_counts
  have hended : IsEnded firstLog := .inr (by decide)
  have halu : (read firstLog).lookup? ⟨.timing, 0⟩ = some ⟨"alu", ⟨1714557600, 0⟩⟩ :=
    (hfirst _ _ _).mpr ⟨[], "TIMING|0|alu|2024-05-01T10:00:00+00:00".toList, [], by decide,
      by decide +kernel, nofun⟩
  have hadds : Relation.EqvGen AddsNoise firstLog noisyLog := by
    refine .trans _ ("\t\r\n" ++ firstLog) _ (.rel _ _ ?_) (.rel _ _ ?_)
    · exact ⟨"", "\t\r", firstLog, .inl rfl, ⟨by decide, .inl (by decide)⟩, by simp, by simp⟩
    · exact ⟨"\t\r\n" ++ firstLog, "TIMING|x|alu|2024-05-01T10:00:00+00:00", "",
        .inr (by decide), ⟨by decide, .inr (by decide +kernel)⟩, by simp, by simp [noisyLog]⟩
  refine ⟨hended, hadds, ?_, ?_, (hnoise _ _ hadds _).trans halu⟩
  · rw [happend _ _ hended, halu, Option.some_or]
  · rw [happend _ _ hended]
    decide +kernel

end Signoff.CompletionLog
