import Mathlib.Data.List.TakeWhile
import Signoff.Proofs.Text.Digits

/-!
# Writing and reading instants

A day number becomes a date of the calendar and comes back from it (`toDays_ofDays`,
`isDate_ofDays`).  So an instant of the years 0 to 9999 is read back as it was written, also from a
leap second (`read?_write_strict`).  The loose reader takes every instant that can be dated, from any year and also
from a leap second, as it was written (`readLoose?_writeZulu`).
-/

namespace Signoff.Time

open Text

/-! ## Fields of a fixed width -/

theorem length_padded {width n : Nat} (hwidth : 0 < width) (hn : n < 10 ^ width) :
    (padded width n).length = width := by
  have hle : (digitsOf n).length ≤ width :=
    (Nat.length_toDigits_le_iff (by omega) hwidth).mpr hn
  unfold padded
  rw [List.length_append, List.length_replicate]
  omega

theorem readDigits?_padded {width n : Nat} (hwidth : 0 < width) (hn : n < 10 ^ width)
    (rest : List Char) : readDigits? width width (padded width n ++ rest) = some (n, rest) := by
  have hlen := length_padded hwidth hn
  have htake : ((padded width n ++ rest).take width).takeWhile Char.isDigit = padded width n := by
    rw [List.take_append_of_le_length (by omega), List.take_of_length_le (by omega),
      List.takeWhile_eq_self_iff]
    exact fun c hc => isDigit_of_mem_padded hc
  have hdrop : (padded width n ++ rest).drop width = rest := by
    have hleft := @List.drop_left _ (padded width n) rest
    rwa [hlen] at hleft
  unfold readDigits?
  dsimp only
  rw [htake, hlen, if_neg (by omega), ofDigits_padded, hdrop]

theorem expect?_self (c : Char) (rest : List Char) : expect? c (c :: rest) = some rest :=
  if_pos rfl

theorem skipDateMark?_mark (rest : List Char) : skipDateMark? ('T' :: rest) = some rest := rfl

/-! ## The calendar -/

/-- The year that a day of an era lies in, and the day within it. -/
theorem dayOfYear_bounds {e y : Int} (h0 : 0 ≤ e) (h1 : e < 146097)
    (hy : y = (e - e / 1460 + e / 36524 - e / 146096) / 365) :
    (0 ≤ y ∧ y ≤ 399) ∧ 0 ≤ e - (365 * y + y / 4 - y / 100) ∧
      e - (365 * y + y / 4 - y / 100) ≤ 365 := by
  have hyear : 0 ≤ y ∧ y ≤ 399 := by omega
  -- centuries of an era, and centuries before the year
  have hera : e / 36524 = 0 ∨ e / 36524 = 1 ∨ e / 36524 = 2 ∨ e / 36524 = 3 ∨ e / 36524 = 4 := by
    omega
  have hcentury : y / 100 = 0 ∨ y / 100 = 1 ∨ y / 100 = 2 ∨ y / 100 = 3 := by omega
  have hleaps : 25 * (e / 36524) ≤ e / 1460 := by omega
  refine ⟨hyear, ?_, ?_⟩
  · rcases hera with h | h | h | h | h <;> rcases hcentury with h' | h' | h' | h' <;> omega
  · rcases hera with h | h | h | h | h <;> rcases hcentury with h' | h' | h' | h' <;> omega

/-- Only a leap year, counted from March, has a day 365. -/
theorem leap_of_dayOfYear {e y : Int} (h0 : 0 ≤ e) (h1 : e < 146097)
    (hy : y = (e - e / 1460 + e / 36524 - e / 146096) / 365)
    (hday : e - (365 * y + y / 4 - y / 100) = 365) :
    (y + 1) % 4 = 0 ∧ ((y + 1) % 100 ≠ 0 ∨ (y + 1) % 400 = 0) := by
  obtain ⟨⟨hlow, hhigh⟩, -⟩ := dayOfYear_bounds h0 h1 hy
  have hcentury : y / 100 ≤ e / 36524 := by omega
  -- the last day of an era falls into its last year, which is a leap year
  have hlast : e / 146096 = 0 ∨ e = 146096 := by omega
  -- otherwise the year would have to be longer than its place in the cycle of four years allows
  -- or in that of a century
  have hfour : (y + 1) % 4 ≠ 0 → e / 1460 ≤ y / 4 := by
    intro hne
    have hmod : y % 4 = 0 ∨ y % 4 = 1 ∨ y % 4 = 2 := by omega
    rcases hmod with hmod | hmod | hmod <;> omega
  have hcent : (y + 1) % 100 = 0 → (y + 1) % 400 ≠ 0 → e / 36524 ≤ y / 100 := by
    intro heq hne
    omega
  refine ⟨?_, ?_⟩
  · by_contra hne
    have := hfour hne
    rcases hlast with hlast | hlast <;> omega
  · by_contra hne
    rw [not_or, not_not] at hne
    have := hcent hne.1 hne.2
    rcases hlast with hlast | hlast <;> omega

/-- What the date of a day number is made of: the era, the year of the era and the day of the year
from March on. -/
structure Date.Parts (days : Int) (d : Date) (era y doy : Int) : Prop where
  year : 0 ≤ y ∧ y ≤ 399
  dayOfYear : 0 ≤ doy ∧ doy ≤ 365
  leap : doy = 365 → (y + 1) % 4 = 0 ∧ ((y + 1) % 100 ≠ 0 ∨ (y + 1) % 400 = 0)
  days : days + 719468 = era * 146097 + (365 * y + y / 4 - y / 100) + doy
  month : ((5 * doy + 2) / 153 < 10 ∧ (d.month : Int) = (5 * doy + 2) / 153 + 3 ∧
      d.year = y + era * 400) ∨
    (10 ≤ (5 * doy + 2) / 153 ∧ (d.month : Int) = (5 * doy + 2) / 153 - 9 ∧
      d.year = y + era * 400 + 1)
  day : (d.day : Int) = doy - (153 * ((5 * doy + 2) / 153) + 2) / 5 + 1

theorem Date.exists_parts (days : Int) : ∃ era y doy, (ofDays days).Parts days era y doy := by
  have hdiv : Int.fdiv (days + 719468) 146097 = (days + 719468) / 146097 :=
    Int.fdiv_eq_ediv_of_nonneg _ (by decide)
  have h0 : 0 ≤ days + 719468 - (days + 719468) / 146097 * 146097 := by omega
  have h1 : days + 719468 - (days + 719468) / 146097 * 146097 < 146097 := by omega
  obtain ⟨hyear, hday⟩ := dayOfYear_bounds h0 h1 rfl
  have hleap := leap_of_dayOfYear h0 h1 rfl
  unfold ofDays
  simp only [hdiv]
  -- from here on only the bounds of the parts count
  generalize he : days + 719468 - (days + 719468) / 146097 * 146097 = e at *
  generalize hy : (e - e / 1460 + e / 36524 - e / 146096) / 365 = y at *
  generalize hd : e - (365 * y + y / 4 - y / 100) = doy at *
  refine ⟨(days + 719468) / 146097, y, doy, hyear, hday, hleap, by omega, ?_, ?_⟩
  · by_cases hm : (5 * doy + 2) / 153 < 10
    · refine Or.inl ⟨hm, ?_, ?_⟩
      · dsimp only
        rw [if_pos hm]
        omega
      · dsimp only
        rw [if_pos hm, if_neg (by omega)]
        omega
    · refine Or.inr ⟨by omega, ?_, ?_⟩
      · dsimp only
        rw [if_neg hm]
        omega
      · dsimp only
        rw [if_neg hm, if_pos (by omega)]
  · dsimp only
    omega

/-- A date of the calendar. -/
structure Date.IsDate (d : Date) : Prop where
  month : 1 ≤ d.month ∧ d.month ≤ 12
  day : 1 ≤ d.day ∧ d.day ≤ daysInMonth d.year d.month

theorem isLeapYear_iff (year : Int) :
    isLeapYear year = true ↔ year % 4 = 0 ∧ (year % 100 ≠ 0 ∨ year % 400 = 0) := by
  unfold isLeapYear
  simp only [Bool.and_eq_true, Bool.or_eq_true, beq_iff_eq, bne_iff_ne]

theorem isDate_ofDays (days : Int) : (Date.ofDays days).IsDate := by
  obtain ⟨era, y, doy, h⟩ := Date.exists_parts days
  obtain ⟨h0, h365⟩ := h.dayOfYear
  have hmonth := h.month
  have hday := h.day
  -- a 29th of February is the last day of a year counted from March
  have hshort : (Date.ofDays days).month = 2 → (Date.ofDays days).day = 29 →
      isLeapYear (Date.ofDays days).year = true := by
    intro hfeb hlast
    have := h.leap (by omega)
    rw [isLeapYear_iff]
    omega
  refine ⟨by omega, by omega, ?_⟩
  unfold daysInMonth
  split
  next hfeb =>
    split
    · omega
    next hleap =>
      have hne : (Date.ofDays days).day ≠ 29 := fun hlast => hleap (hshort hfeb hlast)
      omega
  · split
    next hthirty =>
      simp only [Bool.or_eq_true, decide_eq_true_eq] at hthirty
      omega
    · omega

/-- A day number comes back from its date. -/
theorem toDays_ofDays (days : Int) : (Date.ofDays days).toDays = days := by
  obtain ⟨era, y, doy, h⟩ := Date.exists_parts days
  obtain ⟨h0, h365⟩ := h.dayOfYear
  obtain ⟨hy0, hy399⟩ := h.year
  have hdays := h.days
  have hday := h.day
  -- both ways count the year from March, so that leap days come last
  have hshifted : (if (Date.ofDays days).month ≤ 2 then (Date.ofDays days).year - 1
      else (Date.ofDays days).year) = y + era * 400 := by
    rcases h.month with ⟨hm, hmonth, hyear⟩ | ⟨hm, hmonth, hyear⟩
    · rw [if_neg (by omega), hyear]
    · rw [if_pos (by omega), hyear]
      omega
  have hmarch : (if (Date.ofDays days).month ≤ 2 then ((Date.ofDays days).month : Int) + 9
      else (Date.ofDays days).month - 3) = (5 * doy + 2) / 153 := by
    rcases h.month with ⟨hm, hmonth, hyear⟩ | ⟨hm, hmonth, hyear⟩
    · rw [if_neg (by omega)]
      omega
    · rw [if_pos (by omega)]
      omega
  have hera : Int.fdiv (y + era * 400) 400 = era := by
    rw [Int.fdiv_eq_ediv_of_nonneg _ (by decide)]
    omega
  unfold Date.toDays
  simp only [hshifted, hmarch, hera, hday]
  have hrest : y + era * 400 - era * 400 = y := by omega
  rw [hrest]
  omega

/-- The days of the years 0 to 9999. -/
theorem year_ofDays {days : Int} (h0 : -719528 ≤ days) (h1 : days < 2932897) :
    0 ≤ (Date.ofDays days).year ∧ (Date.ofDays days).year ≤ 9999 := by
  obtain ⟨era, y, doy, h⟩ := Date.exists_parts days
  obtain ⟨hd0, hd365⟩ := h.dayOfYear
  obtain ⟨hy0, hy399⟩ := h.year
  have hdays := h.days
  have hlow : -1 ≤ era := by omega
  have hhigh : era ≤ 24 := by omega
  -- only the ends of the first and the last era have to be looked at by the day
  have hfirst : era = -1 → y = 399 ∧ 306 ≤ doy := by
    intro hera
    omega
  have hlast : era = 24 → y = 399 → doy < 306 := by
    intro hera hy
    omega
  rcases h.month with ⟨hm, -, hyear⟩ | ⟨hm, -, hyear⟩ <;> omega

/-- The days of the years that can be dated. -/
theorem datedYear_ofDays {days : Int} (h0 : -96465292 ≤ days) (h1 : days < 95026237) :
    -262143 ≤ (Date.ofDays days).year ∧ (Date.ofDays days).year ≤ 262142 := by
  obtain ⟨era, y, doy, h⟩ := Date.exists_parts days
  obtain ⟨hd0, hd365⟩ := h.dayOfYear
  obtain ⟨hy0, hy399⟩ := h.year
  have hdays := h.days
  have hlow : -656 ≤ era := by omega
  have hhigh : era ≤ 655 := by omega
  -- the first year starts with the last ten months before March of its era's year 256
  have hfirst : era = -656 → 256 ≤ y ∧ (y = 256 → 306 ≤ doy) := by
    intro hera
    omega
  have hlast : era = 655 → y ≤ 142 ∧ (y = 142 → doy < 306) := by
    intro hera
    omega
  rcases h.month with ⟨hm, -, hyear⟩ | ⟨hm, -, hyear⟩ <;> omega

/-! ## Instants -/

/-- An instant of the years 0 to 9999 that lies in no leap second. -/
structure Instant.IsPlain (t : Instant) : Prop where
  first : -62167219200 ≤ t.seconds
  last : t.seconds < 253402300800
  nanos : t.nanos < 1000000000

/-- An instant that can be dated; one in a leap second follows second 59 of its minute. -/
structure Instant.IsExact (t : Instant) : Prop where
  dated : t.isDated = true
  nanos : t.nanos < 2000000000
  leap : 1000000000 ≤ t.nanos → t.seconds % 60 = 59

theorem Instant.isDated_iff (t : Instant) :
    t.isDated = true ↔ -96465292 * 86400 ≤ t.seconds ∧ t.seconds < 95026237 * 86400 := by
  have hfirst : Date.toDays ⟨-262143, 1, 1⟩ = -96465292 := by decide
  have hafter : Date.toDays ⟨262143, 1, 1⟩ = 95026237 := by decide
  unfold Instant.isDated
  rw [hfirst, hafter]
  simp

theorem Instant.IsPlain.isExact {t : Instant} (h : t.IsPlain) : t.IsExact where
  dated := by
    rw [Instant.isDated_iff]
    have := h.first
    have := h.last
    omega
  nanos := lt_trans h.nanos (by decide)
  leap hleap := absurd h.nanos (by omega)

/-- The year that an instant is dated in. -/
def Instant.year (t : Instant) : Int := (Date.ofDays (t.seconds.fdiv 86400)).year

/-- An instant that the strict form has a year for. -/
structure Instant.IsStrict (t : Instant) : Prop where
  exact : t.IsExact
  year : 0 ≤ t.year ∧ t.year ≤ 9999

theorem Instant.IsPlain.isStrict {t : Instant} (h : t.IsPlain) : t.IsStrict where
  exact := h.isExact
  year := by
    have := h.first
    have := h.last
    have hdiv : t.seconds.fdiv 86400 = t.seconds / 86400 :=
      Int.fdiv_eq_ediv_of_nonneg _ (by decide)
    exact year_ofDays (by omega) (by omega)

theorem readNanos?_writeFraction {nanos : Nat} (h : nanos < 1000000000) {c : Char}
    (hdigit : c.isDigit = false) (hpoint : c ≠ '.') (rest : List Char) :
    readNanos? (writeFraction nanos ++ c :: rest) = some (nanos, c :: rest) := by
  -- the three widths differ in the power of ten that makes them nanoseconds
  have hpadded : ∀ width n, 0 < width → n < 10 ^ width → width ≤ 9 →
      readNanos? ('.' :: padded width n ++ c :: rest) =
        some (n * Nat.pow 10 (9 - width), c :: rest) := by
    intro width n hwidth hn hnine
    have hlen := length_padded hwidth hn
    obtain ⟨htake, hdrop⟩ := @takeWhile_dropWhile_append Char.isDigit (padded width n) (c :: rest)
      (fun d hd => isDigit_of_mem_padded hd) (fun d hd => by rw [← Option.some.inj hd, hdigit])
    have hne : (padded width n).isEmpty = false := by
      rw [List.isEmpty_eq_false_iff, ← List.length_pos_iff]
      omega
    have hnine : (padded width n).take 9 = padded width n := List.take_of_length_le (by omega)
    rw [List.cons_append, readNanos?]
    simp only [htake, hdrop, hne, hnine, hlen, ofDigits_padded]
    rfl
  unfold writeFraction
  split
  next hzero =>
    subst hzero
    rw [List.nil_append]
    unfold readNanos?
    split
    next heq => exact absurd (List.cons.inj heq).1 hpoint
    next => rfl
  · split
    next hmillis =>
      rw [hpadded 3 _ (by decide) (by omega) (by decide)]
      congr 2
      show nanos / 1000000 * 1000000 = nanos
      omega
    · split
      next hmicros =>
        rw [hpadded 6 _ (by decide) (by omega) (by decide)]
        congr 2
        show nanos / 1000 * 1000 = nanos
        omega
      next =>
        rw [hpadded 9 _ (by decide) (by omega) (by decide)]
        congr 2
        exact Nat.mul_one nanos

/-- The instant of a day, a second within it and a leap second that follows it. -/
theorem ofLocal?_written {t : Instant} (h : t.IsExact) {day : Int} {ofDay : Nat}
    (hday : day = t.seconds.fdiv 86400)
    (hofDay : ofDay = (t.seconds - t.seconds.fdiv 86400 * 86400).toNat) :
    Instant.ofLocal? (Date.ofDays day) (ofDay / 3600) (ofDay / 60 % 60)
      (ofDay % 60 + if 1000000000 ≤ t.nanos then 1 else 0)
      (if 1000000000 ≤ t.nanos then t.nanos - 1000000000 else t.nanos) 0 = some t := by
  obtain ⟨hdated, hnanos, hleap⟩ := h
  obtain ⟨hfirst, hlast⟩ := t.isDated_iff.mp hdated
  have hdiv : t.seconds.fdiv 86400 = t.seconds / 86400 :=
    Int.fdiv_eq_ediv_of_nonneg _ (by decide)
  rw [hdiv] at hday hofDay
  have hrange : ofDay < 86400 := by omega
  obtain ⟨hy0, hy1⟩ := @datedYear_ofDays day (by omega) (by omega)
  obtain ⟨hmonth, hdayOf⟩ := isDate_ofDays day
  have hseconds : day * 86400 + ((ofDay / 3600 * 3600 + ofDay / 60 % 60 * 60 + ofDay % 60 : Nat) :
      Int) - 0 = t.seconds := by omega
  unfold Instant.ofLocal?
  rw [if_pos]
  -- second 60 is read as the leap second behind second 59
  · by_cases hl : 1000000000 ≤ t.nanos
    · have hlastSecond : ofDay % 60 = 59 := by have := hleap hl; omega
      have hnanos : t.nanos - 1000000000 + 1000000000 = t.nanos := by omega
      rw [hlastSecond] at hseconds
      simp only [hl, hlastSecond, if_true, Nat.reduceAdd, hnanos, toDays_ofDays, hseconds, hdated]
    · have hsecond : ofDay % 60 ≠ 60 := by omega
      simp only [hl, hsecond, if_false, Nat.add_zero, toDays_ofDays, hseconds, hdated, if_true]
  · simp only [Bool.and_eq_true, decide_eq_true_eq]
    split <;> omega

theorem daysInMonth_le (year : Int) (month : Nat) : daysInMonth year month ≤ 31 := by
  unfold daysInMonth
  split
  · split <;> decide
  · split <;> decide

theorem secondOfDay_lt (seconds : Int) : (seconds - seconds.fdiv 86400 * 86400).toNat < 86400 := by
  rw [Int.fdiv_eq_ediv_of_nonneg _ (by decide)]
  omega

/-- An instant of the years 0 to 9999 is read back as it was written. -/
theorem read?_write_strict {t : Instant} (h : t.IsStrict) :
    Instant.read? t.write.toList = some t := by
  obtain ⟨hy0, hy1⟩ := h.year
  unfold Instant.year at hy0 hy1
  obtain ⟨⟨-, hmonth⟩, -, hday⟩ := isDate_ofDays (t.seconds.fdiv 86400)
  have hdays := daysInMonth_le (Date.ofDays (t.seconds.fdiv 86400)).year
    (Date.ofDays (t.seconds.fdiv 86400)).month
  have hofDay := secondOfDay_lt t.seconds
  have hlocal := ofLocal?_written h.exact rfl rfl
  have hnanos : (if 1000000000 ≤ t.nanos then t.nanos - 1000000000 else t.nanos) < 1000000000 := by
    have := h.exact.nanos
    split <;> omega
  unfold Instant.write Instant.writeLocal
  rw [String.toList_ofList]
  dsimp only
  generalize Date.ofDays (t.seconds.fdiv 86400) = date at *
  generalize (t.seconds - t.seconds.fdiv 86400 * 86400).toNat = ofDay at *
  -- a leap second is written as second 60, which has two digits as well
  generalize hsecond : (ofDay % 60 + if 1000000000 ≤ t.nanos then 1 else 0) = second at *
  have hsixty : second < 100 := by
    rw [← hsecond]
    split <;> omega
  generalize (if 1000000000 ≤ t.nanos then t.nanos - 1000000000 else t.nanos) = nanos at *
  have hyear : writeYear date.year = padded 4 date.year.toNat := by
    unfold writeYear
    rw [if_pos (by simp [hy0, hy1])]
  have hback : (⟨(date.year.toNat : Int), date.month, date.day⟩ : Date) = date := by
    rw [Int.toNat_of_nonneg hy0]
  have hoffset : readOffset? (expect? ':') "+00:00".toList = some (0, []) := by decide
  have hfraction := readNanos?_writeFraction hnanos (c := '+') (by decide) (by decide)
    "00:00".toList
  have hplus : "+00:00".toList = '+' :: "00:00".toList := by decide
  rw [hyear]
  simp only [List.append_assoc, List.cons_append]
  -- each field is read up to the mark behind it
  unfold Instant.read?
  simp only [Option.bind_eq_bind]
  rw [readDigits?_padded (by decide) (by omega), Option.bind_some, expect?_self, Option.bind_some,
    readDigits?_padded (by decide) (by omega), Option.bind_some, expect?_self, Option.bind_some,
    readDigits?_padded (by decide) (by omega), Option.bind_some, skipDateMark?_mark,
    Option.bind_some,
    readDigits?_padded (by decide) (by omega), Option.bind_some, expect?_self, Option.bind_some,
    readDigits?_padded (by decide) (by omega), Option.bind_some, expect?_self, Option.bind_some,
    readDigits?_padded (by decide) (by omega), Option.bind_some]
  dsimp only
  rw [hplus, hfraction, Option.bind_some]
  dsimp only
  rw [← hplus, hoffset, Option.bind_some]
  dsimp only
  rw [hback, hlocal]
  rfl

theorem read?_write {t : Instant} (h : t.IsPlain) : Instant.read? t.write.toList = some t :=
  read?_write_strict h.isStrict

/-! ## Fields read loosely -/

theorem readDigits?_append {least most : Nat} {ds rest : List Char}
    (hds : ∀ c ∈ ds, c.isDigit = true) (hleast : least ≤ ds.length) (hmost : ds.length ≤ most)
    (hrest : ∀ c, rest.head? = some c → c.isDigit = false) :
    readDigits? least most (ds ++ rest) = some (ofDigits ds, rest) := by
  obtain ⟨more, rfl⟩ := Nat.exists_eq_add_of_le hmost
  have htake : ((ds ++ rest).take (ds.length + more)).takeWhile Char.isDigit = ds := by
    rw [List.take_length_add_append]
    refine (takeWhile_dropWhile_append hds fun c hc => hrest c ?_).1
    cases rest with
    | nil => simp at hc
    | cons d rest =>
      cases more with
      | zero => simp at hc
      | succ more => exact hc
  unfold readDigits?
  dsimp only
  rw [htake, if_neg (by omega), List.drop_left]

theorem exists_cons_padded (width n : Nat) :
    ∃ c cs, padded width n = c :: cs ∧ c.isDigit = true := by
  have hne : padded width n ≠ [] := by simp [padded, digitsOf_ne_nil]
  obtain ⟨c, cs, hcons⟩ := List.exists_cons_of_ne_nil hne
  exact ⟨c, cs, hcons, isDigit_of_mem_padded (hcons ▸ List.mem_cons_self)⟩

theorem not_blank_of_isDigit {c : Char} (h : c.isDigit = true) : isBlank c = false := by
  rw [← Bool.not_eq_true]
  intro hblank
  simp only [Char.isDigit, Bool.and_eq_true, decide_eq_true_eq] at h
  have hlow : 48 ≤ c.toNat := h.1
  have hhigh : c.toNat ≤ 57 := h.2
  unfold isBlank at hblank
  simp at hblank
  omega

theorem readLooseField?_padded {n : Nat} (hn : n < 100) {rest : List Char}
    (hrest : ∀ c, rest.head? = some c → c.isDigit = false) :
    readLooseField? (padded 2 n ++ rest) = some (n, rest) := by
  obtain ⟨c, cs, hcons, hdigit⟩ := exists_cons_padded 2 n
  have hlen := @length_padded 2 n (by decide) hn
  have htrim : trimStart (padded 2 n ++ rest) = padded 2 n ++ rest := by
    rw [hcons, List.cons_append, trimStart_cons_of_not_blank (not_blank_of_isDigit hdigit)]
  rw [readLooseField?, htrim, readDigits?_append (fun d hd => isDigit_of_mem_padded hd)
    (by omega) (by omega) hrest, ofDigits_padded]

theorem expectLoose?_self {c : Char} (h : isBlank c = false) (rest : List Char) :
    expectLoose? c (c :: rest) = some rest := by
  rw [expectLoose?, trimStart_cons_of_not_blank h, expect?_self]

/-- A year is read up to the mark behind it. -/
theorem readLooseYear?_writeYear (year : Int) (rest : List Char) :
    readLooseYear? (trimStart (writeYear year ++ '-' :: rest)) = some (year, '-' :: rest) := by
  have hmark : ∀ c, ('-' :: rest).head? = some c → c.isDigit = false := by
    intro c hc
    rw [← Option.some.inj hc]
    decide
  have hdigits : ∀ {width n : Nat}, ∀ c ∈ padded width n, c.isDigit = true :=
    fun c hc => isDigit_of_mem_padded hc
  unfold writeYear
  split
  next hplain =>
    simp only [Bool.and_eq_true, decide_eq_true_eq] at hplain
    have hlen := @length_padded 4 year.toNat (by decide) (by omega)
    obtain ⟨c, cs, hcons, hdigit⟩ := exists_cons_padded 4 year.toNat
    have hread := @readDigits?_append 1 4 (padded 4 year.toNat) ('-' :: rest) hdigits (by omega)
      (by omega) hmark
    rw [ofDigits_padded] at hread
    rw [hcons, List.cons_append] at hread ⊢
    rw [trimStart_cons_of_not_blank (not_blank_of_isDigit hdigit)]
    unfold readLooseYear?
    split
    next heq => exact absurd (List.cons.inj heq).1 (by rintro rfl; exact absurd hdigit (by decide))
    next heq => exact absurd (List.cons.inj heq).1 (by rintro rfl; exact absurd hdigit (by decide))
    next =>
      rw [hread, Option.map_some]
      dsimp only
      rw [Int.toNat_of_nonneg hplain.1]
  next hplain =>
    have hpos : 1 ≤ (padded 4 year.natAbs).length := by
      obtain ⟨c, cs, hcons, -⟩ := exists_cons_padded 4 year.natAbs
      rw [hcons]
      simp
    have hread := @readDigits?_append 1 (padded 4 year.natAbs ++ '-' :: rest).length
      (padded 4 year.natAbs) ('-' :: rest) hdigits hpos (by rw [List.length_append]; omega) hmark
    rw [ofDigits_padded] at hread
    rw [List.cons_append]
    split
    next hneg =>
      rw [trimStart_cons_of_not_blank (by decide), readLooseYear?, hread, Option.map_some]
      dsimp only
      rw [show -(year.natAbs : Int) = year by omega]
    next hneg =>
      rw [trimStart_cons_of_not_blank (by decide), readLooseYear?, hread, Option.map_some]
      dsimp only
      rw [show (year.natAbs : Int) = year by omega]

/-- An instant that can be dated is read back as it was written. -/
theorem readLoose?_writeZulu {t : Instant} (h : t.IsExact) :
    Instant.readLoose? t.writeZulu.toList = some t := by
  have hlocal := ofLocal?_written h rfl rfl
  obtain ⟨⟨-, hmonth⟩, -, hday⟩ := isDate_ofDays (t.seconds.fdiv 86400)
  have hdays := daysInMonth_le (Date.ofDays (t.seconds.fdiv 86400)).year
    (Date.ofDays (t.seconds.fdiv 86400)).month
  have hofDay := secondOfDay_lt t.seconds
  have hnanos : (if 1000000000 ≤ t.nanos then t.nanos - 1000000000 else t.nanos) < 1000000000 := by
    have := h.nanos
    split <;> omega
  unfold Instant.writeZulu Instant.writeLocal
  rw [String.toList_ofList]
  dsimp only
  generalize Date.ofDays (t.seconds.fdiv 86400) = date at *
  generalize (t.seconds - t.seconds.fdiv 86400 * 86400).toNat = ofDay at *
  generalize hsecond : (ofDay % 60 + if 1000000000 ≤ t.nanos then 1 else 0) = second at *
  have hsixty : second < 100 := by
    rw [← hsecond]
    split <;> omega
  generalize (if 1000000000 ≤ t.nanos then t.nanos - 1000000000 else t.nanos) = nanos at *
  have hmark : ∀ {c d : Char} {rest : List Char}, c.isDigit = false →
      (c :: rest).head? = some d → d.isDigit = false := by
    intro c d rest hc hd
    rw [← Option.some.inj hd, hc]
  have hend : ∀ c, (writeFraction nanos ++ ['Z']).head? = some c → c.isDigit = false := by
    intro c
    unfold writeFraction
    split
    · exact hmark (by decide)
    · split
      · exact hmark (by decide)
      · split <;> exact hmark (by decide)
  have hfraction := readNanos?_writeFraction hnanos (c := 'Z') (by decide) (by decide) []
  have hoffset : readLooseOffset? (trimStart ['Z']) = some (0, []) := by decide
  simp only [List.append_assoc, List.cons_append]
  -- each field is read up to the mark behind it
  unfold Instant.readLoose?
  simp only [Option.bind_eq_bind]
  rw [readLooseYear?_writeYear, Option.bind_some, expectLoose?_self (by decide), Option.bind_some,
    readLooseField?_padded (by omega) fun c => hmark (by decide), Option.bind_some,
    expectLoose?_self (by decide), Option.bind_some,
    readLooseField?_padded (by omega) fun c => hmark (by decide), Option.bind_some,
    skipDateMark?_mark, Option.bind_some,
    readLooseField?_padded (by omega) fun c => hmark (by decide), Option.bind_some,
    expectLoose?_self (by decide), Option.bind_some,
    readLooseField?_padded (by omega) fun c => hmark (by decide), Option.bind_some,
    expectLoose?_self (by decide), Option.bind_some,
    readLooseField?_padded hsixty hend, Option.bind_some]
  dsimp only
  rw [hfraction, Option.bind_some]
  dsimp only
  rw [hoffset, Option.bind_some]
  exact hlocal

end Signoff.Time
