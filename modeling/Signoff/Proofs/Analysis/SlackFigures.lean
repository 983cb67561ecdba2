import Signoff.Proofs.Analysis.Counts
import Signoff.Proofs.Text.Scan

/-!
# Figures of slack in print

A slack figure is read whole: a sign, all digits with the commas between groups of thousands, and
all digits behind the point (`figure?_text`). Its value is the number closest to the decimal that
it shows (`readReal?_text`), and a figure without a sign and a point can be read as a count as well
(`readCount?_text`).
-/

namespace Signoff

open Text Number

/-! ## Figures -/

/-- A point and the digits behind it, or nothing. -/
def pointed : List Char → List Char
  | [] => []
  | c :: cs => '.' :: c :: cs

/-- A figure as it is printed: a sign, digits in one row or in groups of thousands, and digits
behind a point, each of which but the first row may be missing. -/
structure SlackFigure where
  sign : List Char
  first : List Char
  groups : List (List Char)
  fraction : List Char
  sign_mem : sign ∈ [[], ['+'], ['-']] := by decide
  first_ne_nil : first ≠ [] := by decide
  first_all : first.all Char.isDigit = true := by decide
  first_short : groups ≠ [] → first.length ≤ 3 := by decide
  groups_all : groups.all (fun g => g.length == 3 && g.all Char.isDigit) = true := by decide
  fraction_all : fraction.all Char.isDigit = true := by decide

namespace SlackFigure

variable (f : SlackFigure)

def groupsText : List Char := f.groups.flatMap (',' :: ·)

def text : List Char := f.sign ++ (f.first ++ f.groupsText ++ pointed f.fraction)

/-- The digits in front of the point. -/
def digits : List Char := f.first ++ f.groups.flatten

/-- The text without its commas and without a plus sign. -/
def plain : List Char := (if f.sign = ['-'] then ['-'] else []) ++ (f.digits ++ pointed f.fraction)

/-- The number closest to the decimal that is printed. -/
def real : Binary64 :=
  ⟨f.sign == ['-'], nearestDecimal (ofDigits (f.digits ++ f.fraction)) (-f.fraction.length)⟩

/-- The figure is a count that takes no more than 64 bits. -/
structure IsCount : Prop where
  sign : f.sign = []
  fraction : f.fraction = []
  bound : ofDigits f.digits < 2 ^ 64

instance : Decidable f.IsCount :=
  decidable_of_iff (f.sign = [] ∧ f.fraction = [] ∧ ofDigits f.digits < 2 ^ 64)
    ⟨fun ⟨hsign, hfraction, hbound⟩ => ⟨hsign, hfraction, hbound⟩,
      fun h => ⟨h.sign, h.fraction, h.bound⟩⟩

def count : UInt64 := .ofNat (ofDigits f.digits)

theorem first_digits : ∀ c ∈ f.first, c.isDigit = true := List.all_eq_true.mp f.first_all

theorem groups_digits : ∀ g ∈ f.groups, g.length = 3 ∧ ∀ c ∈ g, c.isDigit = true := by
  intro g hg
  have hall := List.all_eq_true.mp f.groups_all g hg
  rw [Bool.and_eq_true, beq_iff_eq, List.all_eq_true] at hall
  exact hall

theorem fraction_digits : ∀ c ∈ f.fraction, c.isDigit = true := List.all_eq_true.mp f.fraction_all

/-! ### Reading the text -/

/-- What stands behind a figure ends it: no digit, no point, and no comma with a digit behind. -/
structure EndsFigure (rest : List Char) : Prop where
  not_digit : ∀ c, rest.head? = some c → isDecimalDigit c = false
  not_point : rest.head? ≠ some '.'
  comma : ∀ c more, rest = ',' :: c :: more → isDecimalDigit c = false

variable {f} {rest : List Char}

theorem thousands_nil (h : ∀ c more, rest = ',' :: c :: more → isDecimalDigit c = false) :
    Slack.thousands rest = ([], rest) := by
  unfold Slack.thousands
  split
  next a b c more =>
    rw [h a _ rfl]
    rfl
  next => rfl

theorem thousands_groups {groups : List (List Char)}
    (hgroups : ∀ g ∈ groups, g.length = 3 ∧ ∀ c ∈ g, c.isDigit = true)
    (hrest : Slack.thousands rest = ([], rest)) :
    Slack.thousands (groups.flatMap (',' :: ·) ++ rest) = (groups.flatMap (',' :: ·), rest) := by
  induction groups with
  | nil => exact hrest
  | cons g groups ih =>
    obtain ⟨hlength, hdigits⟩ := hgroups g List.mem_cons_self
    obtain ⟨a, b, c, rfl⟩ := List.length_eq_three.mp hlength
    have hdigit : ∀ d ∈ [a, b, c], isDecimalDigit d = true := fun d hd =>
      isDecimalDigit_of_isDigit (hdigits d hd)
    rw [List.flatMap_cons]
    -- a comma with three digits behind it is a group, whatever comes then
    show Slack.thousands (',' :: a :: b :: c :: (groups.flatMap (',' :: ·) ++ rest)) = _
    rw [Slack.thousands, hdigit a (by simp), hdigit b (by simp), hdigit c (by simp),
      ih fun g hg => hgroups g (List.mem_cons_of_mem _ hg)]
    rfl

theorem head?_groupsText {c : Char} (h : f.groupsText.head? = some c) : c = ',' := by
  unfold groupsText at h
  cases hgroups : f.groups with
  | nil =>
    rw [hgroups] at h
    exact nomatch h
  | cons g groups =>
    rw [hgroups] at h
    exact (Option.some.inj h).symm

theorem whole?_first (hdigit : ∀ c, rest.head? = some c → isDecimalDigit c = false)
    (hcomma : ∀ c more, rest = ',' :: c :: more → isDecimalDigit c = false) :
    Slack.whole? (f.first ++ f.groupsText ++ rest) = some (f.first ++ f.groupsText, rest) := by
  have hgroups : Slack.thousands (f.groupsText ++ rest) = (f.groupsText, rest) :=
    thousands_groups f.groups_digits (thousands_nil hcomma)
  have hstop : ∀ c, (f.groupsText ++ rest).head? = some c → isDecimalDigit c = false := by
    intro c hc
    rw [List.head?_append] at hc
    cases hhead : f.groupsText.head? with
    | none =>
      rw [hhead] at hc
      exact hdigit c hc
    | some d =>
      rw [hhead] at hc
      obtain rfl := Option.some.inj hc
      rw [head?_groupsText hhead]
      decide
  unfold Slack.whole?
  rw [List.append_assoc, run?_append f.first_ne_nil
    (fun c hc => isDecimalDigit_of_isDigit (f.first_digits c hc)) hstop]
  show (if f.first.length ≤ 3 then _ else _) = _
  by_cases hshort : f.first.length ≤ 3
  · rw [if_pos hshort, hgroups]
    rfl
  · have hnone : f.groups = [] := by
      by_contra hne
      exact hshort (f.first_short hne)
    have htext : f.groupsText = [] := by rw [groupsText, hnone, List.flatMap_nil]
    rw [if_neg hshort, htext, List.append_nil, List.nil_append]
    rfl

theorem fraction_pointed {ds : List Char} (hds : ∀ c ∈ ds, c.isDigit = true)
    (h : EndsFigure rest) : Slack.fraction (pointed ds ++ rest) = (pointed ds, rest) := by
  cases ds with
  | nil =>
    show Slack.fraction rest = ([], rest)
    unfold Slack.fraction
    split
    next more => exact absurd rfl h.not_point
    next => rfl
  | cons d ds =>
    have hrun : run? isDecimalDigit (d :: ds ++ rest) = some (d :: ds, rest) :=
      run?_append (List.cons_ne_nil d ds) (fun c hc => isDecimalDigit_of_isDigit (hds c hc))
        h.not_digit
    show Slack.fraction ('.' :: (d :: ds ++ rest)) = _
    rw [Slack.fraction, hrun]
    rfl

theorem sign_append (hrest : ∀ c, rest.head? = some c → c ≠ '+' ∧ c ≠ '-') :
    Slack.sign (f.sign ++ rest) = (f.sign, rest) := by
  have hmem := f.sign_mem
  simp only [List.mem_cons, List.not_mem_nil, or_false] at hmem
  rcases hmem with hsign | hsign | hsign
  · rw [hsign]
    cases rest with
    | nil => rfl
    | cons c rest =>
      obtain ⟨hplus, hminus⟩ := hrest c rfl
      show (if c = '+' || c = '-' then _ else _) = _
      rw [if_neg (by simp [hplus, hminus])]
      rfl
  · rw [hsign]
    rfl
  · rw [hsign]
    rfl

theorem not_sign_of_isDigit {c : Char} (h : c.isDigit = true) : c ≠ '+' ∧ c ≠ '-' := by
  constructor
  · rintro rfl
    exact absurd h (by decide)
  · rintro rfl
    exact absurd h (by decide)

/-- The whole text is taken, and nothing of what stands behind it. -/
theorem figure?_text (f : SlackFigure) (h : EndsFigure rest) :
    Slack.figure? (f.text ++ rest) = some (f.text, rest) := by
  obtain ⟨d, more, hfirst⟩ := List.exists_cons_of_ne_nil f.first_ne_nil
  have hsign : ∀ c, (f.first ++ f.groupsText ++ (pointed f.fraction ++ rest)).head? = some c →
      c ≠ '+' ∧ c ≠ '-' := by
    intro c hc
    rw [hfirst] at hc
    obtain rfl := Option.some.inj hc
    exact not_sign_of_isDigit (f.first_digits d (hfirst ▸ List.mem_cons_self))
  have hwhole : Slack.whole? (f.first ++ f.groupsText ++ (pointed f.fraction ++ rest)) =
      some (f.first ++ f.groupsText, pointed f.fraction ++ rest) := by
    -- a point ends the digits as well as what stands behind the figure
    cases f.fraction with
    | nil => exact whole?_first h.not_digit h.comma
    | cons e ds =>
      apply whole?_first
      · intro c hc
        obtain rfl := Option.some.inj hc
        decide
      · intro c more heq
        exact absurd (List.cons.inj heq).1 (by decide)
  have htext : f.text ++ rest =
      f.sign ++ (f.first ++ f.groupsText ++ (pointed f.fraction ++ rest)) := by
    simp only [text, List.append_assoc]
  unfold Slack.figure?
  rw [htext, sign_append hsign]
  show (Slack.whole? _).bind _ = _
  rw [hwhole, Option.bind_some]
  show some (f.sign ++ (f.first ++ f.groupsText) ++
    (Slack.fraction (pointed f.fraction ++ rest)).1,
    (Slack.fraction (pointed f.fraction ++ rest)).2) = _
  rw [fraction_pointed f.fraction_digits h]
  simp only [text, List.append_assoc]

/-! ### The number -/

theorem isDigit_of_mem_digits {c : Char} (hc : c ∈ f.digits) : c.isDigit = true := by
  rcases List.mem_append.mp hc with hc | hc
  · exact f.first_digits c hc
  · obtain ⟨g, hg, hc⟩ := List.mem_flatten.mp hc
    exact (f.groups_digits g hg).2 c hc

theorem filter_digits {ds : List Char} (h : ∀ c ∈ ds, c.isDigit = true) :
    ds.filter (· != ',') = ds := by
  rw [List.filter_eq_self]
  intro c hc
  rw [bne_iff_ne]
  rintro rfl
  exact absurd (h ',' hc) (by decide)

theorem filter_groups {groups : List (List Char)}
    (h : ∀ g ∈ groups, g.length = 3 ∧ ∀ c ∈ g, c.isDigit = true) :
    (groups.flatMap (',' :: ·)).filter (· != ',') = groups.flatten := by
  induction groups with
  | nil => rfl
  | cons g groups ih =>
    rw [List.flatMap_cons, List.cons_append, List.filter_cons_of_neg (by decide),
      List.filter_append, filter_digits (h g List.mem_cons_self).2,
      ih fun g hg => h g (List.mem_cons_of_mem _ hg), List.flatten_cons]

theorem filter_pointed {ds : List Char} (h : ∀ c ∈ ds, c.isDigit = true) :
    (pointed ds).filter (· != ',') = pointed ds := by
  cases ds with
  | nil => rfl
  | cons d ds =>
    show ('.' :: d :: ds).filter (· != ',') = '.' :: d :: ds
    rw [List.filter_cons_of_pos (by decide), filter_digits h]

/-- Without the commas, the digits stand in one row. -/
theorem filter_unsigned (f : SlackFigure) :
    (f.first ++ f.groupsText ++ pointed f.fraction).filter (· != ',') =
      f.digits ++ pointed f.fraction := by
  rw [List.filter_append, List.filter_append, filter_digits f.first_digits, groupsText,
    filter_groups f.groups_digits, filter_pointed f.fraction_digits, digits]

/-- The text without a plus sign in front and without commas. -/
theorem plain_eq (f : SlackFigure) : (f.text.dropWhile (· == '+')).filter (· != ',') = f.plain := by
  obtain ⟨d, more, hfirst⟩ := List.exists_cons_of_ne_nil f.first_ne_nil
  have hdigit := not_sign_of_isDigit (f.first_digits d (hfirst ▸ List.mem_cons_self))
  have hunsigned : (f.first ++ f.groupsText ++ pointed f.fraction).dropWhile (· == '+') =
      f.first ++ f.groupsText ++ pointed f.fraction := by
    rw [hfirst]
    exact List.dropWhile_cons_of_neg (by simpa using hdigit.1)
  have hmem := f.sign_mem
  simp only [List.mem_cons, List.not_mem_nil, or_false] at hmem
  unfold text plain
  rcases hmem with hsign | hsign | hsign
  · rw [hsign, List.nil_append, hunsigned, filter_unsigned]
    rfl
  · rw [hsign, List.singleton_append, List.dropWhile_cons_of_pos (by decide), hunsigned,
      filter_unsigned]
    rfl
  · rw [hsign, List.singleton_append, List.dropWhile_cons_of_neg (by decide),
      List.filter_cons_of_pos (by decide), filter_unsigned]
    rfl

/-- Digits with a point among them are the decimal that they show. -/
theorem readUnsignedDecimal?_pointed {ds es : List Char} (hne : ds ≠ [])
    (hds : ∀ c ∈ ds, c.isDigit = true) (hes : ∀ c ∈ es, c.isDigit = true) :
    readUnsignedDecimal? (ds ++ pointed es) =
      some (nearestDecimal (ofDigits (ds ++ es)) (-es.length)) := by
  have hstop : ∀ c, (pointed es).head? = some c → c.isDigit = false := by
    intro c hc
    cases es with
    | nil => exact nomatch hc
    | cons e es =>
      obtain rfl := Option.some.inj hc
      decide
  obtain ⟨htake, hdrop⟩ := takeWhile_dropWhile_append hds hstop
  have hsome : ds.isEmpty = false := by rwa [List.isEmpty_eq_false_iff]
  unfold readUnsignedDecimal?
  rw [htake, hdrop]
  cases es with
  | nil =>
    show (if (ds.isEmpty && true) = true then none else some _) = _
    rw [hsome]
    rfl
  | cons e es =>
    obtain ⟨htake, hdrop⟩ := @takeWhile_dropWhile_append Char.isDigit (e :: es) [] hes nofun
    rw [List.append_nil] at htake hdrop
    show (if (ds.isEmpty && ((e :: es).takeWhile Char.isDigit).isEmpty) = true then none else
      (readExponent? ((e :: es).dropWhile Char.isDigit)).map fun n =>
        nearestDecimal (ofDigits (ds ++ (e :: es).takeWhile Char.isDigit))
          (n - ((e :: es).takeWhile Char.isDigit).length)) = _
    rw [hsome, htake, hdrop]
    show some (nearestDecimal _ (0 - _)) = _
    rw [Int.zero_sub]

theorem isFigureText_of_isDigit {ds : List Char} (h : ∀ c ∈ ds, c.isDigit = true) :
    IsFigureText ds :=
  Slack.isFigureText_of_digits fun c hc => isDecimalDigit_of_isDigit (h c hc)

theorem isFigureText_pointed {ds : List Char} (h : ∀ c ∈ ds, c.isDigit = true) :
    IsFigureText (pointed ds) := by
  cases ds with
  | nil => exact nofun
  | cons d ds =>
    intro c hc
    rcases List.mem_cons.mp hc with rfl | hc
    · simp
    · exact isFigureText_of_isDigit h c hc

theorem isFigureText_plain (f : SlackFigure) : IsFigureText f.plain := by
  apply isFigureText_append
  · intro c hc
    by_cases hsign : f.sign = ['-']
    · rw [if_pos hsign] at hc
      rw [List.mem_singleton.mp hc]
      simp
    · rw [if_neg hsign] at hc
      exact nomatch hc
  · exact isFigureText_append (isFigureText_of_isDigit fun c hc => isDigit_of_mem_digits hc)
      (isFigureText_pointed f.fraction_digits)

theorem digits_ne_nil (f : SlackFigure) : f.digits ≠ [] :=
  List.append_ne_nil_of_left_ne_nil f.first_ne_nil _

theorem readSign_plain (f : SlackFigure) :
    readSign f.plain = (f.sign == ['-'], f.digits ++ pointed f.fraction) := by
  unfold plain
  by_cases hsign : f.sign = ['-']
  · rw [if_pos hsign, hsign]
    rfl
  · obtain ⟨d, more, hdigits⟩ := List.exists_cons_of_ne_nil f.digits_ne_nil
    have hd := not_sign_of_isDigit (isDigit_of_mem_digits (hdigits ▸ List.mem_cons_self))
    rw [if_neg hsign, hdigits, beq_eq_false_iff_ne.mpr hsign]
    unfold readSign
    split
    next rest heq => exact absurd (List.cons.inj heq).1 hd.2
    next rest heq => exact absurd (List.cons.inj heq).1 hd.1
    next => rfl

/-- The text without commas and without a plus sign is read as the closest number. -/
theorem read?_plain (f : SlackFigure) : Binary64.read? f.plain = some f.real := by
  rw [read?_of_figureText f.isFigureText_plain, readSign_plain]
  show (readUnsignedDecimal? (f.digits ++ pointed f.fraction)).map _ = _
  rw [readUnsignedDecimal?_pointed f.digits_ne_nil (fun c hc => isDigit_of_mem_digits hc)
    f.fraction_digits]
  rfl

theorem text_ne_nil (f : SlackFigure) : f.text ≠ [] := by
  intro h
  rw [SlackFigure.text, List.append_eq_nil_iff, List.append_eq_nil_iff,
    List.append_eq_nil_iff] at h
  exact f.first_ne_nil h.2.1.1

theorem not_isBlank_of_mem_text {c : Char} (hc : c ∈ f.text) : isBlank c = false := by
  have hends : EndsFigure [] := ⟨nofun, nofun, nofun⟩
  have htext : IsFigureText f.text := (Slack.figure?_eq (f.figure?_text hends)).2
  rcases htext c hc with hfigure | rfl | rfl | rfl
  · exact not_isBlank_of_isFigureChar hfigure
  · decide
  · decide
  · decide

theorem trim_text (f : SlackFigure) : trim f.text = f.text :=
  trim_of_plain fun _ hc => not_isBlank_of_mem_text hc

theorem readReal?_text (f : SlackFigure) : readReal? f.text = some f.real := by
  unfold readReal?
  rw [trim_text, plain_eq, read?_plain]

theorem IsCount.text_eq (h : f.IsCount) : f.text = f.first ++ f.groupsText := by
  rw [SlackFigure.text, h.sign, h.fraction]
  exact List.append_nil _

theorem IsCount.plain_eq (h : f.IsCount) : f.plain = f.digits := by
  rw [SlackFigure.plain, h.sign, h.fraction]
  exact List.append_nil _

theorem IsCount.filter_text (h : f.IsCount) : f.text.filter (· != ',') = f.digits := by
  have hfilter := f.filter_unsigned
  rw [h.fraction] at hfilter
  rw [h.text_eq, ← List.append_nil (f.first ++ f.groupsText)]
  exact hfilter.trans (List.append_nil _)

theorem IsCount.readUInt64?_plain (h : f.IsCount) : readUInt64? f.plain = some f.count := by
  rw [h.plain_eq, readUInt64?_of_digits (fun c hc => isDigit_of_mem_digits hc) f.digits_ne_nil,
    if_pos h.bound]
  rfl

theorem IsCount.readCount?_text (h : f.IsCount) : readCount? f.text = some f.count := by
  unfold readCount?
  rw [trim_text, h.filter_text, ← h.plain_eq, h.readUInt64?_plain]

end SlackFigure

end Signoff
