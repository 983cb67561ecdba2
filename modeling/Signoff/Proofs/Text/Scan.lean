import Signoff.Proofs.Text.Runs

/-!
# Readers on printed text

A reader takes back what was printed, whatever stands behind it, as long as that does not go on
with the same kind of characters. From there a scan of the line goes on (`allFrom_taken`), and it
passes over characters where nothing starts (`allFrom_quiet`).

A keyword is found in a text by case folding, which also takes the long s for an `s` and the Kelvin
sign for a `k` (`keyword?_eq_some_iff`), and then compared in ASCII letters. The two go together
for a word that has neither of these characters, and for no other one (`sameLetters_iff`).
-/

namespace Signoff.Text

variable {as bs word ks : List Char}

/-! ## Blanks and marks -/

/-- The text is empty or starts with something else than a blank. -/
def StartsPlain (cs : List Char) : Prop := ∀ c, cs.head? = some c → isBlank c = false

theorem startsPlain_append (hne : as ≠ []) (has : ∀ c ∈ as, isBlank c = false)
    (bs : List Char) : StartsPlain (as ++ bs) := by
  intro c hc
  cases as with
  | nil => exact absurd rfl hne
  | cons d as =>
    obtain rfl := Option.some.inj hc
    exact has d List.mem_cons_self

theorem trimStart_append (has : ∀ c ∈ as, isBlank c = true) (hbs : StartsPlain bs) :
    trimStart (as ++ bs) = bs :=
  (takeWhile_dropWhile_append has hbs).2

/-- A colon or equal sign with blanks around it. -/
structure PrintedMark where
  before : List Char
  mark : Char
  after : List Char
  before_all : isBlankText before = true := by decide
  isMark : isMark mark = true := by decide
  after_all : isBlankText after = true := by decide

namespace PrintedMark

def text (m : PrintedMark) : List Char := m.before ++ m.mark :: m.after

theorem before_blank (m : PrintedMark) : ∀ c ∈ m.before, isBlank c = true :=
  List.all_eq_true.mp m.before_all

theorem after_blank (m : PrintedMark) : ∀ c ∈ m.after, isBlank c = true :=
  List.all_eq_true.mp m.after_all

theorem isBlank_or_isMark (m : PrintedMark) :
    ∀ c ∈ m.text, isBlank c = true ∨ Text.isMark c = true := by
  intro c hc
  rcases List.mem_append.mp hc with hc | hc
  · exact .inl (m.before_blank c hc)
  · rcases List.mem_cons.mp hc with rfl | hc
    · exact .inr m.isMark
    · exact .inl (m.after_blank c hc)

theorem not_isBlank {c : Char} (h : Text.isMark c = true) : isBlank c = false := by
  simp only [Text.isMark, Bool.or_eq_true, beq_iff_eq] at h
  rcases h with rfl | rfl <;> decide

theorem afterMark?_text (m : PrintedMark) (hbs : StartsPlain bs) :
    afterMark? (m.text ++ bs) = some bs := by
  have hstart : StartsPlain (m.mark :: m.after ++ bs) := by
    intro c hc
    obtain rfl := Option.some.inj hc
    exact not_isBlank m.isMark
  unfold afterMark? text
  rw [List.append_assoc, trimStart_append m.before_blank hstart]
  show (if Text.isMark m.mark then some (trimStart (m.after ++ bs)) else none) = some bs
  rw [if_pos m.isMark, trimStart_append m.after_blank hbs]

theorem skipMark_text (m : PrintedMark) (hbs : StartsPlain bs) : skipMark (m.text ++ bs) = bs := by
  unfold skipMark
  rw [m.afterMark?_text hbs, Option.getD_some]

end PrintedMark

theorem skipMark_blanks (has : ∀ c ∈ as, isBlank c = true) (hbs : StartsPlain bs)
    (hmark : ∀ c, bs.head? = some c → isMark c = false) : skipMark (as ++ bs) = bs := by
  have hnone : afterMark? (as ++ bs) = none := by
    unfold afterMark?
    rw [trimStart_append has hbs]
    cases bs with
    | nil => rfl
    | cons c bs =>
      show (if isMark c then _ else none) = none
      rw [hmark c rfl, if_neg Bool.false_ne_true]
  unfold skipMark
  rw [hnone, Option.getD_none, trimStart_append has hbs]

/-! ## Runs and keywords -/

theorem run?_append {kind : Char → Bool} (hne : as ≠ []) (has : ∀ c ∈ as, kind c = true)
    (hbs : ∀ c, bs.head? = some c → kind c = false) : run? kind (as ++ bs) = some (as, bs) := by
  obtain ⟨htake, hdrop⟩ := takeWhile_dropWhile_append has hbs
  unfold run?
  rw [htake, hdrop]
  exact if_neg (by simpa using hne)

theorem keyword?_of_not_foldsTo {k c : Char} (h : foldsTo k c = false) (ks cs : List Char) :
    keyword? (k :: ks) (c :: cs) = none := by
  rw [keyword?, h, if_neg Bool.false_ne_true]

/-- The characters that `s` and `k` are read from beside themselves are no letters of ASCII. -/
theorem foldsTo_eq {k c : Char} (h : c.toLower.isAlphanum = true) :
    foldsTo k c = (c.toLower == k) := by
  have hlong : c ≠ longS := by
    rintro rfl
    exact absurd h (by decide)
  have hkelvin : c ≠ kelvinSign := by
    rintro rfl
    exact absurd h (by decide)
  unfold foldsTo
  rw [beq_eq_false_iff_ne.mpr hlong, beq_eq_false_iff_ne.mpr hkelvin, Bool.and_false,
    Bool.and_false, Bool.or_false, Bool.or_false]

/-- A keyword is read from the same word in capital and small letters. -/
theorem keyword?_append_of_lower (h : lower word = ks) (rest : List Char) :
    keyword? ks (word ++ rest) = some (word, rest) := by
  subst h
  induction word with
  | nil => rfl
  | cons c word ih =>
    have hfold : foldsTo c.toLower c = true := by simp [foldsTo]
    show (if foldsTo c.toLower c then (keyword? (lower word) (word ++ rest)).map _ else _) = _
    rw [if_pos hfold, ih]
    rfl

/-- A keyword is not read from another word if neither starts with the other. -/
theorem keyword?_of_other_word {ls : List Char} (h : lower word = ls)
    (hls : ls.all Char.isAlphanum = true) (hks : ¬ ks <+: ls) (hword : ¬ ls <+: ks)
    (rest : List Char) : keyword? ks (word ++ rest) = none := by
  induction ks generalizing word ls with
  | nil => exact absurd List.nil_prefix hks
  | cons k ks ih =>
    subst h
    cases word with
    | nil => exact absurd List.nil_prefix hword
    | cons c word =>
      have hletter : c.toLower.isAlphanum = true ∧ (lower word).all Char.isAlphanum = true := by
        simpa [lower] using hls
      rw [List.cons_append, keyword?, foldsTo_eq hletter.1]
      have hlower : lower (c :: word) = c.toLower :: lower word := rfl
      rw [hlower] at hks hword
      by_cases heq : c.toLower = k
      · rw [heq, List.prefix_cons_inj] at hks hword
        rw [ih rfl hletter.2 hks hword, Option.map_none, ite_self]
      · rw [if_neg (by simpa using heq)]

/-! ## Letters -/

theorem isAlphanum_of_toLower {c : Char} (h : c.toLower.isAlphanum = true) :
    c.isAlphanum = true :=
  of_toLower (p := fun c => c.isAlphanum = true) isAlphanum_of_capital h

/-- A word in ASCII letters of any case has only word characters. -/
theorem isWordChar_of_lower (h : lower word = ks) (hks : ks.all Char.isAlphanum = true) :
    ∀ c ∈ word, isWordChar c = true := by
  intro c hc
  have hmem : c.toLower ∈ ks := h ▸ List.mem_map_of_mem hc
  unfold isWordChar
  rw [isAlphanum_of_toLower (List.all_eq_true.mp hks _ hmem)]
  rfl

/-! ## Keywords in any case -/

section Keywords

variable {cs rest : List Char}

/-- The small letter that a character is folded to. -/
def fold (c : Char) : Char :=
  if c = longS then 's' else if c = kelvinSign then 'k' else c.toLower

def folded (word : List Char) : List Char := word.map fold

/-- A word without the two characters that are folded to letters of ASCII. -/
def Plain (word : List Char) : Prop := longS ∉ word ∧ kelvinSign ∉ word

instance : Decidable (Plain word) := inferInstanceAs (Decidable (_ ∧ _))

/-- A keyword is spelled in small letters of ASCII. -/
def IsKeyword (ks : List Char) : Prop := ∀ k ∈ ks, k.isLower = true

instance : Decidable (IsKeyword ks) :=
  decidable_of_iff (ks.all Char.isLower = true) List.all_eq_true

/-! ### Finding -/

theorem foldsTo_iff {k c : Char} (hk : k.isLower = true) : foldsTo k c = true ↔ fold c = k := by
  -- neither of the two characters has a lower case that is a letter of ASCII
  have hlong : longS.toLower ≠ k := by
    rintro rfl
    exact absurd hk (by decide)
  have hkelvin : kelvinSign.toLower ≠ k := by
    rintro rfl
    exact absurd hk (by decide)
  unfold foldsTo fold
  simp only [Bool.or_eq_true, Bool.and_eq_true, beq_iff_eq]
  by_cases hc : c = longS
  · subst hc
    have hne : longS ≠ kelvinSign := by decide
    simp [hlong, hne, eq_comm]
  · by_cases hc' : c = kelvinSign
    · subst hc'
      simp [hkelvin, hc, eq_comm]
    · simp [hc, hc']

/-- A keyword is found in front of a text that starts with a word folded to it. -/
theorem keyword?_eq_some_iff (hks : IsKeyword ks) :
    keyword? ks cs = some (word, rest) ↔ cs = word ++ rest ∧ folded word = ks := by
  -- each letter of the keyword takes one character
  induction ks generalizing cs word with
  | nil =>
    rw [keyword?, Option.some.injEq, Prod.mk.injEq, folded, List.map_eq_nil_iff]
    constructor
    · rintro ⟨rfl, rfl⟩
      exact ⟨rfl, rfl⟩
    · rintro ⟨rfl, rfl⟩
      exact ⟨rfl, rfl⟩
  | cons k ks ih =>
    obtain ⟨hk, hks⟩ := List.forall_mem_cons.mp hks
    cases cs with
    | nil =>
      rw [keyword?]
      constructor
      · intro h
        exact absurd h (Option.some_ne_none _).symm
      · rintro ⟨hcs, hword⟩
        rw [(List.append_eq_nil_iff.mp hcs.symm).1] at hword
        exact absurd hword (List.cons_ne_nil k ks).symm
    | cons c cs =>
      rw [keyword?]
      split
      next hfold =>
        rw [foldsTo_iff hk] at hfold
        rw [Option.map_eq_some_iff]
        constructor
        · rintro ⟨⟨more, left⟩, hmore, heq⟩
          obtain ⟨rfl, rfl⟩ := Prod.mk.inj heq
          obtain ⟨rfl, rfl⟩ := (ih hks).mp hmore
          exact ⟨rfl, congrArg (· :: folded more) hfold⟩
        · rintro ⟨hcs, hword⟩
          obtain ⟨d, more, rfl, -, hmore⟩ := List.map_eq_cons_iff.mp hword
          obtain ⟨rfl, rfl⟩ := List.cons.inj hcs
          exact ⟨(more, rest), (ih hks).mpr ⟨rfl, hmore⟩, rfl⟩
      next hfold =>
        rw [foldsTo_iff hk] at hfold
        constructor
        · intro h
          exact absurd h (Option.some_ne_none _).symm
        · rintro ⟨hcs, hword⟩
          obtain ⟨d, more, rfl, hd, -⟩ := List.map_eq_cons_iff.mp hword
          rw [(List.cons.inj hcs).1] at hfold
          exact absurd hd hfold

theorem folded_of_wholeKeyword? {keys : List String} (hkeys : ∀ key ∈ keys, IsKeyword key.toList)
    (h : wholeKeyword? keys cs = some (word, rest)) :
    cs = word ++ rest ∧ ∃ key ∈ keys, folded word = key.toList := by
  obtain ⟨ks, hks, hfound⟩ := List.exists_of_findSome?_eq_some h
  obtain ⟨key, hkey, rfl⟩ := List.mem_map.mp hks
  obtain ⟨hcs, hword⟩ := (keyword?_eq_some_iff (hkeys key hkey)).mp
    (Option.filter_eq_some_iff.mp hfound).1
  exact ⟨hcs, key, hkey, hword⟩

theorem folded_of_firstKeyword? {keys : List (List Char)} (hkeys : ∀ ks ∈ keys, IsKeyword ks)
    (h : firstKeyword? keys cs = some (word, rest)) :
    cs = word ++ rest ∧ folded word ∈ keys := by
  obtain ⟨ks, hks, hfound⟩ := List.exists_of_findSome?_eq_some h
  obtain ⟨hcs, rfl⟩ := (keyword?_eq_some_iff (hkeys ks hks)).mp hfound
  exact ⟨hcs, hks⟩

/-! ### Comparing -/

theorem folded_eq_lower (h : Plain word) : folded word = lower word := by
  refine List.map_congr_left fun c hc => ?_
  have hlong : c ≠ longS := fun heq => h.1 (heq ▸ hc)
  have hkelvin : c ≠ kelvinSign := fun heq => h.2 (heq ▸ hc)
  rw [fold, if_neg hlong, if_neg hkelvin]

theorem plain_of_folded (h : folded word = ks) (hk : 'k' ∉ ks) (hs : 's' ∈ ks → longS ∉ word) :
    Plain word := by
  subst h
  exact ⟨fun hmem => hs (List.mem_map_of_mem (f := fold) hmem) hmem,
    fun hmem => hk (List.mem_map_of_mem (f := fold) hmem)⟩

theorem lower_of_folded (h : folded word = ks) (hk : 'k' ∉ ks) (hs : 's' ∈ ks → longS ∉ word) :
    lower word = ks := by
  rw [← folded_eq_lower (plain_of_folded h hk hs), h]

theorem lower_eq_iff (hks : IsKeyword ks) : lower word = ks ↔ Plain word ∧ folded word = ks := by
  constructor
  · rintro rfl
    have hplain : Plain word :=
      ⟨fun hmem => absurd (hks _ (List.mem_map_of_mem hmem)) (by decide),
        fun hmem => absurd (hks _ (List.mem_map_of_mem hmem)) (by decide)⟩
    exact ⟨hplain, folded_eq_lower hplain⟩
  · rintro ⟨hplain, rfl⟩
    exact (folded_eq_lower hplain).symm

theorem IsKeyword.lower_eq (hks : IsKeyword ks) : lower ks = ks := by
  have hsmall : ∀ k ∈ ks, k.toLower = k := by
    intro k hk
    have hlower : (decide (k.val ≥ 'a'.val) && decide (k.val ≤ 'z'.val)) = true := hks k hk
    have hcode : 97 ≤ k.toNat := of_decide_eq_true (Bool.and_eq_true_iff.mp hlower).1
    exact toLower_eq_self (by omega)
  exact (List.map_congr_left hsmall).trans (List.map_id ks)

/-- A word is compared as equal to a keyword if it is folded to it and has neither a long s nor a
Kelvin sign. -/
theorem sameLetters_iff (hks : IsKeyword ks) :
    sameLetters word ks = true ↔ Plain word ∧ folded word = ks := by
  rw [sameLetters, hks.lower_eq, beq_iff_eq, lower_eq_iff hks]

end Keywords

/-! ## Scans -/

section Scan

variable {α : Type} {read : Option Char → List Char → Option (α × List Char)}
  {before : Option Char} {taken rest : List Char}

theorem getLast?_cons_eq_or (c : Char) (cs : List Char) :
    (c :: cs).getLast? = cs.getLast?.or (some c) := by
  rw [List.getLast?_cons]
  cases cs.getLast? <;> rfl

theorem allFrom_skip (read : Option Char → List Char → Option (α × List Char))
    (before : Option Char) (as rest : List Char) :
    allFrom read as.length before (as ++ rest) = allFrom read 0 (as.getLast?.or before) rest := by
  induction as generalizing before with
  | nil => rfl
  | cons c as ih =>
    show allFrom read as.length (some c) (as ++ rest) = _
    rw [ih, getLast?_cons_eq_or, Option.or_assoc]
    rfl

/-- The scan goes on behind what the reader took, with its last character in front. -/
theorem allFrom_taken {a : α} (h : read before (taken ++ rest) = some (a, rest))
    (hne : taken ≠ []) :
    allFrom read 0 before (taken ++ rest) = a :: allFrom read 0 taken.getLast? rest := by
  obtain ⟨c, more, rfl⟩ := List.exists_cons_of_ne_nil hne
  have hlength : (more ++ rest).length - rest.length = more.length := by
    rw [List.length_append]
    omega
  rw [List.cons_append] at h ⊢
  rw [allFrom, h]
  show a :: allFrom read ((more ++ rest).length - rest.length) (some c) (more ++ rest) = _
  rw [hlength, allFrom_skip, getLast?_cons_eq_or]

theorem allFrom_cons_none {c : Char} (h : read before (c :: rest) = none) :
    allFrom read 0 before (c :: rest) = allFrom read 0 (some c) rest := by
  rw [allFrom, h]

/-- The scan passes over characters that nothing starts with. -/
theorem allFrom_quiet (h : ∀ c ∈ as, ∀ b more, read b (c :: more) = none)
    (before : Option Char) (rest : List Char) :
    allFrom read 0 before (as ++ rest) = allFrom read 0 (as.getLast?.or before) rest := by
  induction as generalizing before with
  | nil => rfl
  | cons c as ih =>
    rw [List.cons_append, allFrom_cons_none (h c List.mem_cons_self _ _),
      ih fun d hd => h d (List.mem_cons_of_mem _ hd), getLast?_cons_eq_or, Option.or_assoc]
    rfl

end Scan

end Signoff.Text
