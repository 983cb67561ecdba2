import Signoff.Proofs.Figures
import Signoff.Proofs.Number.Range
import Signoff.Proofs.Text.Digits
import Signoff.Proofs.Text.Runs
import Signoff.Verdict

/-!
# Figures of ordinary size

Tool output without very long rows of digits gives finite figures (`isFinite_classify`). A figure
of a slack or of a clock tree is a piece of a line, so its digits in front of the point stand in a
row there; every other kind of figures is a count.
-/

namespace Signoff

open Text Number

/-! ## Reading a figure -/

/-- A text of digits, commas, signs and points. -/
def IsFigureText (cs : List Char) : Prop :=
  ∀ c ∈ cs, isFigureChar c = true ∨ c = '+' ∨ c = '-' ∨ c = '.'

theorem isFigureText_append {as bs : List Char} (ha : IsFigureText as) (hb : IsFigureText bs) :
    IsFigureText (as ++ bs) := fun c hc => (List.mem_append.mp hc).elim (ha c) (hb c)

namespace Slack

theorem sign_eq {cs front rest : List Char} (h : sign cs = (front, rest)) :
    cs = front ++ rest ∧ IsFigureText front := by
  unfold sign at h
  split at h
  next c more =>
    split at h
    next hc =>
      obtain ⟨rfl, rfl⟩ := Prod.mk.inj h
      refine ⟨rfl, fun d hd => ?_⟩
      rw [List.mem_singleton.mp hd]
      simp only [Bool.or_eq_true, decide_eq_true_eq] at hc
      rcases hc with rfl | rfl <;> simp
    next =>
      obtain ⟨rfl, rfl⟩ := Prod.mk.inj h
      exact ⟨rfl, nofun⟩
  next =>
    obtain ⟨rfl, rfl⟩ := Prod.mk.inj h
    exact ⟨rfl, nofun⟩

theorem isFigureText_of_digits {cs : List Char} (h : ∀ c ∈ cs, isDecimalDigit c = true) :
    IsFigureText cs := fun c hc => .inl (by rw [isFigureChar, h c hc]; rfl)

theorem thousands_eq (cs : List Char) :
    cs = (thousands cs).1 ++ (thousands cs).2 ∧ IsFigureText (thousands cs).1 := by
  fun_induction thousands cs with
  | case1 a b c rest hdigits more tail heq ih =>
    rw [heq] at ih
    simp only [Bool.and_eq_true] at hdigits
    refine ⟨by simpa using ih.1, ?_⟩
    intro d hd
    simp only [List.mem_cons] at hd
    rcases hd with rfl | rfl | rfl | rfl | hd
    · exact .inl (by decide)
    · exact .inl (by simp [isFigureChar, hdigits])
    · exact .inl (by simp [isFigureChar, hdigits])
    · exact .inl (by simp [isFigureChar, hdigits])
    · exact ih.2 d hd
  | case2 => exact ⟨rfl, nofun⟩
  | case3 => exact ⟨rfl, nofun⟩

theorem whole?_eq {cs whole rest : List Char} (h : whole? cs = some (whole, rest)) :
    cs = whole ++ rest ∧ IsFigureText whole := by
  unfold whole? at h
  obtain ⟨⟨digits, more⟩, hrun, htake⟩ := Option.bind_eq_some_iff.mp h
  obtain ⟨hcs, hdigits⟩ := run?_eq hrun
  dsimp only at htake
  split at htake
  · obtain ⟨rfl, rfl⟩ := Prod.mk.inj (Option.some.inj htake)
    obtain ⟨heq, hgroups⟩ := thousands_eq more
    refine ⟨?_, isFigureText_append (isFigureText_of_digits hdigits) hgroups⟩
    rw [List.append_assoc, ← heq, hcs]
  · obtain ⟨rfl, rfl⟩ := Prod.mk.inj (Option.some.inj htake)
    exact ⟨hcs, isFigureText_of_digits hdigits⟩

theorem fraction_eq (cs : List Char) :
    cs = (fraction cs).1 ++ (fraction cs).2 ∧ IsFigureText (fraction cs).1 := by
  unfold fraction
  split
  next rest =>
    split
    next digits tail hrun =>
      obtain ⟨rfl, hdigits⟩ := run?_eq hrun
      refine ⟨rfl, fun c hc => ?_⟩
      rcases List.mem_cons.mp hc with rfl | hc
      · simp
      · exact isFigureText_of_digits hdigits c hc
    next => exact ⟨rfl, nofun⟩
  next => exact ⟨rfl, nofun⟩

theorem figure?_eq {cs figure rest : List Char} (h : figure? cs = some (figure, rest)) :
    cs = figure ++ rest ∧ IsFigureText figure := by
  unfold figure? at h
  cases hs : sign cs with
  | mk front behind =>
    rw [hs] at h
    obtain ⟨hcs, hsign⟩ := sign_eq hs
    obtain ⟨⟨whole, more⟩, hwhole, htake⟩ := Option.bind_eq_some_iff.mp h
    obtain ⟨hbehind, hwholeText⟩ := whole?_eq hwhole
    obtain ⟨hmore, hfraction⟩ := fraction_eq more
    obtain ⟨rfl, rfl⟩ := Prod.mk.inj (Option.some.inj htake)
    refine ⟨?_, isFigureText_append (isFigureText_append hsign hwholeText) hfraction⟩
    simp only [List.append_assoc]
    exact hcs.trans (congrArg (front ++ ·) (hbehind.trans (congrArg (whole ++ ·) hmore)))

end Slack

theorem ClockTree.figure?_eq {cs figure rest : List Char}
    (h : figure? cs = some (figure, rest)) : cs = figure ++ rest ∧ IsFigureText figure := by
  unfold figure? at h
  cases hs : Slack.sign cs with
  | mk front behind =>
    rw [hs] at h
    obtain ⟨hcs, hsign⟩ := Slack.sign_eq hs
    obtain ⟨⟨digits, more⟩, hrun, htake⟩ := Option.bind_eq_some_iff.mp h
    obtain ⟨hbehind, hdigits⟩ := run?_eq hrun
    obtain ⟨hmore, hfraction⟩ := Slack.fraction_eq more
    obtain ⟨rfl, rfl⟩ := Prod.mk.inj (Option.some.inj htake)
    refine ⟨?_, isFigureText_append (isFigureText_append hsign
      (Slack.isFigureText_of_digits hdigits)) hfraction⟩
    simp only [List.append_assoc]
    exact hcs.trans (congrArg (front ++ ·) (hbehind.trans (congrArg (digits ++ ·) hmore)))

/-! ## The size of a figure -/

/-- Without the commas, no more digits stand in a row than digits and commas did. -/
theorem length_takeWhile_filter_le (cs : List Char) :
    ((cs.filter (· != ',')).takeWhile Char.isDigit).length ≤
      (cs.takeWhile isFigureChar).length := by
  induction cs with
  | nil => exact Nat.le_refl _
  | cons c cs ih =>
    by_cases hcomma : c = ','
    · subst hcomma
      have hfigure : isFigureChar ',' = true := by decide
      simp [hfigure]
      omega
    · rw [List.filter_cons_of_pos (by simpa using hcomma), List.takeWhile_cons]
      split
      next hdigit =>
        have hfigure : isFigureChar c = true := by
          rw [isFigureChar, isDecimalDigit_of_isDigit hdigit]
          rfl
        rw [List.takeWhile_cons_of_pos hfigure, List.length_cons, List.length_cons]
        exact Nat.succ_le_succ ih
      next => exact Nat.zero_le _

theorem foldl_digits_lt {ds : List Char} (h : ∀ c ∈ ds, c.isDigit = true) (start : Nat) :
    ds.foldl (fun n c => 10 * n + digitValue c) start < (start + 1) * 10 ^ ds.length := by
  induction ds generalizing start with
  | nil => simp
  | cons c ds ih =>
    have hc := h c List.mem_cons_self
    simp only [Char.isDigit, Bool.and_eq_true, decide_eq_true_eq] at hc
    have hvalue : digitValue c ≤ 9 := by
      have hlow : 48 ≤ c.toNat := hc.1
      have hhigh : c.toNat ≤ 57 := hc.2
      have hzero : '0'.toNat = 48 := rfl
      unfold digitValue
      omega
    rw [List.foldl_cons, List.length_cons, Nat.pow_succ, Nat.mul_comm _ 10, ← Nat.mul_assoc]
    refine lt_of_lt_of_le (ih (fun d hd => h d (List.mem_cons_of_mem _ hd)) _) ?_
    exact Nat.mul_le_mul_right _ (by omega)

theorem ofDigits_lt {ds : List Char} (h : ∀ c ∈ ds, c.isDigit = true) :
    ofDigits ds < 10 ^ ds.length := by
  have hlt := foldl_digits_lt h 0
  rwa [Nat.zero_add, Nat.one_mul] at hlt

theorem toLower_of_figureText {cs : List Char} (hcs : IsFigureText cs) {c : Char} (hc : c ∈ cs) :
    c.toLower = c := by
  rcases hcs c hc with hfigure | rfl | rfl | rfl
  · simp only [isFigureChar, isDecimalDigit, Char.isDigit, Bool.or_eq_true, Bool.and_eq_true,
      decide_eq_true_eq, beq_iff_eq] at hfigure
    rcases hfigure with (⟨-, hhigh⟩ | ⟨hhigh, -⟩) | rfl
    · have hhigh : c.toNat ≤ 57 := hhigh
      exact toLower_eq_self (by omega)
    · exact toLower_eq_self (by omega)
    · decide
  · decide
  · decide
  · decide

theorem mem_of_mem_readSign {cs : List Char} {c : Char} (h : c ∈ (readSign cs).2) : c ∈ cs := by
  unfold readSign at h
  split at h
  · exact List.mem_cons_of_mem _ h
  · exact List.mem_cons_of_mem _ h
  · exact h

/-- A figure has no letters, so it is none of the words for infinity and NaN. -/
theorem read?_of_figureText {cs : List Char} (hcs : IsFigureText cs) :
    Binary64.read? cs =
      (readUnsignedDecimal? (readSign cs).2).map fun position => ⟨(readSign cs).1, position⟩ := by
  have hrest : IsFigureText (readSign cs).2 := fun c hc => hcs c (mem_of_mem_readSign hc)
  have hword : ∀ word : List Char, 'n' ∈ word → lower (readSign cs).2 ≠ word := by
    rintro word hn rfl
    obtain ⟨c, hc, hlow⟩ := List.mem_map.mp hn
    rw [toLower_of_figureText hrest hc] at hlow
    exact absurd (hrest 'n' (hlow ▸ hc)) (by decide)
  unfold Binary64.read?
  dsimp only
  rw [if_neg, if_neg (hword _ (by decide))]
  rw [Bool.or_eq_true, decide_eq_true_eq, decide_eq_true_eq, not_or]
  exact ⟨hword _ (by decide), hword _ (by decide)⟩

/-- The digits of a figure are its whole text: there is no exponent behind them. -/
theorem readUnsignedDecimal?_le {cs : List Char} {position : Nat} (hcs : IsFigureText cs)
    (hwhole : (cs.takeWhile Char.isDigit).length ≤ 300)
    (h : readUnsignedDecimal? cs = some position) :
    position ≤ (1000 + 1024) * Binary64.binade := by
  have hlarge : 10 ^ 300 ≤ 2 ^ 1000 := by decide +kernel
  have hexponent : ∀ (tail : List Char) (e : Int), (∀ c ∈ tail, c ∈ cs) →
      readExponent? tail = some e → e = 0 := by
    intro tail e hsub he
    unfold readExponent? at he
    split at he
    · exact (Option.some.inj he).symm
    next c rest =>
      split at he
      next hletter =>
        have hc := hcs c (hsub c List.mem_cons_self)
        simp only [Bool.or_eq_true, decide_eq_true_eq] at hletter
        rcases hletter with rfl | rfl <;> exact absurd hc (by decide)
      next => exact nomatch he
  -- the number with the point left out, and how far the point is from its end
  have hbound : ∀ (fraction tail : List Char), (∀ c ∈ fraction, c.isDigit = true) →
      (∀ c ∈ tail, c ∈ cs) → ((readExponent? tail).map fun e =>
        nearestDecimal (ofDigits (cs.takeWhile Char.isDigit ++ fraction))
          (e - (fraction.length : Int))) = some position →
      position ≤ (1000 + 1024) * Binary64.binade := by
    intro fraction tail hfraction hsub hread
    obtain ⟨e, he, rfl⟩ := Option.map_eq_some_iff.mp hread
    rw [hexponent tail e hsub he, Int.zero_sub]
    refine @nearestDecimal_le _ _ 300 1000 ?_ hlarge
    have hdigits : ∀ c ∈ cs.takeWhile Char.isDigit ++ fraction, c.isDigit = true := by
      intro c hc
      rcases List.mem_append.mp hc with hc | hc
      · exact List.mem_takeWhile_imp hc
      · exact hfraction c hc
    refine (ofDigits_lt hdigits).le.trans (Nat.pow_le_pow_right (by decide) ?_)
    rw [List.length_append]
    omega
  have hrest : ∀ c ∈ cs.dropWhile Char.isDigit, c ∈ cs :=
    fun c hc => (List.dropWhile_suffix _).subset hc
  unfold readUnsignedDecimal? at h
  dsimp only at h
  split at h
  next more hmore =>
    split at h
    · exact nomatch h
    · refine hbound _ _ (fun c hc => List.mem_takeWhile_imp hc) (fun c hc => hrest c ?_) h
      rw [hmore]
      exact List.mem_cons_of_mem _ ((List.dropWhile_suffix _).subset hc)
  next =>
    split at h
    · exact nomatch h
    · exact hbound [] _ nofun hrest h

/-- A figure with at most 300 digits in front of its point is read as a number of ordinary
size. -/
theorem within_of_readReal? {cs : List Char} {x : Binary64} (hcs : IsFigureText cs)
    (hruns : RunsWithin 300 cs) (h : readReal? cs = some x) : x.Within 1000 := by
  have hinner : (trim cs).dropWhile (· == '+') <:+: cs :=
    (List.dropWhile_suffix _).isInfix.trans (infix_trim cs)
  unfold readReal? at h
  generalize (trim cs).dropWhile (· == '+') = inner at h hinner
  have htext : IsFigureText (inner.filter (· != ',')) :=
    fun c hc => hcs c (hinner.subset (List.mem_of_mem_filter hc))
  -- behind the sign stands a part of the figure, without its commas
  obtain ⟨part, hpart, hrest⟩ : ∃ part, part <:+ inner ∧
      (readSign (inner.filter (· != ','))).2 = part.filter (· != ',') := by
    unfold readSign
    have hbehind : ∀ {c rest}, inner.filter (· != ',') = c :: rest →
        ∃ part, part <:+ inner ∧ rest = part.filter (· != ',') := by
      intro c rest heq
      obtain ⟨front, part, rfl, -, -, hpart⟩ := List.filter_eq_cons_iff.mp heq
      exact ⟨part, ⟨front ++ [c], by simp⟩, hpart.symm⟩
    split
    next rest heq => exact hbehind heq
    next rest heq => exact hbehind heq
    next => exact ⟨inner, List.suffix_refl _, rfl⟩
  have hlength : ((part.filter (· != ',')).takeWhile Char.isDigit).length ≤ 300 := by
    refine (length_takeWhile_filter_le part).trans (hruns _ ?_ fun c hc => List.mem_takeWhile_imp hc)
    exact (List.takeWhile_prefix _).isInfix.trans (hpart.isInfix.trans hinner)
  rw [read?_of_figureText htext, hrest] at h
  obtain ⟨position, hposition, rfl⟩ := Option.map_eq_some_iff.mp h
  refine readUnsignedDecimal?_le (fun c hc => ?_) hlength hposition
  exact hcs c (hinner.subset (hpart.subset (List.mem_of_mem_filter hc)))

theorem isFinite_of_readReal? {cs : List Char} {x : Binary64} (hcs : IsFigureText cs)
    (hruns : RunsWithin 300 cs) (h : readReal? cs = some x) : x.isFinite = true :=
  (within_of_readReal? hcs hruns h).isFinite (by decide)

/-! ## Slack -/

theorem Binary64.least_eq (x y : Binary64) : x.least y = x ∨ x.least y = y := by
  unfold Binary64.least
  split
  · exact .inr rfl
  · split
    · exact .inr rfl
    · exact .inl rfl

namespace Slack

/-- The figure of an item is a piece of the line. -/
theorem figure_of_mem_items {line : List Char} {item : List Char × List Char}
    (h : item ∈ items line) : IsFigureText item.2 ∧ item.2 <:+: line := by
  obtain ⟨before, place, rest, hplace, hread⟩ := exists_of_mem_allFrom h
  unfold item? at hread
  split at hread
  next =>
    obtain ⟨⟨name, more⟩, hname, hread⟩ := Option.bind_eq_some_iff.mp hread
    obtain ⟨behind, hmark, hread⟩ := Option.bind_eq_some_iff.mp hread
    obtain ⟨⟨figure, left⟩, hfigure, hread⟩ := Option.bind_eq_some_iff.mp hread
    obtain ⟨rfl, rfl⟩ := Prod.mk.inj (Option.some.inj hread)
    obtain ⟨hbehind, htext⟩ := figure?_eq hfigure
    refine ⟨htext, ?_⟩
    have hprefix : figure <:+: behind := hbehind ▸ (List.prefix_append figure left).isInfix
    exact hprefix.trans ((afterMark?_suffix hmark).isInfix.trans
      ((firstKeyword?_suffix hname).isInfix.trans hplace.isInfix))
  next => exact nomatch hread

theorem isFinite_empty : empty.IsFinite := ⟨nofun, nofun⟩

theorem isFinite_set {s : Slack} (hs : s.IsFinite) {item : List Char × List Char}
    (htext : IsFigureText item.2) (hruns : RunsWithin 300 item.2) : (s.set item).IsFinite := by
  have hread : FiniteIfSome (readReal? item.2) := fun x hx => isFinite_of_readReal? htext hruns hx
  unfold set
  dsimp only
  split
  · exact ⟨hread, hs.total⟩
  · split
    · exact ⟨hs.worst, hread⟩
    · exact ⟨hs.worst, hs.total⟩

theorem isFinite_readLine {s : Slack} (hs : s.IsFinite) {line : List Char}
    (hruns : RunsWithin 300 line) : (s.readLine line).IsFinite := by
  unfold readLine
  have hitems : ∀ item ∈ items line, IsFigureText item.2 ∧ item.2 <:+: line :=
    fun item hitem => figure_of_mem_items hitem
  generalize items line = found at hitems
  induction found generalizing s with
  | nil => exact hs
  | cons item found ih =>
    obtain ⟨htext, hinfix⟩ := hitems item List.mem_cons_self
    exact ih (isFinite_set hs htext (hruns.part hinfix))
      fun other hother => hitems other (List.mem_cons_of_mem _ hother)

end Slack

namespace SlackPair

/-- Both scenarios have finite figures. -/
structure IsFinite (p : SlackPair) : Prop where
  setup : p.setup.IsFinite
  hold : p.hold.IsFinite

theorem isFinite_readLine {state : Option Scenario × SlackPair} (hp : state.2.IsFinite)
    {line : List Char} (hruns : RunsWithin 300 line) : (readLine state line).2.IsFinite := by
  unfold readLine
  dsimp only
  split
  · exact hp
  next scenario _ =>
    cases scenario with
    | setup => exact ⟨Slack.isFinite_readLine hp.setup hruns, hp.hold⟩
    | hold => exact ⟨hp.setup, Slack.isFinite_readLine hp.hold hruns⟩

theorem isFinite_read {body : List Char} (hruns : RunsWithin 300 body) :
    (read body).IsFinite := by
  unfold read
  have hlines : ∀ line ∈ lines body, RunsWithin 300 line :=
    fun line hline => hruns.part (infix_of_mem_lines hline)
  -- the pair stays finite from line to line
  have hfold : ∀ (ls : List (List Char)) (state : Option Scenario × SlackPair),
      (∀ line ∈ ls, RunsWithin 300 line) → state.2.IsFinite →
        (ls.foldl readLine state).2.IsFinite := by
    intro ls
    induction ls with
    | nil => exact fun state _ hp => hp
    | cons line ls ih =>
      intro state hls hp
      exact ih _ (fun l hl => hls l (List.mem_cons_of_mem _ hl))
        (isFinite_readLine hp (hls line List.mem_cons_self))
  exact hfold _ (none, empty) hlines ⟨Slack.isFinite_empty, Slack.isFinite_empty⟩

theorem finiteIfSome_leastOf {x y : Option Binary64} (hx : FiniteIfSome x)
    (hy : FiniteIfSome y) : FiniteIfSome (leastOf x y) := by
  intro z hz
  unfold leastOf at hz
  split at hz
  next a b =>
    obtain rfl := Option.some.inj hz
    rcases Binary64.least_eq a b with h | h
    · rw [h]
      exact hx a rfl
    · rw [h]
      exact hy b rfl
  next => exact hx z hz
  next => exact hy z hz

theorem isFinite_combine? {p : SlackPair} (hp : p.IsFinite) {r : SlackReport}
    (h : p.combine? = some r) : r.IsFinite := by
  obtain ⟨worst, hworst, hr⟩ := Option.bind_eq_some_iff.mp h
  obtain rfl := Option.some.inj hr
  have hpart : ∀ {s t : Slack}, s.IsFinite → (if s.isEmpty then none else some s) = some t →
      t.IsFinite := by
    intro s t hs ht
    split at ht
    · exact nomatch ht
    · exact Option.some.inj ht ▸ hs
  exact ⟨fun s hs => hpart hp.setup hs, fun s hs => hpart hp.hold hs,
    finiteIfSome_leastOf hp.setup.worst hp.hold.worst worst hworst,
    finiteIfSome_leastOf hp.setup.total hp.hold.total⟩

end SlackPair

/-! ## Clock trees -/

namespace ClockTree

/-- A thousand times a number of ordinary size is one. -/
theorem isFinite_inPicoseconds? {quantity : List Char × Option (List Char)} {x : Binary64}
    (htext : IsFigureText quantity.1) (hruns : RunsWithin 300 quantity.1)
    (h : inPicoseconds? quantity = some x) : x.isFinite = true := by
  obtain ⟨value, hvalue, hx⟩ := Option.bind_eq_some_iff.mp h
  have hwithin := within_of_readReal? htext hruns hvalue
  have hthousand : (Binary64.ofNat 1000).Within 10 := Binary64.within_ofNat (by decide)
  have hfinite := hwithin.isFinite (by decide)
  split at hx
  · split at hx
    · obtain rfl := Option.some.inj hx
      exact (hwithin.mul hthousand (by decide) (by decide)).isFinite (by decide)
    · exact Option.some.inj hx ▸ hfinite
  · exact Option.some.inj hx ▸ hfinite

/-- A quantity is a figure of the line. -/
theorem exists_of_find? {name : String} {line : List Char} {x : Binary64}
    (h : find? name line = some x) : ∃ quantity, inPicoseconds? quantity = some x ∧
      IsFigureText quantity.1 ∧ quantity.1 <:+: line := by
  obtain ⟨quantity, hquantity, hx⟩ := Option.bind_eq_some_iff.mp h
  obtain ⟨before, place, hplace, hread⟩ := exists_of_firstFrom? hquantity
  unfold quantity? at hread
  split at hread
  next =>
    obtain ⟨⟨word, more⟩, hword, hread⟩ := Option.bind_eq_some_iff.mp hread
    obtain ⟨behind, hmark, hread⟩ := Option.bind_eq_some_iff.mp hread
    obtain ⟨⟨figure, left⟩, hfigure, hread⟩ := Option.bind_eq_some_iff.mp hread
    obtain rfl := Option.some.inj hread
    obtain ⟨hbehind, htext⟩ := figure?_eq hfigure
    have hprefix : figure <:+: behind := hbehind ▸ (List.prefix_append figure left).isInfix
    exact ⟨_, hx, htext, hprefix.trans ((afterMark?_suffix hmark).isInfix.trans
      ((keyword?_suffix hword).isInfix.trans hplace.isInfix))⟩
  next => exact nomatch hread

theorem finiteIfSome_find? {name : String} {line : List Char} (hruns : RunsWithin 300 line) :
    FiniteIfSome (find? name line) := by
  intro x hx
  obtain ⟨quantity, hread, htext, hinfix⟩ := exists_of_find? hx
  exact isFinite_inPicoseconds? htext (hruns.part hinfix) hread

theorem isFinite_readAll {body : List Char} (hruns : RunsWithin 300 body) :
    ∀ c ∈ readAll body, c.IsFinite := by
  intro c hc
  obtain ⟨line, hline, hread⟩ := List.mem_filterMap.mp hc
  have hlineRuns := hruns.part (infix_of_mem_lines hline)
  obtain ⟨name, -, hread⟩ := Option.bind_eq_some_iff.mp hread
  obtain ⟨latency, hlatency, hread⟩ := Option.bind_eq_some_iff.mp hread
  obtain rfl := Option.some.inj hread
  exact ⟨finiteIfSome_find? hlineRuns latency hlatency, finiteIfSome_find? hlineRuns⟩

/-- The worst of the clocks and of one before them is one of these. -/
theorem mem_or_eq_of_foldl {clocks : List ClockTree} {best : Option ClockTree} {c : ClockTree}
    (h : clocks.foldl (fun best c =>
      match best with
      | none => some c
      | some b => if b.latency.rank ≤ c.latency.rank then some c else some b) best = some c) :
    c ∈ clocks ∨ best = some c := by
  induction clocks generalizing best with
  | nil => exact .inr h
  | cons next clocks ih =>
    rcases ih h with hmem | hbest
    · exact .inl (List.mem_cons_of_mem _ hmem)
    · dsimp only at hbest
      split at hbest
      · exact .inl (Option.some.inj hbest ▸ List.mem_cons_self)
      · split at hbest
        · exact .inl (Option.some.inj hbest ▸ List.mem_cons_self)
        · exact .inr hbest

/-- The worst clock is one of the clocks. -/
theorem mem_of_worst? {clocks : List ClockTree} {c : ClockTree} (h : worst? clocks = some c) :
    c ∈ clocks :=
  (mem_or_eq_of_foldl h).resolve_right (Option.some_ne_none c).symm

end ClockTree

theorem ClockReport.isFinite_ofClocks? {clocks : List ClockTree}
    (hclocks : ∀ c ∈ clocks, c.IsFinite) {r : ClockReport} (h : ofClocks? clocks = some r) :
    r.IsFinite := by
  obtain ⟨worst, hworst, rfl⟩ := Option.map_eq_some_iff.mp h
  exact ⟨hclocks, (hclocks worst (ClockTree.mem_of_worst? hworst)).latency⟩

/-! ## Verdicts -/

namespace Section

theorem suffix_of_linesAfterBanner? {d : Domain} {ls rest : List (List Char)}
    (h : linesAfterBanner? d ls = some rest) : rest <:+ ls := by
  induction ls with
  | nil => exact nomatch h
  | cons line ls ih =>
    rw [linesAfterBanner?] at h
    split at h
    · exact Option.some.inj h ▸ List.suffix_cons line ls
    · exact (ih h).trans (List.suffix_cons line ls)

/-- The body of a section has no more digits in a row than the output. -/
theorem runsWithin_body? {n : Nat} {d : Domain} {output body : List Char}
    (hruns : RunsWithin n output) (h : body? d output = some body) : RunsWithin n body := by
  obtain ⟨rest, hrest, rfl⟩ := Option.map_eq_some_iff.mp h
  refine runsWithin_join fun line hline => hruns.part (infix_of_mem_lines ?_)
  exact (suffix_of_linesAfterBanner? hrest).subset ((List.takeWhile_prefix _).subset hline)

end Section

/-- The domains with real numbers among their figures. -/
def Domain.isMeasured : Domain → Bool
  | .timing | .clock => true
  | _ => false

theorem Verdict.isFinite_ofBody? {d : Domain} {body : List Char}
    (hruns : d.isMeasured = true → RunsWithin 300 body) {v : Verdict}
    (h : ofBody? d body = some v) : v.figures.IsFinite := by
  cases d with
  | formal =>
    unfold ofBody? at h
    dsimp only at h
    split at h
    · exact nomatch h
    · exact Option.some.inj h ▸ trivial
  | timing =>
    obtain ⟨report, hreport, rfl⟩ := Option.map_eq_some_iff.mp h
    exact SlackPair.isFinite_combine? (SlackPair.isFinite_read (hruns rfl)) hreport
  | physical =>
    unfold ofBody? at h
    dsimp only at h
    split at h
    · exact nomatch h
    · exact Option.some.inj h ▸ trivial
  | clock =>
    obtain ⟨report, hreport, rfl⟩ := Option.map_eq_some_iff.mp h
    exact ClockReport.isFinite_ofClocks? (ClockTree.isFinite_readAll (hruns rfl)) hreport
  | release => exact Option.some.inj h ▸ trivial
  | gateLevel =>
    obtain ⟨counts, -, rfl⟩ := Option.map_eq_some_iff.mp h
    trivial

/-- Output gives finite figures if its domain only counts, or with at most 300 digits in a row. -/
theorem Domain.isFinite_classify (d : Domain) {output : String}
    (hruns : d.isMeasured = true → RunsWithin 300 output.toList) :
    (d.classify output).figures.IsFinite := by
  unfold Domain.classify
  split
  · trivial
  next body hbody =>
    cases hv : Verdict.ofBody? d body with
    | none => trivial
    | some v =>
      exact Verdict.isFinite_ofBody? (fun hd => Section.runsWithin_body? (hruns hd) hbody) hv

end Signoff
