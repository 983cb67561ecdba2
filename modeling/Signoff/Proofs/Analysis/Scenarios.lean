import Signoff.Proofs.Analysis.Counts

/-!
# Setup and hold

A header line opens a block of one scenario, which goes on to the next header line. The slack of a
scenario is that of its own blocks alone, with the last figure of each name in them; what stands in
front of the first block counts for nothing, and blocks of different scenarios may change places
(`scenarios_apart`). All this is about words in ASCII letters: one with a long s is found as a word
and then not known.
-/

namespace Signoff

open Text Number

variable {line written : List Char}

/-! ## Words -/

namespace Scenario

def word : Scenario → List Char
  | setup => "setup".toList
  | hold => "hold".toList

theorem word_inj {r s : Scenario} : r.word = s.word ↔ r = s := by
  cases r <;> cases s <;> decide

theorem ofWord_eq_iff {r : Scenario} (h : lower written = r.word) (s : Scenario) :
    ofWord written = s ↔ r = s := by
  unfold ofWord sameLetters
  rw [h]
  cases r <;> cases s <;> decide

/-- A header has the word of a scenario. -/
theorem folded_of_headerWord? (h : headerWord? line = some written) :
    written <:+: line ∧ ∃ r : Scenario, folded written = r.word := by
  obtain ⟨⟨w, rest⟩, hwhole, rfl⟩ := Option.map_eq_some_iff.mp h
  -- the word stands behind the blanks in front, and behind the word `scenario` if that is there
  obtain ⟨inner, hinner, hwhole⟩ : ∃ inner, inner <:+ line ∧
      wholeKeyword? ["setup", "hold"] inner = some (w, rest) := by
    split at hwhole
    next hword =>
      exact ⟨_, (skipMark_suffix _).trans ((keyword?_suffix hword).trans (trimStart_suffix line)),
        hwhole⟩
    next => exact ⟨_, trimStart_suffix line, hwhole⟩
  obtain ⟨rfl, key, hkey, hfolded⟩ := folded_of_wholeKeyword? (by decide) hwhole
  refine ⟨(List.prefix_append w rest).isInfix.trans hinner.isInfix, ?_⟩
  simp only [List.mem_cons, List.not_mem_nil, or_false] at hkey
  rcases hkey with rfl | rfl
  · exact ⟨setup, hfolded⟩
  · exact ⟨hold, hfolded⟩

theorem exists_of_headerWord? (h : headerWord? line = some written) (hs : longS ∉ line) :
    ∃ r : Scenario, lower written = r.word := by
  obtain ⟨hpart, r, hfolded⟩ := folded_of_headerWord? h
  have hk : 'k' ∉ r.word := by cases r <;> decide
  exact ⟨r, lower_of_folded hfolded hk fun _ hmem => hs (hpart.subset hmem)⟩

end Scenario

namespace Slack

/-- The figure behind the last of the items with a name. -/
def lastFigure? (name : String) (found : List (List Char × List Char)) : Option (List Char) :=
  (found.filter fun item => lower item.1 == name.toList).getLast?.map (·.2)

/-- The slack that items show. -/
def ofItems (found : List (List Char × List Char)) : Slack where
  worst := (lastFigure? "wns" found).bind readReal?
  total := (lastFigure? "tns" found).bind readReal?
  violations := (lastFigure? "nvp" found).bind readCount?

/-- The names of figures. -/
def names : List String := ["wns", "tns", "nvp"]

theorem folded_of_mem_items {item : List Char × List Char} (h : item ∈ items line) :
    item.1 <:+: line ∧ ∃ name ∈ names, folded item.1 = name.toList := by
  obtain ⟨before, place, rest, hplace, hread⟩ := exists_of_mem_allFrom h
  unfold item? at hread
  split at hread
  next =>
    obtain ⟨⟨written, more⟩, hname, hread⟩ := Option.bind_eq_some_iff.mp hread
    obtain ⟨behind, -, hread⟩ := Option.bind_eq_some_iff.mp hread
    obtain ⟨⟨figure, left⟩, -, hread⟩ := Option.bind_eq_some_iff.mp hread
    obtain ⟨rfl, -⟩ := Prod.mk.inj (Option.some.inj hread)
    obtain ⟨rfl, hfolded⟩ := folded_of_firstKeyword? (by decide) hname
    obtain ⟨name, hmem, hname⟩ := List.mem_map.mp hfolded
    exact ⟨(List.prefix_append written more).isInfix.trans hplace.isInfix, name, hmem, hname.symm⟩
  next => exact nomatch hread

theorem name_of_mem_items {item : List Char × List Char} (h : item ∈ items line)
    (hs : longS ∉ line) : ∃ name ∈ names, lower item.1 = name.toList := by
  obtain ⟨hpart, name, hmem, hfolded⟩ := folded_of_mem_items h
  have hk : ∀ name ∈ names, 'k' ∉ name.toList := by decide
  exact ⟨name, hmem, lower_of_folded hfolded (hk name hmem) fun _ hmem => hs (hpart.subset hmem)⟩

theorem lastFigure?_concat (name : String) (front : List (List Char × List Char))
    (item : List Char × List Char) : lastFigure? name (front ++ [item]) =
      if lower item.1 = name.toList then some item.2 else lastFigure? name front := by
  unfold lastFigure?
  rw [getLast?_filter_concat]
  by_cases h : lower item.1 = name.toList
  · rw [if_pos h, if_pos (beq_iff_eq.mpr h), Option.map_some]
  · rw [if_neg h, if_neg (h <| beq_iff_eq.mp ·)]

/-- What a slack becomes when items are put on it: the last figure of a name replaces that of the
slack. -/
def onto (s : Slack) (found : List (List Char × List Char)) : Slack where
  worst := (lastFigure? "wns" found).elim s.worst readReal?
  total := (lastFigure? "tns" found).elim s.total readReal?
  violations := (lastFigure? "nvp" found).elim s.violations readCount?

/-- One more item replaces the figure of its name and no other. -/
theorem set_onto {s : Slack} {front : List (List Char × List Char)}
    {item : List Char × List Char} (h : ∃ name ∈ names, lower item.1 = name.toList) :
    (s.onto front).set item = s.onto (front ++ [item]) := by
  obtain ⟨name, hname, hlower⟩ := h
  unfold set onto sameLetters
  -- every field asks for the name of the new item, and one of the three is told yes
  simp only [lastFigure?_concat, hlower]
  simp only [names, List.mem_cons, List.not_mem_nil, or_false] at hname
  rcases hname with rfl | rfl | rfl <;> rfl

theorem foldl_set_onto {found : List (List Char × List Char)}
    (h : ∀ item ∈ found, ∃ name ∈ names, lower item.1 = name.toList) (s : Slack) :
    found.foldl set s = s.onto found := by
  induction found using List.reverseRecOn with
  | nil => rfl
  | append_singleton front item ih =>
    rw [List.foldl_append, List.foldl_cons, List.foldl_nil,
      ih fun i hi => h i (List.mem_append_left _ hi),
      set_onto (h item (List.mem_append_right _ List.mem_cons_self))]

/-- Items that are taken over one by one leave the last figure of each name. -/
theorem foldl_set {found : List (List Char × List Char)}
    (h : ∀ item ∈ found, ∃ name ∈ names, lower item.1 = name.toList) :
    found.foldl set empty = ofItems found := by
  have hfield : ∀ {α : Type} (figure : Option (List Char)) (read : List Char → Option α),
      figure.elim none read = figure.bind read := by
    intro α figure read
    cases figure <;> rfl
  rw [foldl_set_onto h]
  unfold onto ofItems
  rw [← hfield, ← hfield, ← hfield]
  rfl

end Slack

/-! ## Blocks -/

/-- A header line and the lines up to the next one. -/
structure SlackBlock where
  header : List Char
  word : List Char
  rest : List (List Char)
  isHeader : Scenario.headerWord? header = some word
  plain : ∀ line ∈ rest, Scenario.headerWord? line = none

namespace SlackBlock

def lines (b : SlackBlock) : List (List Char) := b.header :: b.rest

def isOf (s : Scenario) (b : SlackBlock) : Bool := lower b.word == s.word

/-- The figures with their names, those of the header line first. -/
def items (b : SlackBlock) : List (List Char × List Char) := b.lines.flatMap Slack.items

/-- A block without a long s is of the scenario that its header is read as. -/
theorem isOf_eq {b : SlackBlock} (h : ∀ line ∈ b.lines, longS ∉ line) (s : Scenario) :
    b.isOf s = decide (Scenario.ofWord b.word = s) := by
  obtain ⟨r, hr⟩ := Scenario.exists_of_headerWord? b.isHeader (h b.header List.mem_cons_self)
  rw [isOf, hr, Bool.eq_iff_iff, beq_iff_eq, decide_eq_true_iff, Scenario.word_inj,
    Scenario.ofWord_eq_iff hr]

theorem name_of_mem_items {b : SlackBlock} (h : ∀ line ∈ b.lines, longS ∉ line)
    {item : List Char × List Char} (hitem : item ∈ b.items) :
    ∃ name ∈ Slack.names, lower item.1 = name.toList := by
  obtain ⟨line, hline, hmem⟩ := List.mem_flatMap.mp hitem
  exact Slack.name_of_mem_items hmem (h line hline)

end SlackBlock

/-- A section body: lines in front of the first header, then the blocks. -/
structure SlackBody where
  front : List (List Char)
  blocks : List SlackBlock
  plain : ∀ line ∈ front, Scenario.headerWord? line = none

namespace SlackPair

def get (p : SlackPair) : Scenario → Slack
  | .setup => p.setup
  | .hold => p.hold

theorem ext_get {p q : SlackPair} (h : ∀ s, p.get s = q.get s) : p = q := by
  obtain ⟨setup, hold⟩ := p
  obtain ⟨setup', hold'⟩ := q
  obtain rfl : setup = setup' := h .setup
  obtain rfl : hold = hold' := h .hold
  rfl

theorem get_update (p : SlackPair) (s : Scenario) (f : Slack → Slack) (t : Scenario) :
    (p.update s f).get t = if s = t then f (p.get t) else p.get t := by
  cases s <;> cases t <;> rfl

/-- Lines in front of the first header leave no trace. -/
theorem foldl_front {ls : List (List Char)} (h : ∀ line ∈ ls, Scenario.headerWord? line = none)
    (p : SlackPair) : ls.foldl readLine (none, p) = (none, p) := by
  induction ls with
  | nil => rfl
  | cons line ls ih =>
    have hstep : readLine (none, p) line = (none, p) := by
      unfold readLine Scenario.ofHeader?
      rw [h line List.mem_cons_self]
      rfl
    rw [List.foldl_cons, hstep]
    exact ih fun l hl => h l (List.mem_cons_of_mem _ hl)

/-- Lines behind a header belong to its scenario and leave the other one alone. -/
theorem foldl_rest {ls : List (List Char)} (h : ∀ line ∈ ls, Scenario.headerWord? line = none)
    (s : Scenario) (p : SlackPair) : ls.foldl readLine (some s, p) =
      (some s, p.update s fun slack => (ls.flatMap Slack.items).foldl Slack.set slack) := by
  induction ls generalizing p with
  | nil => cases s <;> rfl
  | cons line ls ih =>
    have hstep : readLine (some s, p) line = (some s, p.update s (Slack.readLine · line)) := by
      unfold readLine Scenario.ofHeader?
      rw [h line List.mem_cons_self]
      rfl
    rw [List.foldl_cons, hstep, ih fun l hl => h l (List.mem_cons_of_mem _ hl),
      List.flatMap_cons]
    simp only [List.foldl_append]
    cases s <;> rfl

/-- A block adds its items to its scenario, whatever came in front of it. -/
theorem foldl_block (b : SlackBlock) (state : Option Scenario × SlackPair) :
    b.lines.foldl readLine state = (some (Scenario.ofWord b.word),
      state.2.update (Scenario.ofWord b.word) fun slack => b.items.foldl Slack.set slack) := by
  have hstep : readLine state b.header = (some (Scenario.ofWord b.word),
      state.2.update (Scenario.ofWord b.word) (Slack.readLine · b.header)) := by
    unfold readLine Scenario.ofHeader?
    rw [b.isHeader]
    rfl
  unfold SlackBlock.items SlackBlock.lines
  rw [List.foldl_cons, hstep, foldl_rest b.plain, List.flatMap_cons]
  simp only [List.foldl_append]
  cases Scenario.ofWord b.word <;> rfl

/-- Blocks add the items of each scenario to that scenario, in order. -/
theorem get_foldl_blocks (bs : List SlackBlock) (state : Option Scenario × SlackPair)
    (s : Scenario) : ((bs.flatMap SlackBlock.lines).foldl readLine state).2.get s =
      ((bs.filter fun b => decide (Scenario.ofWord b.word = s)).flatMap
        SlackBlock.items).foldl Slack.set (state.2.get s) := by
  -- a header replaces the scenario of the block in front, so only the slack is carried along
  induction bs generalizing state with
  | nil => rfl
  | cons b bs ih =>
    rw [List.flatMap_cons, List.foldl_append, foldl_block, ih, get_update]
    by_cases h : Scenario.ofWord b.word = s
    · rw [if_pos h, List.filter_cons_of_pos (by simpa using h), List.flatMap_cons,
        List.foldl_append]
    · rw [if_neg h, List.filter_cons_of_neg (by simpa using h)]

end SlackPair

namespace SlackBody

variable {p : SlackBody} {body : List Char}

def lines (p : SlackBody) : List (List Char) := p.front ++ p.blocks.flatMap SlackBlock.lines

/-- The text has these lines, whichever line ends it uses. -/
def PrintedAs (p : SlackBody) (body : List Char) : Prop := Text.lines body = p.lines

/-- The items of a scenario, block by block. -/
def itemsOf (p : SlackBody) (s : Scenario) : List (List Char × List Char) :=
  (p.blocks.filter (·.isOf s)).flatMap SlackBlock.items

/-- The same blocks in an order that keeps that of each scenario, behind any lines. -/
def IsShuffleOf (p' p : SlackBody) : Prop :=
  p'.blocks.Perm p.blocks ∧ ∀ s, p'.blocks.filter (·.isOf s) = p.blocks.filter (·.isOf s)

/-- The lines, each with a line end that no carriage return in front of it can be part of. -/
def text (p : SlackBody) : List Char := p.lines.flatMap fun line => line ++ ['\r', '\n']

theorem printedAs_text (h : ∀ line ∈ p.lines, '\n' ∉ line) : p.PrintedAs p.text :=
  lines_flatMap_return h

/-- Lines are cut in front of every header. -/
theorem exists_lines_eq (ls : List (List Char)) : ∃ p : SlackBody, p.lines = ls := by
  induction ls with
  | nil => exact ⟨⟨[], [], nofun⟩, rfl⟩
  | cons line ls ih =>
    obtain ⟨p, rfl⟩ := ih
    cases h : Scenario.headerWord? line with
    | some word => exact ⟨⟨[], ⟨line, word, p.front, h, p.plain⟩ :: p.blocks, nofun⟩, rfl⟩
    | none => exact ⟨⟨line :: p.front, p.blocks, List.forall_mem_cons.mpr ⟨h, p.plain⟩⟩, rfl⟩

/-- The slack of a scenario is what the items in its blocks show. -/
theorem get_read (h : p.PrintedAs body)
    (hs : ∀ b ∈ p.blocks, ∀ line ∈ b.lines, longS ∉ line) (s : Scenario) :
    (SlackPair.read body).get s = Slack.ofItems (p.itemsOf s) := by
  have hblocks : (p.blocks.filter fun b => decide (Scenario.ofWord b.word = s)) =
      p.blocks.filter (·.isOf s) :=
    List.filter_congr fun b hb => (SlackBlock.isOf_eq (hs b hb) s).symm
  have hempty : SlackPair.empty.get s = Slack.empty := by cases s <;> rfl
  unfold SlackPair.read
  rw [h, lines, List.foldl_append, SlackPair.foldl_front p.plain, SlackPair.get_foldl_blocks,
    hblocks, hempty]
  refine Slack.foldl_set fun item hitem => ?_
  obtain ⟨b, hb, hmem⟩ := List.mem_flatMap.mp hitem
  exact SlackBlock.name_of_mem_items (hs b (List.mem_of_mem_filter hb)) hmem

theorem longS_not_mem (h : p.PrintedAs body) (hs : longS ∉ body) :
    ∀ b ∈ p.blocks, ∀ line ∈ b.lines, longS ∉ line := by
  intro b hb line hline hmem
  have hlines : line ∈ Text.lines body := by
    rw [h]
    exact List.mem_append_right _ (List.mem_flatMap.mpr ⟨b, hb, hline⟩)
  exact hs ((infix_of_mem_lines hlines).subset hmem)

theorem feed_not_mem (h : p.PrintedAs body) : ∀ b ∈ p.blocks, ∀ line ∈ b.lines, '\n' ∉ line := by
  intro b hb line hline
  have hlines : line ∈ p.lines := List.mem_append_right _ (List.mem_flatMap.mpr ⟨b, hb, hline⟩)
  rw [← h] at hlines
  exact feed_not_mem_lines hlines

/-- Setup and hold do not leak into each other. A body without the long s is lines in front of the
first header and blocks behind it, and the slack of a scenario is made of the last figure of each
name in the blocks of this scenario; so it is the same in every body with these blocks of it. Both
are the same for every shuffle of the blocks that keeps those of a scenario in order, behind
whatever lines: it can be printed, and it reads the same however it is printed. -/
theorem scenarios_apart {body : List Char} (hs : longS ∉ body) :
    (∃ p : SlackBody, p.PrintedAs body) ∧ ∀ p : SlackBody, p.PrintedAs body →
      (∀ s, (SlackPair.read body).get s = Slack.ofItems (p.itemsOf s)) ∧
      (∀ p' body', PrintedAs p' body' → longS ∉ body' → ∀ s,
        p'.blocks.filter (·.isOf s) = p.blocks.filter (·.isOf s) →
          (SlackPair.read body').get s = (SlackPair.read body).get s) ∧
      ∀ p', IsShuffleOf p' p → (∀ line ∈ p'.front, '\n' ∉ line) →
        p'.PrintedAs p'.text ∧ ∀ body', p'.PrintedAs body' →
          SlackPair.read body' = SlackPair.read body := by
  refine ⟨exists_lines_eq (Text.lines body) |>.imp fun p hp => hp.symm, fun p h => ?_⟩
  have hplain := longS_not_mem h hs
  have hread := get_read h hplain
  refine ⟨hread, fun p' body' h' hs' s heq => ?_, fun p' ⟨hperm, hfilter⟩ hfront => ⟨?_, ?_⟩⟩
  · rw [get_read h' (longS_not_mem h' hs'), hread, itemsOf, heq]
    rfl
  · -- a line of the shuffle stands in front of it or in a block that the body has
    refine printedAs_text fun line hline => ?_
    rcases List.mem_append.mp hline with hline | hline
    · exact hfront line hline
    · obtain ⟨b, hb, hmem⟩ := List.mem_flatMap.mp hline
      exact feed_not_mem h b (hperm.mem_iff.mp hb) line hmem
  · intro body' h'
    have hplain' : ∀ b ∈ p'.blocks, ∀ line ∈ b.lines, longS ∉ line :=
      fun b hb => hplain b (hperm.mem_iff.mp hb)
    refine SlackPair.ext_get fun s => ?_
    rw [get_read h' hplain', hread, itemsOf, hfilter s]
    rfl

/-- Three blocks in two orders, with figures in front of the first header and in headers. -/
theorem scenarios_apart_shuffled :
    let setup : SlackBlock := ⟨"Scenario: Setup WNS = -1,200.5, NVP: 7".toList, "Setup".toList,
      ["WNS = -0.5 TNS=-2".toList], by decide +kernel, by decide +kernel⟩
    let hold : SlackBlock := ⟨"hold TNS: 3".toList, "hold".toList, ["wns=2".toList],
      by decide +kernel, by decide +kernel⟩
    let setup' : SlackBlock := ⟨"SETUP".toList, "SETUP".toList, ["nvp: 9".toList],
      by decide +kernel, by decide +kernel⟩
    let p : SlackBody := ⟨["WNS = 8".toList], [setup, hold, setup'], by decide +kernel⟩
    let p' : SlackBody := ⟨[], [hold, setup, setup'], nofun⟩
    let body := ("WNS = 8\nScenario: Setup WNS = -1,200.5, NVP: 7\r\nWNS = -0.5 TNS=-2\n" ++
      "hold TNS: 3\nwns=2\r\nSETUP\nnvp: 9").toList
    longS ∉ body ∧ p.PrintedAs body ∧ IsShuffleOf p' p ∧
      (SlackPair.read body).setup =
        ⟨readReal? "-0.5".toList, readReal? "-2".toList, readCount? "9".toList⟩ ∧
      (SlackPair.read body).hold = ⟨readReal? "2".toList, readReal? "3".toList, none⟩ ∧
      SlackPair.read p'.text = SlackPair.read body := by
  intro setup hold setup' p p' body
  have hs : longS ∉ body := by decide +kernel
  have hprinted : p.PrintedAs body := by
    unfold PrintedAs
    decide +kernel
  have hshuffle : IsShuffleOf p' p := ⟨.swap setup hold [setup'], by rintro (_ | _) <;> rfl⟩
  obtain ⟨hread, -, hsame⟩ := (scenarios_apart hs).2 p hprinted
  obtain ⟨htext, hsame⟩ := hsame p' hshuffle nofun
  refine ⟨hs, hprinted, hshuffle, (hread .setup).trans ?_, (hread .hold).trans ?_,
    hsame p'.text htext⟩
  · decide +kernel
  · decide +kernel

end SlackBody

end Signoff
