import Signoff.Job
import Signoff.Proofs.Text.Separated
import Signoff.Workspace.Save

/-!
# The places that paths lead to

A path names a place by its steps, whatever is in the workspace; what is there decides only whether
the path leads to it.  `resolve`, `writable` and `movable` all give that place
(`resolve_eq_ok_iff`, `leads_of_writable`, `leads_of_movable`).  The folders around a path lie on
its trail (`mem_trail_of_mem_withParents`).
-/

namespace Signoff

namespace Place

/-- The places from which names are entered. -/
def passed (p : Place) : List String → List Place
  | [] => []
  | name :: rest => p :: passed (p.enter name) rest

theorem passed_append (p : Place) (ms ns : List String) :
    p.passed (ms ++ ns) = p.passed ms ++ passed (ms.foldl enter p) ns := by
  induction ms generalizing p with
  | nil => rfl
  | cons m ms ih => rw [List.cons_append, passed, passed, ih, List.foldl_cons, List.cons_append]

/-- Names that lead nowhere. -/
def isIdle (name : String) : Bool := name == "" || name == "."

theorem enter_of_isIdle {name : String} (h : isIdle name = true) (p : Place) :
    p.enter name = p := by
  unfold isIdle at h
  rw [enter, if_pos]
  simpa using h

theorem foldl_enter_filter (p : Place) (names : List String) :
    (names.filter (!isIdle ·)).foldl enter p = names.foldl enter p := by
  induction names generalizing p with
  | nil => rfl
  | cons name rest ih =>
    -- entering an idle name stays where it is, so leaving it out changes no later place
    cases h : isIdle name with
    | true => rw [List.filter_cons_of_neg (by simp [h]), ih, List.foldl_cons, enter_of_isIdle h]
    | false => rw [List.filter_cons_of_pos (by simp [h]), List.foldl_cons, List.foldl_cons, ih]

/-- The places that names lead through, with the last one. -/
def trail (p : Place) (names : List String) : List Place := p.passed names ++ [names.foldl enter p]

theorem mem_trail_cons {p q : Place} {name : String} {rest : List String} :
    q ∈ p.trail (name :: rest) ↔ q = p ∨ q ∈ (p.enter name).trail rest := by
  simp [trail, passed]

theorem self_mem_trail (p : Place) (names : List String) : p ∈ p.trail names := by
  cases names with
  | nil => simp [trail, passed]
  | cons name rest => exact mem_trail_cons.mpr (Or.inl rfl)

theorem last_mem_trail (p : Place) (names : List String) :
    names.foldl enter p ∈ p.trail names := by
  simp [trail]

/-- Idle names add nothing to a trail. -/
theorem mem_trail_filter {p q : Place} {names : List String} :
    q ∈ p.trail (names.filter (!isIdle ·)) ↔ q ∈ p.trail names := by
  induction names generalizing p with
  | nil => rfl
  | cons name rest ih =>
    cases h : isIdle name with
    | true =>
      -- the idle name repeats a place that the rest of the trail starts with
      rw [List.filter_cons_of_neg (by simp [h]), ih, mem_trail_cons, enter_of_isIdle h]
      constructor
      · exact Or.inr
      · rintro (rfl | hq)
        · exact self_mem_trail _ _
        · exact hq
    | false =>
      rw [List.filter_cons_of_pos (by simp [h]), mem_trail_cons, mem_trail_cons, ih]

/-- A trail goes on where a shorter one ends. -/
theorem mem_trail_append {p q : Place} {ms ns : List String} (h : q ∈ p.trail ms) :
    q ∈ p.trail (ms ++ ns) := by
  induction ms generalizing p with
  | nil =>
    have hq : q = p := by simpa [trail, passed] using h
    rw [hq]
    exact self_mem_trail _ _
  | cons m ms ih =>
    rw [List.cons_append, mem_trail_cons]
    rcases mem_trail_cons.mp h with rfl | h
    · exact Or.inl rfl
    · exact Or.inr (ih h)

/-- A name that leads from a folder to what is in it. -/
structure IsProper (name : String) : Prop where
  slash : '/' ∉ name.toList
  idle : isIdle name = false
  up : name ≠ ".."

/-- A name without a slash is proper if it has more characters than the two dots. -/
theorem isProper_of_length {name : String} (h : '/' ∉ name.toList) (hlen : 2 < name.toList.length) :
    IsProper name where
  slash := h
  idle := by
    unfold isIdle
    rw [Bool.or_eq_false_iff, beq_eq_false_iff_ne, beq_eq_false_iff_ne]
    constructor <;> intro heq <;> rw [heq] at hlen <;> exact absurd hlen (by decide)
  up := by
    intro heq
    rw [heq] at hlen
    exact absurd hlen (by decide)

theorem enter_of_isProper {name : String} (h : IsProper name) (p : Place) :
    p.enter name = p ++ [name] := by
  have hidle := h.idle
  unfold isIdle at hidle
  rw [Bool.or_eq_false_iff] at hidle
  simp only [beq_eq_false_iff_ne] at hidle
  rw [enter, if_neg (by simp [hidle]), if_neg h.up]

theorem isStart_append {name : String} (h : IsProper name) (p : Place) :
    (p ++ [name]).isStart = false := by
  unfold isStart
  rw [Bool.or_eq_false_iff]
  constructor
  · simp [h.up]
  · rw [beq_eq_false_iff_ne]
    -- the root has a slash for its name, and a proper name has none
    intro heq
    have hlast := congrArg List.getLast? heq
    rw [List.getLast?_append, List.getLast?_singleton, List.getLast?_singleton] at hlast
    have hname : name = "/" := by simpa using hlast
    exact h.slash (by rw [hname]; decide)

end Place

namespace Path

open Workspace Text

/-- The names that a path goes through, without those that lead nowhere. -/
def steps (p : Path) : List String := (namesOf p).filter (!Place.isIdle ·)

/-- The place that the path names. -/
def place (p : Path) : Place := p.steps.foldl Place.enter (startOf p)

/-- The places from where the path starts to the one that it names. -/
def trail (p : Path) : List Place := (startOf p).trail p.steps

theorem place_eq_foldl (p : Path) : p.place = (namesOf p).foldl Place.enter (startOf p) :=
  Place.foldl_enter_filter _ _

theorem mem_trail {p : Path} {q : Place} : q ∈ p.trail ↔ q ∈ (startOf p).trail (namesOf p) :=
  Place.mem_trail_filter

theorem place_mem_trail (p : Path) : p.place ∈ p.trail := Place.last_mem_trail _ _

end Path

/-! ## Where a path leads -/

namespace Workspace

variable {w w' : Workspace}

theorem walk_eq_ok_iff {p q : Place} {names : List String} :
    w.walk p names = .ok q ↔ q = names.foldl Place.enter p ∧
      (∀ r ∈ p.passed names, w.item? r = some .folder) ∧
      ∀ name ∈ names, isTooLong name = false := by
  induction names generalizing p with
  | nil =>
    rw [walk, Except.ok.injEq]
    simpa [Place.passed] using eq_comm
  | cons name rest ih =>
    unfold walk
    -- each name is entered from a folder and is not too long, or the walk ends there
    cases hp : w.item? p with
    | none => simp [Place.passed, hp]
    | some item =>
      cases item with
      | file n c => simp [Place.passed, hp]
      | folder =>
        cases hlong : isTooLong name with
        | true => simp [hlong]
        | false =>
          simp only [Bool.false_eq_true, if_false, ih, List.foldl_cons, Place.passed,
            List.forall_mem_cons, hp, hlong, true_and]

/-- A path leads to its place: it can name one, and what is in front of it are folders. -/
structure Leads (w : Workspace) (p : Path) : Prop where
  checked : check p = .ok ()
  short : ∀ name ∈ namesOf p, isTooLong name = false
  folders : ∀ q ∈ (startOf p).passed (namesOf p), w.item? q = some .folder

theorem resolve_eq_ok_iff {p : Path} {q : Place} :
    w.resolve p = .ok q ↔ q = p.place ∧ w.Leads p := by
  unfold resolve
  cases hc : check p with
  | error fault =>
    refine ⟨fun h => by simp at h, fun h => ?_⟩
    have := h.2.checked
    simp [hc] at this
  | ok u =>
    simp only [walk_eq_ok_iff, p.place_eq_foldl]
    exact ⟨fun h => ⟨h.1, hc, h.2.2, h.2.1⟩, fun h => ⟨h.1, h.2.folders, h.2.short⟩⟩

theorem Leads.resolve {p : Path} (h : w.Leads p) : w.resolve p = .ok p.place :=
  resolve_eq_ok_iff.mpr ⟨rfl, h⟩

/-- Folders that stay keep a path leading. -/
theorem Leads.mono {p : Path} (h : w.Leads p)
    (hmono : ∀ q, w.item? q = some .folder → w'.item? q = some .folder) : w'.Leads p :=
  ⟨h.checked, h.short, fun q hq => hmono q (h.folders q hq)⟩

/-- All places on the trail of a path that leads to a folder are folders. -/
theorem Leads.trail {p : Path} (h : w.Leads p) (hp : w.item? p.place = some .folder) :
    ∀ q ∈ p.trail, w.item? q = some .folder := by
  intro q hq
  rw [Path.mem_trail, Place.trail, List.mem_append, List.mem_singleton] at hq
  rcases hq with hq | rfl
  · exact h.folders q hq
  · rw [← p.place_eq_foldl]
    exact hp

/-- A path leads to its place if these are the folders. -/
structure LeadsIn (folders : Place → Prop) (p : Path) : Prop where
  checked : check p = .ok ()
  short : ∀ name ∈ namesOf p, isTooLong name = false
  passed : ∀ q ∈ (startOf p).passed (namesOf p), folders q

theorem leads_iff {folders : Place → Prop} (h : ∀ q, w.item? q = some .folder ↔ folders q)
    {p : Path} : w.Leads p ↔ LeadsIn folders p :=
  ⟨fun hl => ⟨hl.checked, hl.short, fun q hq => (h q).mp (hl.folders q hq)⟩,
    fun hl => ⟨hl.checked, hl.short, fun q hq => (h q).mpr (hl.passed q hq)⟩⟩

theorem isFolder_iff {p : Path} :
    w.isFolder p = true ↔ w.Leads p ∧ w.item? p.place = some .folder := by
  unfold isFolder
  cases hr : w.resolve p with
  | error fault =>
    refine ⟨fun h => by simp at h, fun h => ?_⟩
    have := h.1.resolve
    simp [hr] at this
  | ok q =>
    obtain ⟨rfl, hleads⟩ := resolve_eq_ok_iff.mp hr
    simp only [hleads, true_and]
    cases w.item? p.place with
    | none => simp
    | some item => cases item <;> simp [Item.isFolder]

/-- Whether a path is a folder depends on what folders there are. -/
theorem isFolder_iff_of {folders : Place → Prop}
    (h : ∀ q, w.item? q = some .folder ↔ folders q) {p : Path} :
    w.isFolder p = true ↔ LeadsIn folders p ∧ folders p.place := by
  rw [isFolder_iff, leads_iff h, h]

/-! ## Where a file can be put -/

/-- The spot of a path that does not end with a slash lies where the path leads. -/
theorem leads_of_spot {p : Path} {s : Spot} (h : w.spot p = .ok s) (hproper : s.isProper = true)
    (hlong : isTooLong s.name = false) (hclosed : s.closed = false) :
    w.Leads p ∧ s.place = p.place := by
  unfold spot at h
  cases hc : check p with
  | error fault => simp [hc] at h
  | ok u =>
    rw [hc] at h
    dsimp only at h
    -- the walk stops in front of the last name, behind an empty one that stays in the folder
    cases hw : w.walk (startOf p) (((namesOf p).filter (· != "")).dropLast ++ [""]) with
    | error fault => simp [hw] at h
    | ok folder =>
      rw [hw, Except.ok.injEq] at h
      subst h
      dsimp only at hproper hlong hclosed
      obtain ⟨hfolder, hpassed, hshort⟩ := walk_eq_ok_iff.mp hw
      -- the last name stands at the end and is not empty
      obtain ⟨init, last, hnames⟩ : ∃ init last, namesOf p = init ++ [last] := by
        have hne : namesOf p ≠ [] := by
          unfold namesOf
          simpa using Text.splitOn_ne_nil '/' p.text.toList
        exact ⟨_, _, (List.dropLast_append_getLast hne).symm⟩
      have hlast : last ≠ "" := by
        intro h0
        simp [hnames, h0] at hclosed
      have hfilter : (namesOf p).filter (· != "") = init.filter (· != "") ++ [last] := by
        rw [hnames, List.filter_append, List.filter_cons_of_pos (by simpa using hlast),
          List.filter_nil]
      rw [hfilter, List.dropLast_concat] at hfolder hpassed hshort
      rw [hfilter, List.getLast?_concat, Option.getD_some] at hlong hproper ⊢
      -- the spot leaves out empty names and the place leaves out dots as well: both end up alike
      have hidle : (init.filter (· != "")).filter (!Place.isIdle ·) =
          init.filter (!Place.isIdle ·) := by
        rw [List.filter_filter]
        congr 1
        funext name
        by_cases hn : name = "" <;> simp [hn, Place.isIdle]
      have hfold : folder = init.foldl Place.enter (startOf p) := by
        rw [hfolder, List.foldl_append, ← Place.foldl_enter_filter _ (init.filter _), hidle,
          Place.foldl_enter_filter]
        rfl
      -- the path is short and leads over folders because the walk to the folder did
      refine ⟨⟨hc, fun name hname => ?_, fun q hq => ?_⟩, ?_⟩
      · rw [hnames, List.mem_append, List.mem_singleton] at hname
        by_cases hn : name = ""
        · rw [hn]; decide
        · rcases hname with hname | rfl
          · exact hshort name (by simp [hname, hn])
          · exact hlong
      · apply hpassed
        rw [hnames, Place.passed_append] at hq
        rw [Place.passed_append]
        have htrail : q ∈ (startOf p).trail init := by
          simpa [Place.trail, Place.passed] using hq
        rw [← Place.mem_trail_filter, ← hidle, Place.mem_trail_filter] at htrail
        simpa [Place.trail, Place.passed] using htrail
      · rw [Spot.place, p.place_eq_foldl, hnames, List.foldl_append, ← hfold]
        rfl

theorem leads_of_writable {p : Path} {q : Place} (h : w.writable p = .ok q) :
    q = p.place ∧ w.Leads p := by
  unfold writable at h
  cases hs : w.spot p with
  | error fault => simp [hs] at h
  | ok s =>
    rw [hs] at h
    dsimp only at h
    split at h
    · simp at h
    next hopen =>
      split at h
      · simp at h
      next hlong =>
        simp only [Bool.or_eq_true, Bool.not_eq_true', not_or, Bool.not_eq_false,
          Bool.not_eq_true] at hopen hlong
        obtain ⟨hleads, hplace⟩ := leads_of_spot hs hopen.1 hlong hopen.2
        exact ⟨(Except.ok.inj h).symm.trans hplace, hleads⟩

theorem leads_of_movable {p : Path} {q : Place} (h : w.movable p = .ok q) :
    q = p.place ∧ w.Leads p := by
  unfold movable at h
  cases hs : w.spot p with
  | error fault => simp [hs] at h
  | ok s =>
    rw [hs] at h
    dsimp only at h
    split at h
    · simp at h
    next hproper =>
      split at h
      · simp at h
      next hlong =>
        split at h
        · simp at h
        next hclosed =>
          simp only [Bool.not_eq_true', Bool.not_eq_false, Bool.not_eq_true]
            at hproper hlong hclosed
          obtain ⟨hleads, hplace⟩ := leads_of_spot hs hproper hlong hclosed
          exact ⟨(Except.ok.inj h).symm.trans hplace, hleads⟩

end Workspace

end Signoff
