import Signoff.Proofs.Log.Shared
import Signoff.Proofs.Log.Torn

/-!
# What a shared log knows

A new log that tasks shared knows every job that they recorded, by the first of its lines
(`all_recovered`). A log that is continued knows what it knew before as well, if it ended with a
line; behind a line that was not ended, that line and the first new one are lost
(`kept_unless_torn`).
-/

namespace Signoff

open Workspace Text Time

namespace CompletionLog

/-- Something is left of the name in a line. -/
def IsNamed (name : String) : Prop := isBlankText (sanitize name.toList) = false

/-- What the first of the entries of a job says of it, as it is read from its line. -/
def firstOf (es : List (JobKey × Completion)) (k : JobKey) : Option Completion :=
  (es.find? (·.1 == k)).map fun e =>
    ⟨String.ofList (trim (sanitize e.2.unitName.toList)), e.2.completedAt⟩

theorem isSome_firstOf {es : List (JobKey × Completion)} {k : JobKey} :
    (firstOf es k).isSome = true ↔ k ∈ es.map (·.1) := by
  unfold firstOf
  rw [Option.isSome_map, List.find?_isSome, List.mem_map]
  simp only [beq_iff_eq]

theorem lookup?_read_named {es : List (JobKey × Completion)}
    (h : ∀ e ∈ es, IsNamed e.2.unitName ∧ e.2.completedAt.IsPlain) (k : JobKey) :
    (read (textOf es)).lookup? k = firstOf es k := by
  have hread : (es.filterMap fun e =>
      readLine? (writeLine e.1 e.2.unitName e.2.completedAt).toList) = es.map fun e =>
        (e.1, ⟨String.ofList (trim (sanitize e.2.unitName.toList)), e.2.completedAt⟩) := by
    rw [← List.filterMap_eq_map]
    refine List.filterMap_congr fun e he => ?_
    obtain ⟨hname, htime⟩ := h e he
    have hne : (trim (sanitize e.2.unitName.toList)).isEmpty = false := by
      rw [List.isEmpty_eq_false_iff, Ne, trim_eq_nil_iff, hname]
      exact Bool.false_ne_true
    rw [readLine?_writeLine_eq, read?_write htime, hne]
    rfl
  rw [lookup?_read_textOf, hread, List.find?_map, Option.map_map]
  rfl

end CompletionLog

open CompletionLog

namespace SharedLog

variable {w opened : Workspace} {path : Path} {log : LogFile} {calls : List Call} {s : SharedLog}

/-- What is in the file of a log when all calls have returned. -/
theorem readText_of_settled {mode : LogMode} {old : String} (hw : w.Sound)
    (hold : LogFile.found w mode path = old.toUTF8)
    (hopen : LogFile.start w mode path = (.ok log, opened))
    (hr : Runs (start log opened calls) s) (hs : s.Settled) :
    s.files.readText path = .ok (old ++ textOf s.order) ∧ (s.order.map callOf).Perm calls := by
  obtain ⟨hsound, hleads, hkeeps⟩ := LogFile.keeps_of_start hw hopen
  have hsane : Sane path.place (LogFile.found w mode path) opened calls s :=
    (sane_start hsound hkeeps).run hr
  obtain ⟨hcontent, hperm⟩ := hsane.settled hs
  refine ⟨readText_eq_ok_iff.mpr ⟨hleads.mono fun q hq => ?_, ?_⟩, hperm⟩
  -- the log is a file, so that the folders are those that were there
  · refine (hsane.elsewhere q ?_).trans hq
    rintro rfl
    rw [hkeeps.file] at hq
    cases hq
  · rw [hcontent.contentAt, hold, toUTF8_append]

theorem named_of_perm (hperm : (s.order.map callOf).Perm calls)
    (hnames : ∀ c ∈ calls, IsNamed c.unitName) {e : JobKey × Completion} (he : e ∈ s.order) :
    IsNamed e.2.unitName :=
  hnames _ (hperm.subset (List.mem_map_of_mem (f := callOf) he))

/-! ## A run of three calls -/

/-- A workspace with a log of an earlier time. -/
def earlier (text : String) : Workspace := Workspace.empty.create ["state.log"] text.toUTF8

def logPath : Path := ⟨"state.log"⟩

theorem sound_earlier (text : String) : (earlier text).Sound :=
  sound_empty.stores (write_eq_ok (p := logPath) rfl).2

theorem start_fresh_earlier (text : String) :
    LogFile.start (earlier text) .fresh logPath = (.ok ⟨logPath, 0, some 0⟩, earlier "") := rfl

theorem start_continued_earlier (text : String) :
    LogFile.start (earlier text) .continued logPath = (.ok ⟨logPath, 0, none⟩, earlier text) := rfl

/-- Two calls for one job, and one for another. -/
def threeCalls : List Call := [⟨⟨.timing, 0⟩, "a|b"⟩, ⟨⟨.timing, 0⟩, "c"⟩, ⟨⟨.clock, 3⟩, " d\n"⟩]

theorem isNamed_threeCalls : ∀ c ∈ threeCalls, IsNamed c.unitName := by
  unfold IsNamed
  decide

/-- The lines in the order of the lock, in which the second call comes first. -/
def secondFirst : List (JobKey × Completion) :=
  [(⟨.timing, 0⟩, ⟨"c", ⟨2, 0⟩⟩), (⟨.timing, 0⟩, ⟨"a|b", ⟨1, 0⟩⟩),
    (⟨.clock, 3⟩, ⟨" d\n", ⟨3, 0⟩⟩)]

theorem isPlain_secondFirst : ∀ e ∈ secondFirst, e.2.completedAt.IsPlain := by
  intro e he
  simp only [secondFirst, List.mem_cons, List.not_mem_nil, or_false] at he
  rcases he with rfl | rfl | rfl <;> exact ⟨by decide, by decide, by decide⟩

theorem settled_of_calls {c : List (Call × Instant)}
    (h : s.calls = c.map fun x => (x.1, .returned x.2)) : s.Settled := by
  intro y hy
  rw [h] at hy
  obtain ⟨x, -, rfl⟩ := List.mem_map.mp hy
  exact ⟨x.2, rfl⟩

theorem exists_secondFirst (log : LogFile) (files : Workspace) :
    ∃ s, Runs (start log files threeCalls) s ∧ s.Settled ∧ s.order = secondFirst := by
  -- the first call reads the clock and is overtaken by the second one
  have hrun : Runs (start log files threeCalls) _ :=
    .head (.stamps (i := 0) ⟨1, 0⟩ rfl) (.head (.stamps (i := 1) ⟨2, 0⟩ rfl)
      ((runs_record (i := 1) rfl rfl).trans ((runs_record (i := 0) rfl rfl).trans
        (.head (.stamps (i := 2) ⟨3, 0⟩ rfl) (runs_record (i := 2) rfl rfl)))))
  exact ⟨_, hrun, settled_of_calls (c := threeCalls.zip [⟨1, 0⟩, ⟨2, 0⟩, ⟨3, 0⟩]) rfl, rfl⟩

/-! ## New and continued logs -/

/-- Whatever the order in which tasks get the lock of a new log, each of them can go on until all
have returned, and then the log knows exactly the recorded jobs, each by the first of its calls
that had the lock. -/
theorem all_recovered (hw : w.Sound) (hopen : LogFile.start w .fresh path = (.ok log, opened))
    (hnames : ∀ c ∈ calls, IsNamed c.unitName) (hr : Runs (start log opened calls) s)
    (hclock : ∀ e ∈ s.order, e.2.completedAt.IsPlain) :
    (∃ s', Runs s s' ∧ s'.Settled) ∧
    (s.Settled → (s.order.map callOf).Perm calls ∧
      (∀ q, s.files.contentAt q = (log.recordAll opened s.order).2.contentAt q) ∧
      ∃ text, s.files.readText path = .ok text ∧
        (∀ k, (read text).lookup? k = firstOf s.order k) ∧
        (∀ k, ((read text).lookup? k).isSome = true ↔ k ∈ calls.map (·.key)) ∧
        (read text).size = (calls.map (·.key)).dedup.length) := by
  obtain ⟨hsound, -, hkeeps⟩ := LogFile.keeps_of_start hw hopen
  refine ⟨((sane_start hsound hkeeps).run hr).exists_settled, fun hs => ?_⟩
  have hempty : LogFile.found w .fresh path = "".toUTF8 := rfl
  obtain ⟨htext, hperm⟩ := readText_of_settled hw hempty hopen hr hs
  rw [String.empty_append] at htext
  have hfirst : ∀ k, (read (textOf s.order)).lookup? k = firstOf s.order k :=
    lookup?_read_named fun e he => ⟨named_of_perm hperm hnames he, hclock e he⟩
  have hkeys : ∀ k, ((read (textOf s.order)).lookup? k).isSome = true ↔ k ∈ calls.map (·.key) := by
    intro k
    have hmap := (hperm.map (·.key)).mem_iff (a := k)
    rw [List.map_map] at hmap
    rw [hfirst, isSome_firstOf]
    exact hmap
  exact ⟨hperm, contentAt_recordAll hsound hkeeps hr hs, _, htext, hfirst, hkeys,
    Completions.size_ofLines hkeys⟩

theorem all_recovered_second_first :
    ∃ s text, LogFile.start (earlier "stale\n") .fresh logPath =
        (.ok ⟨logPath, 0, some 0⟩, earlier "") ∧
      Runs (start ⟨logPath, 0, some 0⟩ (earlier "") threeCalls) s ∧ s.Settled ∧
      s.order = secondFirst ∧ s.files.readText logPath = .ok text ∧ (read text).size = 2 ∧
      (read text).lookup? ⟨.timing, 0⟩ = some ⟨"c", ⟨2, 0⟩⟩ ∧
      (read text).lookup? ⟨.clock, 3⟩ = some ⟨"d_", ⟨3, 0⟩⟩ := by
  obtain ⟨s, hrun, hs, horder⟩ := exists_secondFirst ⟨logPath, 0, some 0⟩ (earlier "")
  obtain ⟨-, hall⟩ := all_recovered (sound_earlier "stale\n") (start_fresh_earlier _)
    isNamed_threeCalls hrun (horder ▸ isPlain_secondFirst)
  obtain ⟨-, -, text, htext, hfirst, -, hsize⟩ := hall hs
  rw [horder] at hfirst
  exact ⟨s, text, rfl, hrun, hs, horder, htext, hsize, hfirst _, hfirst _⟩

/-- A log that is continued keeps what it knew and adds the first record of every other job, unless
it broke off within a line: then this line and the first new one are lost, and only they. -/
theorem kept_unless_torn {old : String} (hw : w.Sound)
    (hold : LogFile.found w .continued path = old.toUTF8)
    (hopen : LogFile.start w .continued path = (.ok log, opened))
    (hnames : ∀ c ∈ calls, IsNamed c.unitName) (hr : Runs (start log opened calls) s)
    (hs : s.Settled) (hclock : ∀ e ∈ s.order, e.2.completedAt.IsPlain) :
    (s.order.map callOf).Perm calls ∧ ∃ text, s.files.readText path = .ok text ∧
      (IsClosed old ∨ calls = [] → ∀ k, (read text).lookup? k =
        ((read old).lookup? k).or (firstOf s.order k)) ∧
      (¬ IsClosed old → calls ≠ [] → ∀ k, (read text).lookup? k =
        ((read (ended old)).lookup? k).or (firstOf s.order.tail k)) := by
  obtain ⟨htext, hperm⟩ := readText_of_settled hw hold hopen hr hs
  have hgood : ∀ e ∈ s.order, IsNamed e.2.unitName ∧ e.2.completedAt.IsPlain := fun e he =>
    ⟨named_of_perm hperm hnames he, hclock e he⟩
  refine ⟨hperm, _, htext, fun hcase k => ?_, fun htorn hne k => ?_⟩
  · rcases hcase with hclosed | rfl
    · rw [lookup?_read_append hclosed, lookup?_read_named hgood]
    · rw [List.map_eq_nil_iff.mp hperm.eq_nil, textOf_nil, String.append_empty]
      exact (Option.or_none).symm
  · cases horder : s.order with
    | nil =>
      rw [horder] at hperm
      exact absurd hperm.symm.eq_nil hne
    | cons e es =>
      rw [lookup?_read_torn htorn, List.tail_cons, lookup?_read_named]
      exact fun e' he' => hgood e' (horder ▸ List.mem_cons_of_mem _ he')

/-- A log of two lines, the second of which was not ended. -/
def tornLog : String := "CLOCK|1|z|1970-01-01T00:00:00+00:00\nTIMING|7|y|1970-01-01T00:00:00+00:00"

theorem kept_unless_torn_two_lines :
    ∃ s text, LogFile.start (earlier tornLog) .continued logPath =
        (.ok ⟨logPath, 0, none⟩, earlier tornLog) ∧
      Runs (start ⟨logPath, 0, none⟩ (earlier tornLog) threeCalls) s ∧ s.Settled ∧
      s.order = secondFirst ∧ s.files.readText logPath = .ok text ∧
      (read text).lookup? ⟨.clock, 1⟩ = some ⟨"z", ⟨0, 0⟩⟩ ∧
      (read text).lookup? ⟨.timing, 7⟩ = none ∧
      (read text).lookup? ⟨.timing, 0⟩ = some ⟨"a_b", ⟨1, 0⟩⟩ := by
  obtain ⟨s, hrun, hs, horder⟩ := exists_secondFirst ⟨logPath, 0, none⟩ (earlier tornLog)
  obtain ⟨-, text, htext, -, htorn⟩ := kept_unless_torn (sound_earlier tornLog) rfl
    (start_continued_earlier _) isNamed_threeCalls hrun hs (horder ▸ isPlain_secondFirst)
  have hopen : ¬ IsClosed tornLog := by
    intro hclosed
    have hlast : (splitOn '\n' tornLog.toList).getLast?.map (·.all isBlank) = some false := by
      decide +kernel
    obtain ⟨last, hmem, hall⟩ := Option.map_eq_some_iff.mp hlast
    rw [List.all_eq_true.mpr (hclosed last hmem)] at hall
    cases hall
  have hlookup := htorn hopen (by decide)
  rw [horder] at hlookup
  refine ⟨s, text, rfl, hrun, hs, horder, htext, ?_, ?_, ?_⟩
  all_goals
    rw [hlookup]
    decide +kernel

/-- The line of a job that was not ended. -/
def cutLine : String := "TIMING|0|a|2024-05-01T10:00:00+00:00"

/-- It is lost together with the line of the next job. -/
theorem cutLine_lost :
    ∃ s text, LogFile.start (earlier cutLine) .continued logPath =
        (.ok ⟨logPath, 0, none⟩, earlier cutLine) ∧
      Runs (start ⟨logPath, 0, none⟩ (earlier cutLine) [⟨⟨.timing, 1⟩, "b"⟩]) s ∧ s.Settled ∧
      s.files.readText logPath = .ok text ∧
      (read cutLine).lookup? ⟨.timing, 0⟩ = some ⟨"a", ⟨1714557600, 0⟩⟩ ∧
      (read text).lookup? ⟨.timing, 0⟩ = none ∧ (read text).lookup? ⟨.timing, 1⟩ = none := by
  obtain ⟨s, hrun, hs, horder⟩ : ∃ s,
      Runs (start ⟨logPath, 0, none⟩ (earlier cutLine) [⟨⟨.timing, 1⟩, "b"⟩]) s ∧ s.Settled ∧
        s.order = [(⟨.timing, 1⟩, ⟨"b", ⟨0, 0⟩⟩)] :=
    ⟨_, .head (.stamps (i := 0) ⟨0, 0⟩ rfl) (runs_record (i := 0) rfl rfl),
      settled_of_calls (c := [(⟨⟨.timing, 1⟩, "b"⟩, ⟨0, 0⟩)]) rfl, rfl⟩
  obtain ⟨htext, -⟩ := readText_of_settled (sound_earlier _) rfl (start_continued_earlier _) hrun hs
  rw [horder] at htext
  refine ⟨s, _, rfl, hrun, hs, htext, ?_, ?_, ?_⟩
  all_goals decide +kernel

end SharedLog

end Signoff
