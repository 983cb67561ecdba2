import Signoff.Proofs.Layout
import Signoff.Proofs.Run.Deeds

/-!
# Opening the log of a run

A run writes to its log at the end of what it finds there: nothing in a new log, the text of an
earlier run in one that it goes on with (`opened_of_openLog`).
-/

namespace Signoff

open Workspace

/-! ## The text of the log -/

namespace Deed

/-- The lines that were appended to the log. -/
def logText (ds : List Deed) : String :=
  String.ofList ((completions ds).flatMap fun e =>
    (CompletionLog.writeLine e.1.key e.1.unit.name e.2.2 ++ "\n").toList)

theorem logText_append (ds es : List Deed) : logText (ds ++ es) = logText ds ++ logText es := by
  unfold logText
  rw [completions_append, List.flatMap_append, String.ofList_append]

theorem logText_eq_empty {es : List Deed} (h : completions es = []) : logText es = "" := by
  unfold logText
  rw [h]
  rfl

theorem logText_logged (j : Job) (r : JobResult) (t : Time.Instant) :
    logText [.logged j r t] = CompletionLog.writeLine j.key j.unit.name t ++ "\n" := by
  unfold logText completions
  simp [logged?]

end Deed

namespace LogFile

variable {w w' : Workspace} {log : LogFile} {path : Path}

theorem fileAt_eq_ok {number : Nat} (h : fileAt w path = .ok (number, w')) :
    w.Leads path ∧
      (w.item? path.place = none ∧ number = w.nextNumber ∧
          w' = w.create path.place ByteArray.empty ∨
        ∃ content, w.item? path.place = some (.file number content) ∧ w' = w) := by
  unfold fileAt at h
  cases hw : w.writable path with
  | error fault => simp [hw] at h
  | ok p =>
    obtain ⟨rfl, hleads⟩ := leads_of_writable hw
    rw [hw] at h
    dsimp only at h
    refine ⟨hleads, ?_⟩
    cases hi : w.item? path.place with
    | none =>
      rw [hi, Except.ok.injEq, Prod.mk.injEq] at h
      exact Or.inl ⟨rfl, h.1.symm, h.2.symm⟩
    | some item =>
      cases item with
      | folder => simp [hi] at h
      | file n content =>
        rw [hi, Except.ok.injEq, Prod.mk.injEq] at h
        exact Or.inr ⟨content, by rw [h.1], h.2.symm⟩

/-- A log that is opened holds what was in its file, or nothing if it starts anew. -/
def found (w : Workspace) (mode : LogMode) (path : Path) : ByteArray :=
  match mode with
  | .fresh => ByteArray.empty
  | .continued => (w.contentAt path.place).getD ByteArray.empty

theorem openAt_eq_ok {mode : LogMode} (h : openAt w mode path = .ok (log, w')) :
    log.path = path ∧ w.Leads path ∧ log.Keeps w' path.place (found w mode path) ∧
      (Stores path.place (found w mode path) w w' ∨ w' = w) := by
  unfold openAt at h
  cases mode with
  | continued =>
    dsimp only at h
    split at h
    · simp at h
    next number left hfile =>
      rw [Except.ok.injEq, Prod.mk.injEq] at h
      obtain ⟨rfl, rfl⟩ := h
      obtain ⟨hleads, hcase⟩ := fileAt_eq_ok hfile
      refine ⟨rfl, hleads, ?_⟩
      rcases hcase with ⟨hnone, rfl, rfl⟩ | ⟨content, hfound, rfl⟩
      · have hstart := isStart_of_item? (w := w) (p := path.place) (by simp [hnone])
        -- a file that was not there is made, and is empty
        have hbase : found w .continued path = ByteArray.empty := by
          simp [found, contentAt, hnone]
        have hitem : (w.create path.place ByteArray.empty).item? path.place =
            some (.file w.nextNumber ByteArray.empty) := by
          rw [item?_create hstart, if_pos rfl]
        rw [hbase]
        refine ⟨⟨hitem, Or.inl rfl⟩, Or.inl ⟨fun q hq => ?_, by simp [hnone],
          ⟨_, hitem, Or.inl ⟨Nat.le_refl _, Nat.lt_succ_self _⟩⟩, Nat.le_succ _⟩⟩
        rw [item?_create hstart, if_neg (Ne.symm hq)]
      -- a file that was there is left as it is
      · have hbase : found left .continued path = content := by
          simp [found, contentAt, hfound]
        rw [hbase]
        exact ⟨⟨hfound, Or.inl rfl⟩, Or.inr rfl⟩
  | fresh =>
    dsimp only at h
    split at h
    · simp at h
    next cleared hwrite =>
      obtain ⟨hleads, hstores⟩ := write_eq_ok hwrite
      split at h
      · simp at h
      next number left hfile =>
        rw [Except.ok.injEq, Prod.mk.injEq] at h
        obtain ⟨rfl, rfl⟩ := h
        obtain ⟨n, hn, -⟩ := hstores.stored
        obtain ⟨-, ⟨hnone, -⟩ | ⟨content, hfound, rfl⟩⟩ := fileAt_eq_ok hfile
        · simp [hn] at hnone
        -- the file was just written, so the second opening finds it empty
        · rw [hn, Option.some.injEq, Item.file.injEq] at hfound
          refine ⟨rfl, hleads, ⟨?_, Or.inr rfl⟩, Or.inl hstores⟩
          rw [hn, hfound.1]
          rfl

/-- The folders around the log are made before it is opened. -/
theorem start_eq_ok {mode : LogMode} (h : start w mode path = (.ok log, w')) :
    ∃ room, Widens (path.parent?.getD ⟨""⟩).trail w room ∧
      (∀ q ∈ (path.parent?.getD ⟨""⟩).trail, room.item? q = some .folder) ∧
      openAt room mode path = .ok (log, w') := by
  unfold start at h
  dsimp only at h
  split at h
  · simp at h
  next room hroom =>
    split at h
    · simp at h
    next log' opened hopen =>
      rw [Prod.mk.injEq, Except.ok.injEq] at h
      rw [h.1, h.2] at hopen
      exact ⟨room, makeFolders_widens hroom, makeFolders_trail hroom, hopen⟩

/-- A log that is started goes on with what it found at its path. -/
theorem keeps_of_start {mode : LogMode} (hw : w.Sound) (h : start w mode path = (.ok log, w')) :
    w'.Sound ∧ w'.Leads path ∧ log.Keeps w' path.place (found w mode path) := by
  obtain ⟨room, hwide, -, hopen⟩ := start_eq_ok h
  obtain ⟨-, hleads, hkeeps, hcase⟩ := openAt_eq_ok hopen
  have hbase : found room mode path = found w mode path := by
    unfold found
    rw [hwide.contentAt_eq]
  rw [hbase] at hkeeps hcase
  rcases hcase with hstores | rfl
  · exact ⟨(hw.widens hwide).stores hstores,
      hleads.mono fun q hq => hstores.folder_iff.mpr hq, hkeeps⟩
  · exact ⟨hw.widens hwide, hleads, hkeeps⟩

end LogFile

namespace Bench

variable {σ : Type}

/-- Where the log of a run lies. -/
def logAt (b : Bench σ) (plan : Plan) : Path := plan.resume.getD b.layout.logPath

def logMode (plan : Plan) : LogMode := if plan.resume.isSome then .continued else .fresh

/-- The folders that are made before the log is opened. -/
def openingFolders (b : Bench σ) (plan : Plan) : List Place :=
  b.layout.root.trail ++ ((b.logAt plan).parent?.getD ⟨""⟩).trail

/-- What the log holds before the first line of the run. -/
def logBase (b : Bench σ) (w : Workspace) (plan : Plan) : ByteArray :=
  LogFile.found w (logMode plan) (b.logAt plan)

/-- A run with its log open: the root is there, and nothing but the log was touched. -/
structure Opened (b : Bench σ) (plan : Plan) (w : Workspace) (log : LogFile) (w' : Workspace) :
    Prop where
  sound : w'.Sound
  path : log.path = b.logAt plan
  leads : w'.Leads (b.logAt plan)
  keeps : log.Keeps w' (b.logAt plan).place (b.logBase w plan)
  elsewhere : ∀ q, q ≠ (b.logAt plan).place → w'.contentAt q = w.contentAt q
  folders : ∀ q, w'.item? q = some .folder ↔
    w.item? q = some .folder ∨ q ∈ b.openingFolders plan

variable {b : Bench σ} {plan : Plan} {w w' : Workspace} {log : LogFile}

/-- The completions that a run goes on with are those of the text at the place of the log. -/
theorem completions_eq_ok {done : CompletionLog.Completions} {path : Path}
    (hresume : plan.resume = some path) (h : completions w plan = .ok done) :
    done = .empty ∨
      ∃ text, w.Leads path ∧ w.contentAt path.place = some text.toUTF8 ∧
        done = CompletionLog.read text := by
  unfold completions CompletionLog.load at h
  rw [hresume] at h
  dsimp only at h
  cases hread : w.readText path with
  | ok text =>
    rw [hread] at h
    obtain ⟨hleads, hcontent⟩ := readText_eq_ok_iff.mp hread
    exact Or.inr ⟨text, hleads, hcontent, (Except.ok.inj h).symm⟩
  | error fault =>
    rw [hread] at h
    cases fault with
    | notFound => exact Or.inl (Except.ok.inj h).symm
    | _ => cases h

theorem openLog_start (h : b.openLog w plan = (.ok log, w')) :
    ∃ left, w.makeFolders b.layout.root = (.ok (), left) ∧
      LogFile.start left (logMode plan) (b.logAt plan) = (.ok log, w') := by
  unfold openLog at h
  split at h
  · simp at h
  next left hleft =>
    refine ⟨left, hleft, ?_⟩
    unfold logMode logAt
    cases hres : plan.resume with
    | none =>
      rw [hres] at h
      dsimp only at h
      split at h
      · simp at h
      next log' more hstart =>
        rw [Prod.mk.injEq, Except.ok.injEq] at h
        rw [← h.1, ← h.2]
        exact hstart
    | some path =>
      rw [hres] at h
      dsimp only at h
      split at h
      · simp at h
      next log' more hstart =>
        rw [Prod.mk.injEq, Except.ok.injEq] at h
        rw [← h.1, ← h.2]
        exact hstart

/-- Both chains of folders are made before the log is opened. -/
theorem openLog_eq_ok (h : b.openLog w plan = (.ok log, w')) :
    ∃ room, Widens (b.openingFolders plan) w room ∧
      (∀ q ∈ b.openingFolders plan, room.item? q = some .folder) ∧
      LogFile.openAt room (logMode plan) (b.logAt plan) = .ok (log, w') := by
  obtain ⟨left, hroot, hstart⟩ := openLog_start h
  obtain ⟨room, hwide, hthere, hopen⟩ := LogFile.start_eq_ok hstart
  refine ⟨room, ?_, fun q hq => ?_, hopen⟩
  · exact ((makeFolders_widens hroot).mono fun q hq => List.mem_append_left _ hq).trans
      (hwide.mono fun q hq => List.mem_append_right _ hq)
  · rcases List.mem_append.mp hq with hq | hq
    · exact hwide.keeps q _ (makeFolders_trail hroot q hq)
    · exact hthere q hq

/-- Nothing changes but at the place of the log and where folders are made. -/
theorem item?_of_openLog (h : b.openLog w plan = (.ok log, w')) {q : Place}
    (hlog : q ≠ (b.logAt plan).place) (hfolder : q ∉ b.openingFolders plan) :
    w'.item? q = w.item? q := by
  obtain ⟨room, hwide, -, hopen⟩ := openLog_eq_ok h
  have hroom : room.item? q = w.item? q := hwide.item?_eq_of_not_mem hfolder
  obtain ⟨-, -, -, hstores | rfl⟩ := LogFile.openAt_eq_ok hopen
  · exact (hstores.elsewhere q hlog).trans hroom
  · exact hroom

theorem opened_of_openLog (hw : w.Sound) (h : b.openLog w plan = (.ok log, w')) :
    b.Opened plan w log w' := by
  obtain ⟨room, hwide, hthere, hopen⟩ := openLog_eq_ok h
  have hbase : LogFile.found room (logMode plan) (b.logAt plan) = b.logBase w plan := by
    unfold logBase LogFile.found
    rw [hwide.contentAt_eq]
  obtain ⟨hpath, hleads, hkeeps, hcase⟩ := LogFile.openAt_eq_ok hopen
  rw [hbase] at hkeeps hcase
  rcases hcase with hstores | rfl
  · exact ⟨(hw.widens hwide).stores hstores, hpath,
      hleads.mono fun q hq => hstores.folder_iff.mpr hq, hkeeps,
      fun q hq => (hstores.contentAt_eq hq).trans (hwide.contentAt_eq q),
      fun q => hstores.folder_iff.trans (hwide.folder_iff hthere)⟩
  · exact ⟨hw.widens hwide, hpath, hleads, hkeeps, fun q _ => hwide.contentAt_eq q,
      fun q => hwide.folder_iff hthere⟩

end Bench

end Signoff
