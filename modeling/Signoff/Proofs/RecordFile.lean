import Signoff.Proofs.Record
import Signoff.Proofs.Workspace.Again

/-!
# Record files

A file that was saved holds its content, whatever else is in the workspace (`save_contentAt`), so a
record that was saved is loaded as the result that it was made of.

Saving a record puts the whole line at its place or leaves every file as it is, whichever step
fails (`saved_whole_or_not`). It fails only if a step is refused, the folders around the record
cannot be made, or no file can be moved to its path (`save_eq_ok_iff`).
-/

namespace Signoff

namespace Workspace

variable {w w' : Workspace} {refusals : Refusals} {content : ByteArray}

/-- A draft that was filled has the content, whatever other files share its number. -/
theorem item?_draft_filled {p : Place} (hp : p.isStart = false) (content : ByteArray) :
    ((w.create p ByteArray.empty).writeInto w.nextNumber none content).item? p =
      some (.file w.nextNumber content) := by
  have hfull : overwrite ByteArray.empty 0 content = content := by
    have hend := overwrite_end ByteArray.empty content
    rw [ByteArray.size_empty, ByteArray.empty_append] at hend
    exact hend
  rw [item?_writeInto, item?_create hp, if_pos rfl]
  simp [writtenItem, hfull]

theorem saveIn_contentAt {folder : Place} {path : Path}
    (h : w.saveIn refusals folder path content = (.ok (), w')) :
    w'.Leads path ∧ w'.contentAt path.place = some content := by
  obtain ⟨hfree, hstart⟩ := w.item?_draftPlace folder
  unfold saveIn fill at h
  split at h
  · simp at h
  dsimp only at h
  split at h
  · simp at h
  next full hfill =>
    split at hfill
    · simp at hfill
    rw [Prod.mk.injEq] at hfill
    obtain ⟨-, rfl⟩ := hfill
    unfold settle at h
    split at h
    · simp at h
    split at h
    · simp at h
    next done hmove =>
      rw [Prod.mk.injEq] at h
      obtain ⟨-, rfl⟩ := h
      have hdraft := item?_draft_filled (w := w) hstart content
      obtain ⟨hleads, hopen, -, hitem⟩ := move_eq_ok hstart hdraft hmove
      refine ⟨hleads.mono fun q hq => ?_, contentAt_eq_some.mpr ⟨w.nextNumber, ?_⟩⟩
      -- the path goes over folders, and neither the file nor the draft was one
      · rw [hitem, if_neg (by rintro rfl; exact hopen hq), if_neg]
        · exact hq
        · rintro rfl
          rw [hdraft] at hq
          simp at hq
      · rw [hitem, if_pos rfl]

theorem save_contentAt {folder path : Path}
    (h : w.save refusals folder path content = (.ok (), w')) :
    w'.Leads path ∧ w'.contentAt path.place = some content := by
  unfold save at h
  split at h
  · simp at h
  split at h
  · simp at h
  split at h
  · simp at h
  split at h
  · simp at h
  next more hsaved =>
    obtain ⟨-, rfl⟩ := Prod.mk.inj h
    exact saveIn_contentAt hsaved

end Workspace

namespace Record

variable {w w' : Workspace} {refusals : Workspace.Refusals} {path : Path} {r : JobResult}

theorem readText_of_save (h : save w refusals path r = (.ok (), w')) :
    w'.readText path = .ok (lineOf r) := by
  unfold save at h
  split at h
  · simp at h
  · exact Workspace.readText_eq_ok_iff.mpr (Workspace.save_contentAt h)

theorem load_of_save (hr : Keeps r) (h : save w refusals path r = (.ok (), w')) :
    load w' path = .ok r := by
  unfold load
  rw [readText_of_save h]
  dsimp only
  rw [decodeFile_lineOf hr]

/-- A result is kept without loss: its record is one line of five fields that hold what was put
into them, and both the line and the file are read back as the result. -/
theorem round_trip (r : JobResult) (hr : Keeps r) :
    (∀ c ∈ (encode r).toList, c ≠ '\n' ∧ c ≠ '\r') ∧
    split (encode r).toList = textsOf r ∧
    (split (encode r).toList).length = fieldCount ∧
    decode (encode r) = .ok r ∧
    ∀ (w : Workspace) (refusals : Workspace.Refusals) (path : Path) (w' : Workspace),
      save w refusals path r = (.ok (), w') → load w' path = .ok r := by
  refine ⟨fun c hc => not_lineEnd_of_mem_encode hc, split_encode r, ?_, decode_encode hr,
    fun w refusals path w' hsave => load_of_save hr hsave⟩
  rw [split_encode]
  rfl

/-- Runs of backslashes, bars and line ends in the details, and figures with a sign. -/
def knotted : JobResult :=
  { status := .failed
    details := "\\\\|\\|\r\n\\n\\\r|\n\\"
    figures := .timing ⟨none, none, ⟨true, 4602678819172646912⟩, none, some 3⟩
    raw := some ⟨"a|b\\/\n.log"⟩
    attempts := 4294967295 }

theorem round_trip_knotted :
    Keeps knotted ∧ decode (encode knotted) = .ok knotted ∧
      ∃ w', save .empty Workspace.noRefusals ⟨"o/knotted.result"⟩ knotted = (.ok (), w') ∧
        load w' ⟨"o/knotted.result"⟩ = .ok knotted := by
  have hkeeps : Keeps knotted := by
    refine ⟨⟨?_, ?_, by decide, ?_⟩, ?_⟩
    · exact fun s hs => nomatch hs
    · exact fun s hs => nomatch hs
    · exact fun total htotal => nomatch htotal
    · rintro path hpath
      rw [← Option.some.inj hpath]
      decide
  obtain ⟨-, -, -, hdecode, hload⟩ := round_trip knotted hkeeps
  have hsaved : (save .empty Workspace.noRefusals ⟨"o/knotted.result"⟩ knotted).1 = .ok () := by
    decide +kernel
  exact ⟨hkeeps, hdecode, _, Prod.ext hsaved rfl, hload _ _ _ _ (Prod.ext hsaved rfl)⟩

end Record

namespace Workspace

variable {w w' left : Workspace} {refusals : Refusals} {folder path : Path} {content : ByteArray}

/-! ## When a file is saved -/

/-- A file can be moved to the path. -/
def Takes (w : Workspace) (path : Path) : Prop :=
  ∃ place, w.movable path = .ok place ∧ w.item? place ≠ some .folder

/-- Whether a file can be moved to a path depends on the folders. -/
theorem takes_congr (h : ∀ q, w'.item? q = some .folder ↔ w.item? q = some .folder) :
    w'.Takes path ↔ w.Takes path := by
  have hmove : ∀ place, w'.movable path = .ok place ↔ w.movable path = .ok place := fun place =>
    ⟨fun hp => movable_mono hp fun q => (h q).mp, fun hp => movable_mono hp fun q => (h q).mpr⟩
  unfold Takes
  simp only [hmove, ne_eq, h]

theorem exists_move_iff {p : Place} {item : Item} (hp : w.item? p = some item) :
    (∃ w', w.move p path = .ok w') ↔ w.Takes path := by
  unfold move Takes
  cases hm : w.movable path with
  | error fault => simp
  | ok place =>
    dsimp only
    rw [hp]
    cases hthere : w.item? place with
    | none => simp [hthere]
    | some other => cases other <;> simp [hthere]

theorem saveIn_eq_ok_iff (hw : w.Sound) (p : Place) :
    (∃ w', w.saveIn refusals p path content = (.ok (), w')) ↔
      (refusals.newDraft = none ∧ refusals.filling = none ∧ refusals.replacement = none) ∧
        w.Takes path := by
  obtain ⟨hfree, hstart⟩ := w.item?_draftPlace p
  have hfull := item?_filled hw hstart content
  -- a draft is a file where nothing was, so the folders are those from before
  have hfolders : ∀ q, ((w.create (w.draftPlace p) ByteArray.empty).writeInto w.nextNumber none
      content).item? q = some .folder ↔ w.item? q = some .folder := by
    intro q
    rw [hfull]
    split
    next hq => rw [← hq, hfree]; exact ⟨nofun, nofun⟩
    next => rfl
  rw [← takes_congr hfolders, ← exists_move_iff (by rw [hfull, if_pos rfl])]
  unfold saveIn fill settle
  cases refusals.newDraft with
  | some fault => simp
  | none =>
    cases refusals.filling with
    | some stop => simp
    | none =>
      cases refusals.replacement with
      | some fault => simp
      | none =>
        dsimp only
        cases hm : move _ (w.draftPlace p) path with
        | error fault => simp
        | ok done => simp

theorem exists_folderPlace (hends : withoutSlashes folder = folder)
    (h : w.makeFolders folder = (.ok (), left)) : ∃ place, left.folderPlace folder = .ok place := by
  unfold folderPlace
  split
  · exact ⟨[], rfl⟩
  next hne =>
    rw [String.isEmpty_iff] at hne
    exact ⟨_, (leads_of_makeFolders hne hends h (makeFolders_trail h)).resolve⟩

/-- The folders around a file at the path are there or can be made, and then a file can be moved
there. -/
def HasRoom (w : Workspace) (folder path : Path) : Prop :=
  ∃ left, w.makeFolders folder = (.ok (), left) ∧ left.Takes path

theorem save_eq_ok_iff (hw : w.Sound) (hends : withoutSlashes folder = folder) :
    (∃ w', w.save refusals folder path content = (.ok (), w')) ↔
      refusals = noRefusals ∧ w.HasRoom folder path := by
  obtain ⟨folders, unwritten, newDraft, filling, replacement⟩ := refusals
  unfold save makeRoom HasRoom noRefusals
  cases folders with
  | some fault => simp
  | none =>
    dsimp only
    cases hmade : w.makeFolders folder with
    | mk answer left =>
      cases answer with
      | error fault => simp
      | ok u =>
        obtain ⟨place, hplace⟩ := exists_folderPlace hends hmade
        have hsaved := @saveIn_eq_ok_iff left ⟨none, unwritten, newDraft, filling, replacement⟩
          path content (hw.widens (makeFolders_widens hmade)) place
        cases unwritten with
        | some error => simp
        | none =>
          dsimp only
          rw [hplace]
          dsimp only
          -- what is left of the steps is the draft, in the folders that were made
          cases hsave : left.saveIn ⟨none, none, newDraft, filling, replacement⟩ place path
              content with
          | mk result more =>
            rw [hsave] at hsaved
            cases result with
            | error fault => simpa using hsaved
            | ok u => simpa using hsaved

end Workspace

open Workspace

namespace Record

variable {w w' : Workspace} {refusals : Refusals} {path : Path} {r : JobResult}

/-! ## What is left of a save -/

theorem save_eq_ok_iff (hw : w.Sound) :
    (save w refusals path r).1 = .ok () ↔
      refusals = noRefusals ∧ ∃ folder, path.parent? = some folder ∧ w.HasRoom folder path := by
  unfold save
  cases hparent : path.parent? with
  | none => simp
  | some folder =>
    have hends := withoutSlashes_parent path
    rw [hparent, Option.getD_some] at hends
    have hsave := @Workspace.save_eq_ok_iff w refusals folder path (lineOf r).toUTF8 hw hends
    dsimp only
    rw [show (w.save refusals folder path (lineOf r).toUTF8).1 = .ok () ↔
        ∃ w', w.save refusals folder path (lineOf r).toUTF8 = (.ok (), w') from
      ⟨fun h => ⟨_, Prod.ext h rfl⟩, fun ⟨w', h⟩ => by rw [h]⟩, hsave]
    simp

/-- Folders may have come, and then the line was put at its place or nothing has changed. -/
theorem exists_stores_or_alike (hw : w.Sound) :
    ∃ places left, Widens places w left ∧
      ((save w refusals path r).1 = .ok () ∧
          Stores path.place (lineOf r).toUTF8 left (save w refusals path r).2 ∨
        (save w refusals path r).1 ≠ .ok () ∧ Alike left (save w refusals path r).2) := by
  unfold save
  cases path.parent? with
  | none => exact ⟨[], w, .refl w, Or.inr ⟨nofun, .refl w⟩⟩
  | some folder =>
    dsimp only
    cases hsave : w.save refusals folder path (lineOf r).toUTF8 with
    | mk answer w' =>
      cases answer with
      | ok u =>
        obtain ⟨left, hwide, -, hstores⟩ := exists_stores_of_save hw hsave
        exact ⟨_, left, hwide, Or.inl ⟨rfl, hstores⟩⟩
      | error error =>
        obtain ⟨left, hwide, halike⟩ := exists_alike_of_save hw hsave
        exact ⟨_, left, hwide, Or.inr ⟨nofun, halike⟩⟩

/-- A record is saved whole or not at all, whatever is refused and however much of the draft was
written: either the path holds the whole line, or it holds what it held before.  No other file is
changed, and none is left behind.  Folders may have come on the way, so a path that passes through a
missing folder and out of it again may be read only afterwards; the path of a record does that only
if the root does (`standsIn_recordPath`). -/
theorem saved_whole_or_not (hw : w.Sound) (refusals : Refusals) (path : Path) (r : JobResult) :
    let saved := save w refusals path r
    (saved.1 = .ok () ↔
      refusals = noRefusals ∧ ∃ folder, path.parent? = some folder ∧ w.HasRoom folder path) ∧
    (saved.1 = .ok () → saved.2.readText path = .ok (encode r ++ "\n")) ∧
    (saved.1 ≠ .ok () →
      saved.2.contentAt path.place = w.contentAt path.place ∧
      (∀ content, w.read path = .ok content → saved.2.read path = .ok content) ∧
      (w.IsTree → w.StandsIn path →
        ∀ content, saved.2.read path = .ok content → w.read path = .ok content)) ∧
    (∀ q, q ≠ path.place → ∀ number content,
      saved.2.item? q = some (.file number content) ↔ w.item? q = some (.file number content)) ∧
    (∀ q, w.item? q = some .folder → saved.2.item? q = some .folder) := by
  intro saved
  obtain ⟨places, left, hwide, hleft⟩ :=
    @exists_stores_or_alike w refusals path r hw
  refine ⟨save_eq_ok_iff hw, fun hok => readText_of_save (Prod.ext hok rfl), fun hfault => ?_,
    fun q hq number content => ?_, fun q hq => ?_⟩
  · obtain ⟨hok, -⟩ | ⟨-, halike⟩ := hleft
    · exact absurd hok hfault
    -- new folders hold no content, and the draft is gone from where nothing was
    have hcontent : ∀ q, saved.2.contentAt q = w.contentAt q := fun q =>
      (contentAt_congr (halike.items q)).trans (hwide.contentAt_eq q)
    have hfolders : ∀ q, w.item? q = some .folder → saved.2.item? q = some .folder := fun q hq =>
      (halike.items q).trans (hwide.keeps q _ hq)
    refine ⟨hcontent _, fun content hread => ?_, fun htree hstands content hread => ?_⟩
    · obtain ⟨hleads, hthere⟩ := read_eq_ok_iff.mp hread
      exact read_eq_ok_iff.mpr ⟨hleads.mono hfolders, (hcontent _).trans hthere⟩
    · obtain ⟨hleads, hthere⟩ := read_eq_ok_iff.mp hread
      have hbefore : w.contentAt path.place = some content := (hcontent _).symm.trans hthere
      refine read_eq_ok_iff.mpr ⟨hleads.of_file htree hstands ?_ ?_, hbefore⟩
      · rw [hbefore]
        exact Option.some_ne_none _
      · rw [hthere]
        exact Option.some_ne_none _
  -- the line is put at its place only, so any other file is one from before
  · have hkept : saved.2.item? q = left.item? q := by
      obtain ⟨-, hstores⟩ | ⟨-, halike⟩ := hleft
      · exact hstores.elsewhere q hq
      · exact halike.items q
    rw [hkept]
    exact hwide.file_iff
  · have hthere := hwide.keeps q _ hq
    obtain ⟨-, hstores⟩ | ⟨-, halike⟩ := hleft
    · exact hstores.folder_iff.mpr hthere
    · exact (halike.items q).trans hthere

/-- A folder with two records. -/
def shelf : Workspace where
  items := [(["o"], .folder), (["o", "a.result"], .file 0 "PASSED|1|||\n".toUTF8),
    (["o", "b.result"], .file 1 "WARN|1|||\n".toUTF8)]
  nextNumber := 2

theorem sound_shelf : shelf.Sound := by
  apply sound_of_items
  · intro e he n c hc
    simp only [shelf, List.mem_cons, List.not_mem_nil, or_false] at he
    rcases he with rfl | rfl | rfl <;> cases hc <;> decide
  · intro e he f hf n c d hc hd
    simp only [shelf, List.mem_cons, List.not_mem_nil, or_false] at he hf
    rcases he with rfl | rfl | rfl <;> cases hc <;>
      rcases hf with rfl | rfl | rfl <;> cases hd <;> rfl

theorem isTree_shelf : shelf.IsTree := by
  apply isTree_of_items
  intro e he
  simp only [shelf, List.mem_cons, List.not_mem_nil, or_false] at he
  rcases he with rfl | rfl | rfl <;> rfl

/-- A save that is stopped after three bytes leaves the first record as it is, and one that is not
stopped replaces it; the second record stays. -/
theorem saved_whole_or_not_three_bytes :
    shelf.Sound ∧ shelf.IsTree ∧ shelf.StandsIn ⟨"o/a.result"⟩ ∧
      (let stopped := save shelf { noRefusals with filling := some (.permissionDenied, 3) }
        ⟨"o/a.result"⟩ knotted
      stopped.1 ≠ .ok () ∧ shelf.read ⟨"o/a.result"⟩ = .ok "PASSED|1|||\n".toUTF8 ∧
        stopped.2.read ⟨"o/a.result"⟩ = .ok "PASSED|1|||\n".toUTF8 ∧
        stopped.2.item? ["o", "b.result"] = some (.file 1 "WARN|1|||\n".toUTF8)) ∧
      (let done := save shelf noRefusals ⟨"o/a.result"⟩ knotted
      done.1 = .ok () ∧ done.2.readText ⟨"o/a.result"⟩ = .ok (encode knotted ++ "\n") ∧
        done.2.item? ["o", "b.result"] = some (.file 1 "WARN|1|||\n".toUTF8)) := by
  have hstands : shelf.StandsIn ⟨"o/a.result"⟩ := by
    have hpre : ∀ q ∈ Path.trail ⟨"o/a.result"⟩, q <+: Path.place ⟨"o/a.result"⟩ := by decide
    exact fun q hq => Or.inl (hpre q hq)
  have hne : (["o", "b.result"] : Place) ≠ Path.place ⟨"o/a.result"⟩ := by decide
  have hold : shelf.read ⟨"o/a.result"⟩ = .ok "PASSED|1|||\n".toUTF8 := rfl
  obtain ⟨hcan, -, hfailed, hothers, -⟩ := saved_whole_or_not sound_shelf
    { noRefusals with filling := some (.permissionDenied, 3) } ⟨"o/a.result"⟩ knotted
  obtain ⟨-, hwhole, -, hothers', -⟩ := saved_whole_or_not sound_shelf noRefusals ⟨"o/a.result"⟩
    knotted
  have hstopped := mt (fun h => (hcan.mp h).1) (by simp [noRefusals])
  have hdone : (save shelf noRefusals ⟨"o/a.result"⟩ knotted).1 = .ok () := by decide +kernel
  exact ⟨sound_shelf, isTree_shelf, hstands,
    ⟨hstopped, hold, (hfailed hstopped).2.1 _ hold, (hothers _ hne _ _).mpr rfl⟩,
    hdone, hwhole hdone, (hothers' _ hne _ _).mpr rfl⟩

end Record

end Signoff
