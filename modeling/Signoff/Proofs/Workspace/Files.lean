import Mathlib.Data.List.Induction
import Signoff.LogFile
import Signoff.Proofs.Workspace.Folders

/-!
# Writing files

A workspace is sound when every file has a number of its own.  Writing and saving put a content at
one place and leave every other place alone (`Stores`); writing through an open file reaches the
file with its number and no other.
-/

namespace Signoff

open Workspace

/-! ## Texts as bytes -/

theorem fromUTF8?_toUTF8 (s : String) : String.fromUTF8? s.toUTF8 = some s := by
  have hvalid : s.toUTF8.IsValidUTF8 := s.isValidUTF8
  simp only [String.fromUTF8?, hvalid, dif_pos]
  rfl

/-- A text has the bytes that it was read from. -/
theorem toUTF8_of_fromUTF8? {content : ByteArray} {s : String}
    (h : String.fromUTF8? content = some s) : content = s.toUTF8 := by
  unfold String.fromUTF8? at h
  split at h
  · rw [Option.some.injEq] at h
    rw [← h]
    rfl
  · simp at h

/-- Texts with the same bytes are the same. -/
theorem toUTF8_injective {s t : String} (h : s.toUTF8 = t.toUTF8) : s = t := by
  have hdecoded := congrArg String.fromUTF8? h
  rwa [fromUTF8?_toUTF8, fromUTF8?_toUTF8, Option.some.injEq] at hdecoded

theorem toUTF8_append (s t : String) : (s ++ t).toUTF8 = s.toUTF8 ++ t.toUTF8 := by
  simp

namespace Workspace

variable {w w' w'' : Workspace}

/-- Every file has a number of its own, and none has one that is still to be given. -/
structure Sound (w : Workspace) : Prop where
  numbered : ∀ q n c, w.item? q = some (.file n c) → n < w.nextNumber
  unshared : ∀ p q n c d, w.item? p = some (.file n c) → w.item? q = some (.file n d) → p = q

theorem sound_empty : empty.Sound where
  numbered q n c h := by simp [item?, empty] at h
  unshared p q n c d h := by simp [item?, empty] at h

/-- Whatever there is lies in a folder. -/
def IsTree (w : Workspace) : Prop := ∀ q, w.item? q ≠ none → w.item? q.dropLast = some .folder

/-- What is in front of a place at which there is something are folders. -/
theorem IsTree.folder_of_prefix (h : w.IsTree) {p q : Place} (hq : w.item? q ≠ none)
    (hp : p <+: q) (hne : p ≠ q) : w.item? p = some .folder := by
  induction q using List.reverseRecOn with
  | nil => exact absurd (List.prefix_nil.mp hp) hne
  | append_singleton q name ih =>
    have hfolder := h _ hq
    rw [List.dropLast_concat] at hfolder
    have hshort : p <+: q := (List.prefix_concat_iff.mp hp).resolve_left hne
    by_cases heq : p = q
    · rw [heq]
      exact hfolder
    · apply ih _ hshort heq
      rw [hfolder]
      exact nofun

theorem mem_items_of_item? {q : Place} {item : Item} (hq : q.isStart = false)
    (h : w.item? q = some item) : (q, item) ∈ w.items := by
  unfold item? at h
  rw [hq] at h
  obtain ⟨e, he, heq⟩ := Option.map_eq_some_iff.mp h
  have hplace := List.find?_some he
  rw [beq_iff_eq] at hplace
  rw [← hplace, ← heq]
  exact List.mem_of_find?_eq_some he

/-- For a tree it is enough to look at the items, as the starting points lie in each other. -/
theorem isTree_of_items (h : ∀ e ∈ w.items, w.item? e.1.dropLast = some .folder) : w.IsTree := by
  intro q hq
  cases hstart : q.isStart with
  | true =>
    apply item?_of_isStart
    unfold Place.isStart at hstart ⊢
    rw [Bool.or_eq_true, beq_iff_eq] at hstart
    rcases hstart with hup | rfl
    · rw [List.all_eq_true] at hup
      rw [Bool.or_eq_true, List.all_eq_true]
      exact Or.inl fun name hname => hup name (List.dropLast_subset q hname)
    · rfl
  | false =>
    obtain ⟨item, hitem⟩ := Option.ne_none_iff_exists'.mp hq
    exact h _ (mem_items_of_item? hstart hitem)

theorem sound_of_items (hnumbered : ∀ e ∈ w.items, ∀ n c, e.2 = .file n c → n < w.nextNumber)
    (hunshared : ∀ e ∈ w.items, ∀ f ∈ w.items, ∀ n c d, e.2 = .file n c → f.2 = .file n d →
      e.1 = f.1) : w.Sound := by
  have hmem : ∀ {q n c}, w.item? q = some (.file n c) → (q, .file n c) ∈ w.items := by
    intro q n c h
    apply mem_items_of_item? _ h
    by_contra hstart
    rw [item?_of_isStart (Bool.not_eq_false _ ▸ hstart)] at h
    cases h
  constructor
  · intro q n c hq
    exact hnumbered _ (hmem hq) n c rfl
  · intro p q n c d hp hq
    exact hunshared _ (hmem hp) _ (hmem hq) n c d rfl rfl

/-- The two workspaces have the same items, and the second one may have given more numbers. -/
structure Alike (w w' : Workspace) : Prop where
  items : ∀ q, w'.item? q = w.item? q
  number : w.nextNumber ≤ w'.nextNumber

/-- The content is put at the place, in the file that was there or in a new one. -/
structure Stores (p : Place) (content : ByteArray) (w w' : Workspace) : Prop where
  elsewhere : ∀ q, q ≠ p → w'.item? q = w.item? q
  here : w.item? p ≠ some .folder
  stored : ∃ n, w'.item? p = some (.file n content) ∧
    (w.nextNumber ≤ n ∧ n < w'.nextNumber ∨ ∃ d, w.item? p = some (.file n d))
  number : w.nextNumber ≤ w'.nextNumber

theorem Alike.refl (w : Workspace) : Alike w w := ⟨fun _ => rfl, Nat.le_refl _⟩

theorem Alike.trans (h : Alike w w') (h' : Alike w' w'') : Alike w w'' :=
  ⟨fun q => (h'.items q).trans (h.items q), h.number.trans h'.number⟩

namespace Sound

theorem alike (h : w.Sound) (ha : Alike w w') : w'.Sound where
  numbered q n c hq := lt_of_lt_of_le (h.numbered q n c (ha.items q ▸ hq)) ha.number
  unshared p q n c d hp hq := h.unshared p q n c d (ha.items p ▸ hp) (ha.items q ▸ hq)

theorem widens {places : List Place} (h : w.Sound) (hw : Widens places w w') : w'.Sound where
  numbered q n c hq := hw.number ▸ h.numbered q n c (hw.file_iff.mp hq)
  unshared p q n c d hp hq := h.unshared p q n c d (hw.file_iff.mp hp) (hw.file_iff.mp hq)

theorem stores {p : Place} {content : ByteArray} (h : w.Sound) (hs : Stores p content w w') :
    w'.Sound := by
  obtain ⟨n, hn, hnew⟩ := hs.stored
  -- another file does not have the number of the stored one
  have hother : ∀ q m c, q ≠ p → w'.item? q = some (.file m c) → m ≠ n := by
    rintro q m c hq hm rfl
    rw [hs.elsewhere q hq] at hm
    rcases hnew with ⟨hle, -⟩ | ⟨d, hd⟩
    · have := h.numbered q m c hm
      omega
    · exact hq (h.unshared q p m c d hm hd)
  -- numbers stay below the next one, and the stored file shares its number with no other
  refine ⟨fun q m c hq => ?_, fun q r m c d hq hr => ?_⟩
  · by_cases hqp : q = p
    · rw [hqp, hn, Option.some.injEq, Item.file.injEq] at hq
      rcases hnew with ⟨-, hlt⟩ | ⟨d, hd⟩
      · omega
      · have := h.numbered p n d hd
        have := hs.number
        omega
    · rw [hs.elsewhere q hqp] at hq
      exact lt_of_lt_of_le (h.numbered q m c hq) hs.number
  · by_cases hqp : q = p <;> by_cases hrp : r = p
    · rw [hqp, hrp]
    · subst hqp
      rw [hn, Option.some.injEq, Item.file.injEq] at hq
      exact absurd hq.1.symm (hother r m d hrp hr)
    · subst hrp
      rw [hn, Option.some.injEq, Item.file.injEq] at hr
      exact absurd hr.1.symm (hother q m c hqp hq)
    · rw [hs.elsewhere q hqp] at hq
      rw [hs.elsewhere r hrp] at hr
      exact h.unshared q r m c d hq hr

end Sound

namespace Stores

variable {p q : Place} {content : ByteArray}

/-- Folders stay folders, and nothing else becomes one. -/
theorem folder_iff (h : Stores p content w w') :
    w'.item? q = some .folder ↔ w.item? q = some .folder := by
  by_cases hq : q = p
  · obtain ⟨n, hn, -⟩ := h.stored
    subst hq
    rw [hn]
    exact ⟨fun h0 => by simp at h0, fun h0 => absurd h0 h.here⟩
  · rw [h.elsewhere q hq]

end Stores

/-! ## What files hold -/

/-- The content of the file at a place. -/
def contentAt (w : Workspace) (q : Place) : Option ByteArray :=
  match w.item? q with
  | some (.file _ content) => some content
  | _ => none

theorem contentAt_eq_some {q : Place} {c : ByteArray} :
    w.contentAt q = some c ↔ ∃ n, w.item? q = some (.file n c) := by
  unfold contentAt
  split
  next n content h => simp [h]
  next h =>
    refine ⟨fun h0 => by simp at h0, fun ⟨n, hn⟩ => ?_⟩
    exact absurd hn (h n c)

theorem contentAt_congr {q : Place} (h : w'.item? q = w.item? q) :
    w'.contentAt q = w.contentAt q := by
  unfold contentAt
  rw [h]

theorem Widens.contentAt_eq {places : List Place} (h : Widens places w w') (q : Place) :
    w'.contentAt q = w.contentAt q := by
  apply Option.ext
  intro c
  rw [contentAt_eq_some, contentAt_eq_some]
  exact exists_congr fun n => h.file_iff

theorem Stores.contentAt_here {p : Place} {content : ByteArray} (h : Stores p content w w') :
    w'.contentAt p = some content := by
  obtain ⟨n, hn, -⟩ := h.stored
  exact contentAt_eq_some.mpr ⟨n, hn⟩

theorem Stores.contentAt_eq {p q : Place} {content : ByteArray} (h : Stores p content w w')
    (hq : q ≠ p) : w'.contentAt q = w.contentAt q :=
  contentAt_congr (h.elsewhere q hq)

/-! ## Reading back -/

theorem read_eq_ok_iff {p : Path} {c : ByteArray} :
    w.read p = .ok c ↔ w.Leads p ∧ w.contentAt p.place = some c := by
  unfold read
  cases hr : w.resolve p with
  | error fault =>
    refine ⟨fun h => by simp at h, fun h => ?_⟩
    have := h.1.resolve
    simp [hr] at this
  | ok q =>
    obtain ⟨rfl, hleads⟩ := resolve_eq_ok_iff.mp hr
    dsimp only
    unfold contentAt
    cases w.item? p.place with
    | none => simp
    | some item => cases item <;> simp [hleads]

/-- The text in the file that the path leads to. -/
theorem readText_eq_ok_iff {p : Path} {text : String} :
    w.readText p = .ok text ↔ w.Leads p ∧ w.contentAt p.place = some text.toUTF8 := by
  unfold readText
  cases hr : w.read p with
  | error fault =>
    refine ⟨fun h => by simp at h, fun h => ?_⟩
    rw [read_eq_ok_iff.mpr h] at hr
    simp at hr
  | ok content =>
    obtain ⟨hleads, hcontent⟩ := read_eq_ok_iff.mp hr
    dsimp only
    rw [hcontent, Option.some.injEq]
    cases hu : String.fromUTF8? content with
    | none =>
      refine ⟨fun h => by simp at h, fun h => ?_⟩
      rw [h.2, fromUTF8?_toUTF8] at hu
      simp at hu
    | some s =>
      have hs : content = s.toUTF8 := toUTF8_of_fromUTF8? hu
      simp only [Except.ok.injEq, hleads, true_and]
      -- decoding is the inverse of encoding on valid texts, so the contents decide the texts
      constructor
      · rintro rfl
        exact hs
      · intro htext
        rw [htext, fromUTF8?_toUTF8, Option.some.injEq] at hu
        exact hu.symm

/-- What can be read can still be read while the folders and the content stay. -/
theorem readText_mono {p : Path} {text : String} (h : w.readText p = .ok text)
    (hfolders : ∀ q, w.item? q = some .folder → w'.item? q = some .folder)
    (hcontent : w'.contentAt p.place = w.contentAt p.place) : w'.readText p = .ok text := by
  obtain ⟨hleads, htext⟩ := readText_eq_ok_iff.mp h
  exact readText_eq_ok_iff.mpr ⟨hleads.mono hfolders, hcontent.trans htext⟩

/-- The folders that the path leaves again are there. -/
def StandsIn (w : Workspace) (p : Path) : Prop :=
  ∀ q ∈ p.trail, q <+: p.place ∨ w.item? q = some .folder

/-- A file that is reached in one workspace is reached in another one that has a file in its
place. -/
theorem Leads.of_file {p : Path} {v : Workspace} (htree : w.IsTree) (hstands : w.StandsIn p)
    (hw : w.contentAt p.place ≠ none) (hv : v.contentAt p.place ≠ none) (h : v.Leads p) :
    w.Leads p := by
  obtain ⟨c, hc⟩ := Option.ne_none_iff_exists'.mp hw
  obtain ⟨d, hd⟩ := Option.ne_none_iff_exists'.mp hv
  obtain ⟨n, hfile⟩ := contentAt_eq_some.mp hc
  obtain ⟨m, hthere⟩ := contentAt_eq_some.mp hd
  have hitem : w.item? p.place ≠ none := by
    rw [hfile]
    exact Option.some_ne_none _
  refine ⟨h.checked, h.short, fun q hq => ?_⟩
  -- the place of a file is not passed
  have hne : q ≠ p.place := by
    intro heq
    have hfolder := h.folders q hq
    rw [heq, hthere] at hfolder
    cases hfolder
  have htrail : q ∈ p.trail := by
    rw [Path.mem_trail, Place.trail]
    exact List.mem_append_left _ hq
  rcases hstands q htrail with hpre | hfolder
  · exact htree.folder_of_prefix hitem hpre hne
  · exact hfolder

/-! ## Erasing and creating -/

theorem item?_erase (p q : Place) (hp : p.isStart = false) :
    (w.erase p).item? q = if p = q then none else w.item? q := by
  unfold item? erase
  by_cases hq : q.isStart = true
  · rw [if_pos hq, if_pos hq, if_neg]
    rintro rfl
    simp [hp] at hq
  -- the entries of the place are filtered out, so a search finds none of them
  · rw [if_neg hq, if_neg hq, List.find?_filter]
    split
    next hpq =>
      subst hpq
      rw [List.find?_eq_none.mpr (by simp)]
      rfl
    next hpq =>
      congr 2
      funext e
      by_cases he : e.1 = q
      · simp [he, Ne.symm hpq]
      · simp [he]

theorem item?_create {p q : Place} {content : ByteArray} (hp : p.isStart = false) :
    (w.create p content).item? q =
      if p = q then some (.file w.nextNumber content) else w.item? q :=
  item?_put hp

theorem isStart_of_item? {p : Place} (h : w.item? p ≠ some .folder) : p.isStart = false := by
  cases hs : p.isStart with
  | false => rfl
  | true => exact absurd (item?_of_isStart hs w) h

theorem write_eq_ok {p : Path} {content : ByteArray} (h : w.write p content = .ok w') :
    w.Leads p ∧ Stores p.place content w w' := by
  unfold write at h
  cases hw : w.writable p with
  | error fault => simp [hw] at h
  | ok q =>
    obtain ⟨rfl, hleads⟩ := leads_of_writable hw
    rw [hw] at h
    dsimp only at h
    refine ⟨hleads, ?_⟩
    -- a new file takes the next number, and an old one keeps the number that it has
    cases hi : w.item? p.place with
    | none =>
      rw [hi, Except.ok.injEq] at h
      subst h
      have hstart : p.place.isStart = false := isStart_of_item? (w := w) (by simp [hi])
      refine ⟨fun q hq => ?_, by simp [hi], ⟨w.nextNumber, ?_, Or.inl ⟨Nat.le_refl _, ?_⟩⟩, ?_⟩
      · rw [item?_create hstart, if_neg (Ne.symm hq)]
      · rw [item?_create hstart, if_pos rfl]
      · exact Nat.lt_succ_self _
      · exact Nat.le_succ _
    | some item =>
      cases item with
      | folder => simp [hi] at h
      | file n d =>
        rw [hi, Except.ok.injEq] at h
        subst h
        have hstart : p.place.isStart = false := isStart_of_item? (w := w) (by simp [hi])
        refine ⟨fun q hq => ?_, by simp [hi], ⟨n, ?_, Or.inr ⟨d, hi⟩⟩, Nat.le_refl _⟩
        · rw [item?_put hstart, if_neg (Ne.symm hq)]
        · rw [item?_put hstart, if_pos rfl]

theorem readText_of_writeText {p : Path} {text : String} (h : w.writeText p text = .ok w') :
    w'.readText p = .ok text := by
  obtain ⟨hleads, hstores⟩ := write_eq_ok h
  exact readText_eq_ok_iff.mpr
    ⟨hleads.mono fun q => hstores.folder_iff.mpr, hstores.contentAt_here⟩

/-! ## Writing through an open file -/

theorem overwrite_end (content bytes : ByteArray) :
    overwrite content content.size bytes = content ++ bytes := by
  unfold overwrite
  -- at the end there is no gap to fill and nothing behind the new bytes
  have hgap : ByteArray.mk (Array.replicate (content.size - content.size) 0) =
      ByteArray.empty := by
    rw [Nat.sub_self]
    rfl
  have htail : content.extract (content.size + bytes.size) content.size = ByteArray.empty := by
    rw [ByteArray.extract_eq_empty_iff]
    omega
  dsimp only
  rw [hgap, htail, ByteArray.extract_zero_size, ByteArray.append_empty, ByteArray.append_empty]

/-- What writing to a file makes of an item. -/
def writtenItem (number : Nat) (position : Option Nat) (bytes : ByteArray) : Item → Item
  | .folder => .folder
  | .file n content =>
    if n = number then .file n (overwrite content (position.getD content.size) bytes)
    else .file n content

theorem item?_writeInto (number : Nat) (position : Option Nat) (bytes : ByteArray) (q : Place) :
    (w.writeInto number position bytes).item? q =
      (w.item? q).map (writtenItem number position bytes) := by
  unfold item? writeInto
  dsimp only
  split
  · rfl
  -- writing keeps the places of all entries, so the search finds the same entry, changed
  · rw [List.find?_map, Option.map_map, Option.map_map]
    congr 1
    · funext e
      obtain ⟨p, item⟩ := e
      cases item with
      | folder => rfl
      | file n c =>
        simp only [Function.comp_apply, writtenItem]
        split <;> rfl
    · congr 1
      funext e
      obtain ⟨p, item⟩ := e
      cases item with
      | folder => rfl
      | file n c =>
        simp only [Function.comp_apply]
        split <;> rfl

theorem item?_writeInto_of_ne {number : Nat} {position : Option Nat} {bytes : ByteArray}
    {q : Place} (h : ∀ c, w.item? q ≠ some (.file number c)) :
    (w.writeInto number position bytes).item? q = w.item? q := by
  rw [item?_writeInto]
  cases hi : w.item? q with
  | none => rfl
  | some item =>
    cases item with
    | folder => rfl
    | file n c =>
      have hne : n ≠ number := by
        rintro rfl
        exact h c hi
      simp [writtenItem, hne]

end Workspace

/-! ## The open log -/

namespace LogFile

variable {log log' : LogFile} {w w' : Workspace} {p : Place} {content : ByteArray}

/-- The log writes to the end of the file at the place, which has the content. -/
structure Keeps (log : LogFile) (w : Workspace) (p : Place) (content : ByteArray) : Prop where
  file : w.item? p = some (.file log.number content)
  position : log.position = none ∨ log.position = some content.size

/-- Writes at the end of the log. -/
def append (log : LogFile) (w : Workspace) (bytes : ByteArray) : LogFile × Workspace :=
  ({ log with position := log.position.map (· + bytes.size) },
    w.writeInto log.number log.position bytes)

theorem record_eq_append (log : LogFile) (w : Workspace) (key : JobKey) (name : String)
    (time : Time.Instant) : log.record w key name time =
      log.append w (CompletionLog.writeLine key name time ++ "\n").toUTF8 := rfl

/-- What is written goes to the end of the log, and no other place changes. -/
theorem Keeps.append (h : log.Keeps w p content) (hw : w.Sound) (bytes : ByteArray) :
    (log.append w bytes).1.Keeps (log.append w bytes).2 p (content ++ bytes) ∧
      Stores p (content ++ bytes) w (log.append w bytes).2 := by
  unfold LogFile.append
  -- appending and writing at a position that is the end come to the same
  have hpos : overwrite content (log.position.getD content.size) bytes = content ++ bytes := by
    rcases h.position with hp | hp <;> rw [hp] <;> exact overwrite_end content bytes
  have hitem : (w.writeInto log.number log.position bytes).item? p =
      some (.file log.number (content ++ bytes)) := by
    rw [item?_writeInto, h.file]
    simp [writtenItem, hpos]
  refine ⟨⟨hitem, ?_⟩, ⟨fun q hq => ?_, ?_, ⟨log.number, hitem, Or.inr ⟨content, h.file⟩⟩,
    Nat.le_refl _⟩⟩
  · rcases h.position with hp | hp
    · exact Or.inl (by rw [hp]; rfl)
    · exact Or.inr (by rw [hp, ByteArray.size_append]; rfl)
  -- no other place has the number of the log
  · refine item?_writeInto_of_ne fun c hc => hq ?_
    exact hw.unshared q p log.number c content hc h.file
  · rw [h.file]
    simp

/-- A line goes to the end of the log, and no other place changes. -/
theorem Keeps.record {key : JobKey} {name : String} {time : Time.Instant}
    (h : log.Keeps w p content) (hw : w.Sound)
    (hr : log.record w key name time = (log', w')) :
    log'.Keeps w' p (content ++ (CompletionLog.writeLine key name time ++ "\n").toUTF8) ∧
      Stores p (content ++ (CompletionLog.writeLine key name time ++ "\n").toUTF8) w w' := by
  have happend := h.append hw (CompletionLog.writeLine key name time ++ "\n").toUTF8
  rw [← record_eq_append, hr] at happend
  exact happend

theorem Keeps.contentAt (h : log.Keeps w p content) : w.contentAt p = some content :=
  contentAt_eq_some.mpr ⟨log.number, h.file⟩

/-- Other changes leave the log as it is. -/
theorem Keeps.congr (h : log.Keeps w p content) (hw : w'.item? p = w.item? p) :
    log.Keeps w' p content :=
  ⟨hw.trans h.file, h.position⟩

end LogFile

end Signoff
