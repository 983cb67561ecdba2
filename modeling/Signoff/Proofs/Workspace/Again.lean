import Mathlib.Data.List.Infix
import Signoff.Proofs.Layout

/-!
# Making and opening again

What was made or opened once can be made and opened again as long as the folders are there, and the
second time nothing changes: folders are found (`makeFolders_again`, `prepare_again`) and files are
opened where they lie (`fileAt_again`).
-/

namespace Signoff

open Place Text

namespace Workspace

variable {w w' v : Workspace} {p q : Path}

/-! ## Paths in front of a path -/

/-- The names of a path, and those of one that leads on from it behind a slash. -/
theorem namesOf_front {more : List Char} (htext : p.text.toList = q.text.toList ++ more)
    (hcut : more.head? = some '/' ∨ q.text.toList.getLast? = some '/') :
    ∃ names rest, rest ≠ [] ∧ namesOf p = names ++ rest ∧
      (namesOf q = names ∨ namesOf q = names ++ [""]) := by
  have hrest : ∀ cs, (splitOn '/' cs).map String.ofList ≠ [] := fun cs h =>
    splitOn_ne_nil '/' cs (List.map_eq_nil_iff.mp h)
  unfold namesOf
  rw [htext]
  rcases hcut with hmore | hlast
  · obtain ⟨cs, rfl⟩ := List.head?_eq_some_iff.mp hmore
    refine ⟨_, _, hrest cs, ?_, Or.inl rfl⟩
    rw [splitOn_append_cons, List.map_append]
  -- a slash at the end leaves an empty name behind it
  · obtain ⟨front, hfront⟩ := List.getLast?_eq_some_iff.mp hlast
    refine ⟨(splitOn '/' front).map String.ofList, _, hrest more, ?_, Or.inr ?_⟩
    · rw [hfront, List.append_assoc, List.singleton_append, splitOn_append_cons, List.map_append]
    · rw [hfront, splitOn_append_cons, List.map_append]
      rfl

theorem check_front {more : List Char} (h : check p = .ok ()) (hne : q.text.toList ≠ [])
    (htext : p.text.toList = q.text.toList ++ more) : check q = .ok () := by
  have hp : p.text = q.text ++ String.ofList more := by
    rw [← String.toList_inj, htext, String.toList_append, String.toList_ofList]
  unfold check at h ⊢
  split at h
  · cases h
  next hnul =>
    split at h
    · cases h
    · split at h
      · cases h
      next hshort =>
        rw [hp, String.utf8ByteSize_append] at hshort
        have hclean : ¬ q.text.toList.contains '\x00' = true := by
          rw [List.contains_iff_mem] at hnul ⊢
          exact fun hmem => hnul (htext ▸ List.mem_append_left more hmem)
        rw [if_neg hclean,
          if_neg (by rw [String.isEmpty_iff, ← String.toList_eq_nil_iff]; exact hne),
          if_neg (by omega)]

theorem startOf_front {more : List Char} (hne : q.text.toList ≠ [])
    (htext : p.text.toList = q.text.toList ++ more) : startOf q = startOf p := by
  obtain ⟨c, cs, hq⟩ := List.exists_cons_of_ne_nil hne
  unfold startOf Path.isAbsolute
  rw [htext, hq]
  rfl

/-- If a path leads on behind a slash, what is in front of it leads to a folder. -/
theorem Leads.front {more : List Char} (h : w.Leads p) (hne : q.text.toList ≠ [])
    (htext : p.text.toList = q.text.toList ++ more)
    (hcut : more.head? = some '/' ∨ q.text.toList.getLast? = some '/') :
    w.Leads q ∧ w.item? q.place = some .folder := by
  obtain ⟨names, rest, hrest, hp, hq⟩ := namesOf_front htext hcut
  obtain ⟨name, rest, rfl⟩ := List.exists_cons_of_ne_nil hrest
  have hstart := startOf_front hne htext
  -- the folder behind the names is passed on the way to the rest
  have hend : names.foldl enter (startOf p) ∈ (startOf p).passed (namesOf p) := by
    rw [hp, passed_append]
    exact List.mem_append_right _ List.mem_cons_self
  have hpassed : ∀ r ∈ (startOf p).passed names, r ∈ (startOf p).passed (namesOf p) := by
    intro r hr
    rw [hp, passed_append]
    exact List.mem_append_left _ hr
  have hplace : q.place = names.foldl enter (startOf p) := by
    rw [Path.place_eq_foldl, hstart]
    rcases hq with hq | hq <;> rw [hq]
    rw [List.foldl_append]
    rfl
  refine ⟨⟨check_front h.checked hne htext, fun n hn => ?_, fun r hr => h.folders r ?_⟩,
    h.folders _ (hplace ▸ hend)⟩
  · have hnames : ∀ n ∈ names, isTooLong n = false := fun n hn =>
      h.short n (by rw [hp]; exact List.mem_append_left _ hn)
    rcases hq with hq | hq <;> rw [hq] at hn
    · exact hnames n hn
    · rcases List.mem_append.mp hn with hn | hn
      · exact hnames n hn
      · rw [List.mem_singleton.mp hn]
        decide
  · rw [hstart] at hr
    rcases hq with hq | hq <;> rw [hq] at hr
    · exact hpassed r hr
    · rw [passed_append] at hr
      rcases List.mem_append.mp hr with hr | hr
      · exact hpassed r hr
      · rw [List.mem_singleton.mp hr]
        exact hend

theorem Leads.ne_nil (h : w.Leads p) : p.text.toList ≠ [] := by
  intro htext
  have hchecked := h.checked
  obtain ⟨text⟩ := p
  obtain rfl : text = "" := String.toList_eq_nil_iff.mp htext
  exact absurd hchecked (by decide)

theorem Leads.withoutSlashes (h : w.Leads p) : w.Leads (withoutSlashes p) := by
  obtain ⟨n, htext, hne⟩ := text_withoutSlashes p
  cases n with
  | zero =>
    have hsame : (Workspace.withoutSlashes p).text = p.text := by
      rw [← String.toList_inj, htext, List.replicate_zero, List.append_nil]
    have heq : Workspace.withoutSlashes p = p := congrArg Path.mk hsame
    rw [heq]
    exact h
  | succ n => exact (h.front (hne h.ne_nil) htext (Or.inl rfl)).1

/-! ## Paths without a slash at the end -/

theorem withoutSlashes_eq_self (h : p.text.toList.getLast? ≠ some '/') :
    withoutSlashes p = p := by
  have hkept : p.text.toList.reverse.dropWhile (· == '/') = p.text.toList.reverse := by
    cases hrev : p.text.toList.reverse with
    | nil => rfl
    | cons c cs =>
      have hlast : p.text.toList.getLast? = some c := by
        rw [List.getLast?_eq_head?_reverse, hrev]
        rfl
      rw [List.dropWhile_cons_of_neg]
      rw [beq_iff_eq]
      rintro rfl
      exact h hlast
  unfold withoutSlashes
  rw [hkept, List.reverse_reverse]
  dsimp only
  split
  · rfl
  · rw [String.ofList_toList]

theorem withoutSlashes_child {name : String} (h : IsProper name) (p : Path) :
    withoutSlashes (p.child name) = p.child name := by
  have hlast : ∀ cs : List Char, (cs ++ name.toList).getLast? ≠ some '/' := by
    intro cs hcs
    have hne : name.toList ≠ [] := by
      intro hnil
      obtain rfl : name = "" := String.toList_eq_nil_iff.mp hnil
      exact absurd h.idle (by decide)
    rw [List.getLast?_append_of_ne_nil _ hne] at hcs
    exact h.slash (List.mem_of_getLast? hcs)
  apply withoutSlashes_eq_self
  rcases Path.text_child h p with ⟨htext, -⟩ | ⟨htext, -⟩
  · rw [htext]
    exact hlast _
  · rw [htext, List.append_cons]
    exact hlast _

theorem getLast?_join {pieces : List (List Char)} (h : ∀ piece ∈ pieces, Path.IsPart piece) :
    (Text.join ['/'] pieces).getLast? ≠ some '/' := by
  induction pieces with
  | nil => exact nofun
  | cons piece rest ih =>
    have hpiece := h piece List.mem_cons_self
    cases rest with
    | nil => exact fun hlast => hpiece.2 (List.mem_of_getLast? hlast)
    | cons next rest =>
      have hrest := ih fun q hq => h q (List.mem_cons_of_mem _ hq)
      have hne : Text.join ['/'] (next :: rest) ≠ [] := by
        have hnext := (h next (by simp)).1
        cases rest with
        | nil => exact hnext
        | cons => simp [Text.join, hnext]
      rw [Text.join, List.getLast?_append_of_ne_nil _ hne]
      · exact hrest
      · exact nofun

/-- What lies around a path does not end with a slash, unless it is the root. -/
theorem withoutSlashes_parent (p : Path) :
    withoutSlashes (p.parent?.getD ⟨""⟩) = p.parent?.getD ⟨""⟩ := by
  unfold Path.parent?
  split
  · rfl
  rw [Option.getD_some]
  have hparts : ∀ cs ∈ p.parts.dropLast, Path.IsPart cs := fun cs hcs =>
    Path.isPart_of_mem_parts (List.mem_of_mem_dropLast hcs)
  cases hjoin : Text.join ['/'] p.parts.dropLast with
  | nil =>
    cases p.isAbsolute with
    | true => decide
    | false => decide
  | cons c cs =>
    have hlast := getLast?_join hparts
    rw [hjoin] at hlast
    apply withoutSlashes_eq_self
    rw [String.toList_ofList]
    split
    · rwa [List.getLast?_cons_cons]
    · exact hlast

/-! ## Folders -/

/-- Making a folder that a path leads to changes nothing. -/
theorem makeFolders_of_leads (h : w.Leads p) (hfolder : w.item? p.place = some .folder) :
    w.makeFolders p = (.ok (), w) := by
  have hthere : w.makeFolder p = .error .alreadyExists := by
    unfold makeFolder
    rw [h.withoutSlashes.resolve, place_withoutSlashes]
    dsimp only
    rw [hfolder]
    rfl
  unfold makeFolders
  split
  · rfl
  · unfold Path.withParents makeFrom
    rw [hthere]
    dsimp only
    rw [if_pos (isFolder_iff.mpr ⟨h, hfolder⟩)]

/-- A path of folders that were made led to its end somewhere. -/
theorem exists_leads_of_makeFolders (hne : p.text ≠ "") (hends : withoutSlashes p = p)
    (h : w.makeFolders p = (.ok (), w')) : ∃ u : Workspace, u.Leads p := by
  have hmade : ∀ {u u' : Workspace}, u.makeFolder p = .ok u' → u.Leads p := by
    intro u u' hu
    unfold makeFolder at hu
    rw [hends] at hu
    cases hresolve : u.resolve p with
    | error fault => simp [hresolve] at hu
    | ok place => exact (resolve_eq_ok_iff.mp hresolve).2
  unfold makeFolders at h
  rw [if_neg (by rwa [String.isEmpty_iff])] at h
  unfold Path.withParents makeFrom at h
  -- whichever attempt it was, the path was resolved or a folder was found at its end
  split at h
  next hfirst => exact ⟨_, hmade hfirst⟩
  next =>
    split at h
    · cases (Prod.mk.inj h).1
    · split at h
      next hsecond => exact ⟨_, hmade hsecond⟩
      next =>
        split at h
        next hfound => exact ⟨_, (isFolder_iff.mp hfound).1⟩
        · cases (Prod.mk.inj h).1
  next =>
    split at h
    next hfound => exact ⟨_, (isFolder_iff.mp hfound).1⟩
    · cases (Prod.mk.inj h).1

/-- Wherever the folders of a trail are, the path that they were made for leads to its end. -/
theorem leads_of_makeFolders (hne : p.text ≠ "") (hends : withoutSlashes p = p)
    (h : w.makeFolders p = (.ok (), w')) (htrail : ∀ r ∈ p.trail, v.item? r = some .folder) :
    v.Leads p := by
  obtain ⟨u, hu⟩ := exists_leads_of_makeFolders hne hends h
  refine ⟨hu.checked, hu.short, fun r hr => htrail r ?_⟩
  rw [Path.mem_trail, Place.trail]
  exact List.mem_append_left _ hr

/-- Folders that were made once are found when they are made again. -/
theorem makeFolders_again (hends : withoutSlashes p = p) (h : w.makeFolders p = (.ok (), w'))
    (htrail : ∀ r ∈ p.trail, v.item? r = some .folder) : v.makeFolders p = (.ok (), v) := by
  by_cases hne : p.text = ""
  · unfold makeFolders
    rw [if_pos (String.isEmpty_iff.mpr hne)]
  · exact makeFolders_of_leads (leads_of_makeFolders hne hends h htrail)
      (htrail _ p.place_mem_trail)

/-- The folder that a file lies in is found when it is made again. -/
theorem makeFolders_of_child {name : String} (hname : IsProper name)
    (h : w.Leads (p.child name)) : w.makeFolders p = (.ok (), w) := by
  by_cases hne : p.text.toList = []
  · unfold makeFolders
    rw [if_pos (String.isEmpty_iff.mpr (String.toList_eq_nil_iff.mp hne))]
  · have hleads : w.Leads p ∧ w.item? p.place = some .folder := by
      rcases Path.text_child hname p with ⟨htext, hlast⟩ | ⟨htext, -⟩
      · exact h.front hne htext (Or.inr (hlast.resolve_left hne))
      · exact h.front hne htext (Or.inl rfl)
    exact makeFolders_of_leads hleads.1 hleads.2

/-! ## Files -/

theorem spot_mono {s : Spot} (h : w.spot p = .ok s)
    (hkept : ∀ r, w.item? r = some .folder → v.item? r = some .folder) : v.spot p = .ok s := by
  unfold spot at h ⊢
  cases hc : check p with
  | error fault => simp [hc] at h
  | ok u =>
    rw [hc] at h
    dsimp only at h ⊢
    cases hwalk : w.walk (startOf p) (((namesOf p).filter (· != "")).dropLast ++ [""]) with
    | error fault => simp [hwalk] at h
    | ok folder =>
      obtain ⟨hend, hpassed, hshort⟩ := walk_eq_ok_iff.mp hwalk
      rw [walk_eq_ok_iff.mpr ⟨hend, fun r hr => hkept r (hpassed r hr), hshort⟩]
      rwa [hwalk] at h

theorem writable_mono {place : Place} (h : w.writable p = .ok place)
    (hkept : ∀ r, w.item? r = some .folder → v.item? r = some .folder) :
    v.writable p = .ok place := by
  unfold writable at h ⊢
  cases hs : w.spot p with
  | error fault => simp [hs] at h
  | ok s =>
    rw [spot_mono hs hkept]
    rwa [hs] at h

theorem movable_mono {place : Place} (h : w.movable p = .ok place)
    (hkept : ∀ r, w.item? r = some .folder → v.item? r = some .folder) :
    v.movable p = .ok place := by
  unfold movable at h ⊢
  cases hs : w.spot p with
  | error fault => simp [hs] at h
  | ok s =>
    rw [spot_mono hs hkept]
    rwa [hs] at h

theorem writable_of_write {content : ByteArray} (h : w.write p content = .ok w') :
    w.writable p = .ok p.place := by
  unfold write at h
  cases hw : w.writable p with
  | error fault => simp [hw] at h
  | ok place => rw [(leads_of_writable hw).1]

theorem exists_write {place : Place} (h : w.writable p = .ok place)
    (hfile : w.item? place ≠ some .folder) (content : ByteArray) :
    ∃ w', w.write p content = .ok w' := by
  unfold write
  rw [h]
  dsimp only
  cases hi : w.item? place with
  | none => exact ⟨_, rfl⟩
  | some item =>
    cases item with
    | folder => exact absurd hi hfile
    | file number old => exact ⟨_, rfl⟩

/-- A file that was written once can be written again. -/
theorem exists_write_again {content : ByteArray} (h : w.write p content = .ok w')
    (hkept : ∀ r, w.item? r = some .folder → v.item? r = some .folder)
    (hfile : v.item? p.place ≠ some .folder) (more : ByteArray) :
    ∃ v', v.write p more = .ok v' :=
  exists_write (writable_mono (writable_of_write h) hkept) hfile more

end Workspace

open Workspace

/-- A log that was opened once is opened again where it lies. -/
theorem LogFile.fileAt_again {w w' v : Workspace} {path : Path} {number number' : Nat}
    {content : ByteArray} (h : fileAt w path = .ok (number, w'))
    (hkept : ∀ r, w.item? r = some .folder → v.item? r = some .folder)
    (hfile : v.item? path.place = some (.file number' content)) :
    fileAt v path = .ok (number', v) := by
  unfold fileAt at h ⊢
  cases hw : w.writable path with
  | error fault => simp [hw] at h
  | ok place =>
    rw [writable_mono hw hkept, (leads_of_writable hw).1]
    dsimp only
    rw [hfile]

/-- The folders of a domain that were made once are found when they are made again. -/
theorem Layout.prepare_again {l : Layout} {w w' v : Workspace} {d : Domain}
    (h : l.prepare w d = (.ok (), w')) (hfolders : ∀ r ∈ l.folders d, v.item? r = some .folder) :
    l.prepare v d = (.ok (), v) := by
  have hends : ∀ p : Path, withoutSlashes (p.child d.slug) = p.child d.slug :=
    withoutSlashes_child d.isProper_slug
  unfold prepare at h
  split at h
  · cases (Prod.mk.inj h).1
  next left hraw =>
    split at h
    · cases (Prod.mk.inj h).1
    next more hresult =>
      have hraw' : v.makeFolders (l.rawFolder d) = (.ok (), v) :=
        makeFolders_again (hends _) hraw fun r hr => hfolders r (List.mem_append_left _ hr)
      have hresult' : v.makeFolders (l.resultFolder d) = (.ok (), v) :=
        makeFolders_again (hends _) hresult fun r hr => hfolders r (List.mem_append_right _ hr)
      unfold prepare
      rw [hraw']
      dsimp only
      rw [hresult']

end Signoff
