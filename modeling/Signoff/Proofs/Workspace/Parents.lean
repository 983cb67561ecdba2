import Signoff.Proofs.Workspace.Places

/-!
# Paths below and around a path

What `child` and `parent?` do to the steps of a path, and where the folders of `withParents` lie.
The paths are texts, with doubled slashes, dots and slashes at the end; their steps are what counts.
-/

namespace Signoff

open Workspace Text

namespace Path

/-! ## Paths from parts -/

/-- The path that goes through the parts. -/
def ofParts (absolute : Bool) (parts : List (List Char)) : Path :=
  ⟨String.ofList (if absolute then '/' :: Text.join ['/'] parts else Text.join ['/'] parts)⟩

/-- A part that may stand between slashes. -/
def IsPart (cs : List Char) : Prop := cs ≠ [] ∧ '/' ∉ cs

theorem isPart_of_mem_parts {p : Path} {cs : List Char} (h : cs ∈ p.parts) : IsPart cs := by
  -- a dot in front is dropped or kept, but every part is one of the pieces that are not empty
  have hpiece : cs ∈ (splitOn '/' p.text.toList).filter (!·.isEmpty) := by
    unfold parts at h
    dsimp only at h
    split at h
    · simp at h
    next first rest hs =>
      rw [hs]
      split at h
      · exact List.mem_cons_of_mem _ (List.mem_of_mem_filter h)
      · rcases List.mem_cons.mp h with rfl | h
        · exact List.mem_cons_self
        · exact List.mem_cons_of_mem _ (List.mem_of_mem_filter h)
  obtain ⟨hmem, hne⟩ := List.mem_filter.mp hpiece
  exact ⟨by simpa using hne, not_mem_of_mem_splitOn '/' hmem⟩

/-- The names of parts, without dots. -/
def named (parts : List (List Char)) : List String :=
  (parts.map String.ofList).filter (!Place.isIdle ·)

theorem named_append (ps qs : List (List Char)) : named (ps ++ qs) = named ps ++ named qs := by
  simp [named]

theorem named_filter_dots (ps : List (List Char)) :
    named (ps.filter (· != ['.'])) = named ps := by
  induction ps with
  | nil => rfl
  | cons cs ps ih =>
    by_cases h : cs = ['.']
    · rw [List.filter_cons_of_neg (by simp [h]), ih, h]
      rfl
    · rw [List.filter_cons_of_pos (by simpa using h), ← List.singleton_append, named_append, ih,
        ← named_append, List.singleton_append]

theorem named_filter_nonempty (ps : List (List Char)) :
    named (ps.filter (!·.isEmpty)) = named ps := by
  induction ps with
  | nil => rfl
  | cons cs ps ih =>
    cases cs with
    | nil =>
      rw [List.filter_cons_of_neg (by simp), ih]
      rfl
    | cons c cs =>
      rw [List.filter_cons_of_pos (by simp), ← List.singleton_append, named_append, ih,
        ← named_append, List.singleton_append]

theorem steps_eq_named (p : Path) : p.steps = named (splitOn '/' p.text.toList) := rfl

theorem named_parts (p : Path) : named p.parts = p.steps := by
  rw [steps_eq_named, ← named_filter_nonempty (splitOn '/' p.text.toList)]
  unfold parts
  dsimp only
  split
  next h => rw [h]
  next first rest h =>
    have hcons : ∀ cs : List (List Char), named (first :: cs) = named [first] ++ named cs :=
      fun cs => named_append [first] cs
    rw [h, hcons]
    split
    -- a dot right behind the root is left out, and it names nothing
    next hdot =>
      simp only [Bool.and_eq_true, beq_iff_eq] at hdot
      rw [named_filter_dots, hdot.2]
      rfl
    · rw [hcons, named_filter_dots]

theorem named_splitOn_join {ps : List (List Char)} (h : ∀ cs ∈ ps, IsPart cs) :
    named (splitOn '/' (Text.join ['/'] ps)) = named ps := by
  cases ps with
  | nil => rfl
  | cons cs ps => rw [splitOn_join '/' (by simp) fun q hq => (h q hq).2]

theorem steps_ofParts (absolute : Bool) {ps : List (List Char)} (h : ∀ cs ∈ ps, IsPart cs) :
    (ofParts absolute ps).steps = named ps := by
  rw [steps_eq_named, ofParts, String.toList_ofList]
  split
  · rw [← List.nil_append ('/' :: _), splitOn_append_cons, named_append, named_splitOn_join h]
    rfl
  · exact named_splitOn_join h

theorem startOf_ofParts (absolute : Bool) {ps : List (List Char)} (h : ∀ cs ∈ ps, IsPart cs) :
    startOf (ofParts absolute ps) = if absolute then ["/"] else [] := by
  have habs : (ofParts absolute ps).isAbsolute = absolute := by
    unfold isAbsolute ofParts
    rw [String.toList_ofList]
    cases absolute with
    | true => rfl
    | false =>
      cases ps with
      | nil => rfl
      | cons cs ps =>
        obtain ⟨hne, hslash⟩ := h cs (by simp)
        obtain ⟨c, rest, rfl⟩ := List.exists_cons_of_ne_nil hne
        have hc : c ≠ '/' := fun hc => hslash (by simp [hc])
        -- a part starts with something other than a slash, and so does the path made of parts
        have hhead : (Text.join ['/'] ((c :: rest) :: ps)).head? = some c := by
          cases ps <;> rfl
        simp [hhead, hc]
  unfold startOf
  rw [habs]

/-! ## Below a path -/

theorem isAbsolute_of_isProper {name : String} (h : Place.IsProper name) :
    (Path.mk name).isAbsolute = false := by
  unfold isAbsolute
  rw [beq_eq_false_iff_ne]
  intro hhead
  exact h.slash (List.mem_of_head? hhead)

theorem text_child {name : String} (h : Place.IsProper name) (p : Path) :
    (p.child name).text.toList = p.text.toList ++ name.toList ∧
        (p.text.toList = [] ∨ p.text.toList.getLast? = some '/') ∨
      (p.child name).text.toList = p.text.toList ++ '/' :: name.toList ∧ p.text.toList ≠ [] := by
  unfold child join
  rw [isAbsolute_of_isProper h, if_neg Bool.false_ne_true]
  -- a slash is put between them unless the path is empty or ends with one
  split
  next hend =>
    left
    rw [Bool.or_eq_true, String.isEmpty_iff, ← String.toList_eq_nil_iff, beq_iff_eq] at hend
    exact ⟨String.toList_append, hend⟩
  next hend =>
    right
    rw [Bool.or_eq_true, String.isEmpty_iff, ← String.toList_eq_nil_iff, not_or] at hend
    refine ⟨?_, hend.1⟩
    rw [String.toList_append, String.toList_append, List.append_assoc]
    rfl

theorem steps_child {name : String} (h : Place.IsProper name) (p : Path) :
    (p.child name).steps = p.steps ++ [name] := by
  have hname : named (splitOn '/' name.toList) = [name] := by
    rw [splitOn_of_not_mem '/' h.slash]
    simp [named, h.idle]
  rw [steps_eq_named, steps_eq_named]
  -- the three ways of putting the name behind the path give the same steps
  rcases text_child h p with ⟨ht, hp | hp⟩ | ⟨ht, -⟩
  · rw [ht, hp, List.nil_append, hname]
    rfl
  · obtain ⟨front, hfront⟩ := List.getLast?_eq_some_iff.mp hp
    rw [ht, hfront, List.append_assoc, List.singleton_append, splitOn_append_cons,
      splitOn_append_cons, named_append, named_append, hname]
    simp [splitOn, named, Place.isIdle]
  · rw [ht, splitOn_append_cons, named_append, hname]

theorem isAbsolute_child {name : String} (h : Place.IsProper name) (p : Path) :
    (p.child name).isAbsolute = p.isAbsolute := by
  have hname := isAbsolute_of_isProper h
  unfold isAbsolute at hname ⊢
  rcases text_child h p with ⟨ht, hp | hp⟩ | ⟨ht, hp⟩
  · rw [ht, hp]
    exact hname
  · rw [ht]
    cases hl : p.text.toList with
    | nil => simp [hl] at hp
    | cons c cs => rfl
  · rw [ht]
    obtain ⟨c, cs, hl⟩ := List.exists_cons_of_ne_nil hp
    rw [hl]
    rfl

theorem startOf_child {name : String} (h : Place.IsProper name) (p : Path) :
    startOf (p.child name) = startOf p := by
  unfold startOf
  rw [isAbsolute_child h]

theorem place_child {name : String} (h : Place.IsProper name) (p : Path) :
    (p.child name).place = p.place ++ [name] := by
  unfold place
  rw [steps_child h, startOf_child h, List.foldl_append, List.foldl_cons, List.foldl_nil,
    Place.enter_of_isProper h]

/-- One more name leads to one more place. -/
theorem mem_trail_child {name : String} (h : Place.IsProper name) (p : Path) {q : Place} :
    q ∈ (p.child name).trail ↔ q ∈ p.trail ∨ q = p.place ++ [name] := by
  unfold trail place Place.trail
  rw [steps_child h, startOf_child h, Place.passed_append, List.foldl_append, List.foldl_cons,
    List.foldl_nil, Place.enter_of_isProper h]
  simp [Place.passed, or_assoc]

/-! ## Around a path -/

theorem parts_child {name : String} (h : Place.IsProper name) (p : Path) :
    (p.child name).parts ≠ [] ∧ (p.child name).parts.dropLast = p.parts := by
  have hne : name.toList ≠ [] := by
    intro h0
    have hidle := h.idle
    rw [String.toList_eq_nil_iff.mp h0] at hidle
    exact absurd hidle (by decide)
  -- neither filter of the parts can take the last name away
  have hdot : name.toList ≠ ['.'] := by
    intro h0
    have hidle := h.idle
    have hname : name = "." := String.toList_inj.mp h0
    rw [hname] at hidle
    exact absurd hidle (by decide)
  have hpieces : (splitOn '/' (p.child name).text.toList).filter (!·.isEmpty) =
      (splitOn '/' p.text.toList).filter (!·.isEmpty) ++ [name.toList] := by
    have hname : (splitOn '/' name.toList).filter (!·.isEmpty) = [name.toList] := by
      rw [splitOn_of_not_mem '/' h.slash]
      simpa using hne
    -- as for the steps, the pieces do not depend on how the slash got there
    rcases text_child h p with ⟨ht, hp | hp⟩ | ⟨ht, -⟩
    · rw [ht, hp, List.nil_append, hname]
      rfl
    · obtain ⟨front, hfront⟩ := List.getLast?_eq_some_iff.mp hp
      rw [ht, hfront, List.append_assoc, List.singleton_append, splitOn_append_cons,
        splitOn_append_cons, List.filter_append, List.filter_append, hname]
      simp [splitOn]
    · rw [ht, splitOn_append_cons, List.filter_append, hname]
  unfold parts
  rw [isAbsolute_child h, hpieces]
  dsimp only
  -- only the first part may be a dot, so the name is looked at differently if it is the first
  cases hs : (splitOn '/' p.text.toList).filter (!·.isEmpty) with
  | nil =>
    simp [hdot]
  | cons first rest =>
    have hrest : (rest ++ [name.toList]).filter (· != ['.']) =
        rest.filter (· != ['.']) ++ [name.toList] := by
      rw [List.filter_append, List.filter_cons_of_pos (by simpa using hdot), List.filter_nil]
    simp only [List.cons_append, hrest]
    split
    · simp
    · simp [List.dropLast_cons_of_ne_nil]

/-- The parent of a path below a folder goes through the steps of the folder. -/
theorem parent?_child {name : String} (h : Place.IsProper name) (p : Path) :
    ∃ q, (p.child name).parent? = some q ∧ q.steps = p.steps ∧ startOf q = startOf p := by
  obtain ⟨hne, hdrop⟩ := parts_child h p
  refine ⟨ofParts p.isAbsolute p.parts, ?_, ?_, ?_⟩
  · unfold parent?
    rw [if_neg (by simpa using hne), hdrop, isAbsolute_child h]
    rfl
  · rw [steps_ofParts _ fun cs => isPart_of_mem_parts, named_parts]
  · rw [startOf_ofParts _ fun cs => isPart_of_mem_parts]
    rfl

/-- The folders around a path lie on its trail. -/
theorem mem_trail_of_mem_withParents {p q : Path} (h : q ∈ p.withParents) :
    q.place ∈ p.trail := by
  unfold withParents at h
  rcases List.mem_cons.mp h with rfl | h
  · exact q.place_mem_trail
  · obtain ⟨n, -, hn⟩ := List.mem_filterMap.mp h
    dsimp only at hn
    split at hn
    · simp at hn
    · rw [Option.some.injEq] at hn
      have hparts : ∀ cs ∈ p.parts.take n, IsPart cs := fun cs hcs =>
        isPart_of_mem_parts (List.mem_of_mem_take hcs)
      have hq : q = ofParts p.isAbsolute (p.parts.take n) := hn.symm
      have hstart : startOf q = startOf p := by
        rw [hq, startOf_ofParts _ hparts]
        rfl
      -- the folder has the first parts of the path, so its trail is the start of the trail
      have hsteps : p.steps = q.steps ++ named (p.parts.drop n) := by
        rw [hq, steps_ofParts _ hparts, ← named_append, List.take_append_drop, named_parts]
      unfold place trail
      rw [hsteps, hstart]
      exact Place.mem_trail_append (Place.last_mem_trail _ _)

end Path

namespace Workspace

theorem text_withoutSlashes (p : Path) :
    ∃ n, p.text.toList = (withoutSlashes p).text.toList ++ List.replicate n '/' ∧
      (p.text.toList ≠ [] → (withoutSlashes p).text.toList ≠ []) := by
  unfold withoutSlashes
  dsimp only
  split
  next h => exact ⟨0, by simp, id⟩
  next h =>
    rw [String.toList_ofList]
    refine ⟨(p.text.toList.reverse.takeWhile (· == '/')).length, ?_, fun _ => by simpa using h⟩
    -- the slashes at the end are the ones that the reversed text begins with
    have hsplit := List.takeWhile_append_dropWhile (p := (· == '/')) (l := p.text.toList.reverse)
    have hall : p.text.toList.reverse.takeWhile (· == '/') =
        List.replicate (p.text.toList.reverse.takeWhile (· == '/')).length '/' := by
      rw [List.eq_replicate_iff]
      exact ⟨rfl, fun c hc => by simpa using List.mem_takeWhile_imp hc⟩
    have hrev := congrArg List.reverse hsplit
    rw [List.reverse_append, List.reverse_reverse, hall, List.reverse_replicate] at hrev
    exact hrev.symm

theorem steps_withoutSlashes (p : Path) : (withoutSlashes p).steps = p.steps := by
  obtain ⟨n, ht, -⟩ := text_withoutSlashes p
  rw [Path.steps_eq_named, Path.steps_eq_named, ht]
  clear ht
  induction n with
  | zero => simp
  | succ n ih =>
    rw [List.replicate_succ', ← List.append_assoc, splitOn_append_cons,
      Path.named_append, ← ih]
    simp [splitOn, Path.named, Place.isIdle]

theorem startOf_withoutSlashes (p : Path) : startOf (withoutSlashes p) = startOf p := by
  obtain ⟨n, ht, hne⟩ := text_withoutSlashes p
  have habs : (withoutSlashes p).isAbsolute = p.isAbsolute := by
    unfold Path.isAbsolute
    rw [ht]
    cases hl : (withoutSlashes p).text.toList with
    | nil =>
      have h0 : p.text.toList = [] := by
        by_contra h0
        exact hne h0 hl
      rw [ht, hl, List.nil_append] at h0
      rw [h0]
      rfl
    | cons c cs => rfl
  unfold startOf
  rw [habs]

theorem place_withoutSlashes (p : Path) : (withoutSlashes p).place = p.place := by
  unfold Path.place
  rw [steps_withoutSlashes, startOf_withoutSlashes]

end Workspace

end Signoff
