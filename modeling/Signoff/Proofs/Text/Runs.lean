import Signoff.Proofs.Text.Separated
import Signoff.Text.Scan

/-!
# Parts of a text

What a reader takes from a line stands in the line, and so do the lines of a text in the text. A
bound on how many digits stand in a row in a text holds for all its parts.
-/

namespace Signoff.Text

/-! ## Parts -/

theorem trimStart_suffix (cs : List Char) : trimStart cs <:+ cs := List.dropWhile_suffix isBlank

theorem infix_trim (cs : List Char) : trim cs <:+: cs := by
  have hend : (trim cs).reverse <:+ (trimStart cs).reverse := by
    rw [trim, trimEnd, List.reverse_reverse]
    exact List.dropWhile_suffix isBlank
  exact (List.reverse_suffix.mp hend).isInfix.trans (trimStart_suffix cs).isInfix

theorem afterMark?_suffix {cs rest : List Char} (h : afterMark? cs = some rest) : rest <:+ cs := by
  unfold afterMark? at h
  split at h
  next c more heq =>
    split at h
    · obtain rfl := Option.some.inj h
      refine (trimStart_suffix more).trans (.trans ?_ (trimStart_suffix cs))
      rw [heq]
      exact List.suffix_cons c more
    · exact nomatch h
  next => exact nomatch h

theorem skipMark_suffix (cs : List Char) : skipMark cs <:+ cs := by
  unfold skipMark
  cases h : afterMark? cs with
  | none => exact trimStart_suffix cs
  | some rest => exact afterMark?_suffix h

theorem keyword?_suffix {ks cs word rest : List Char} (h : keyword? ks cs = some (word, rest)) :
    rest <:+ cs := by
  rw [keyword?_append h]
  exact List.suffix_append word rest

theorem firstKeyword?_suffix {words : List (List Char)} {cs word rest : List Char}
    (h : firstKeyword? words cs = some (word, rest)) : rest <:+ cs := by
  obtain ⟨ks, -, hks⟩ := List.exists_of_findSome?_eq_some h
  exact keyword?_suffix hks

theorem run?_eq {kind : Char → Bool} {cs taken rest : List Char}
    (h : run? kind cs = some (taken, rest)) :
    cs = taken ++ rest ∧ ∀ c ∈ taken, kind c = true := by
  unfold run? at h
  dsimp only at h
  split at h
  · exact nomatch h
  · obtain ⟨rfl, rfl⟩ := Prod.mk.inj (Option.some.inj h)
    exact ⟨(List.takeWhile_append_dropWhile).symm, fun c hc => List.mem_takeWhile_imp hc⟩

/-- A place where a reader takes something. -/
theorem exists_of_firstFrom? {α : Type} {read : Option Char → List Char → Option α}
    {before : Option Char} {cs : List Char} {a : α} (h : firstFrom? read before cs = some a) :
    ∃ b s, s <:+ cs ∧ read b s = some a := by
  induction cs generalizing before with
  | nil => exact nomatch h
  | cons c cs ih =>
    rw [firstFrom?] at h
    split at h
    next hread =>
      rw [h] at hread
      exact ⟨before, c :: cs, List.suffix_refl _, hread⟩
    next =>
      obtain ⟨b, s, hs, hread⟩ := ih h
      exact ⟨b, s, hs.trans (List.suffix_cons c cs), hread⟩

theorem exists_of_mem_allFrom {α : Type}
    {read : Option Char → List Char → Option (α × List Char)} {skip : Nat}
    {before : Option Char} {cs : List Char} {a : α} (h : a ∈ allFrom read skip before cs) :
    ∃ b s rest, s <:+ cs ∧ read b s = some (a, rest) := by
  induction cs generalizing skip before with
  | nil => cases skip <;> exact absurd h (by simp [allFrom])
  | cons c cs ih =>
    have hmore : ∀ {skip before}, a ∈ allFrom read skip before cs →
        ∃ b s rest, s <:+ c :: cs ∧ read b s = some (a, rest) := by
      intro skip before hmem
      obtain ⟨b, s, rest, hs, hread⟩ := ih hmem
      exact ⟨b, s, rest, hs.trans (List.suffix_cons c cs), hread⟩
    cases skip with
    | succ skip => exact hmore h
    | zero =>
      rw [allFrom] at h
      split at h
      next a' rest hread =>
        rcases List.mem_cons.mp h with rfl | h
        · exact ⟨before, c :: cs, rest, List.suffix_refl _, hread⟩
        · exact hmore h
      next => exact hmore h

/-! ## Lines -/

theorem infix_dropReturn (cs : List Char) : dropReturn cs <:+: cs := by
  unfold dropReturn
  split
  · exact (List.dropLast_prefix cs).isInfix
  · exact List.infix_rfl

theorem infix_of_mem_join {sep piece : List Char} {pieces : List (List Char)}
    (h : piece ∈ pieces) : piece <:+: join sep pieces := by
  induction pieces with
  | nil => cases h
  | cons first rest ih =>
    cases rest with
    | nil =>
      rw [List.mem_singleton.mp h]
      exact List.infix_rfl
    | cons next rest =>
      rw [join]
      · rcases List.mem_cons.mp h with rfl | h
        · rw [List.append_assoc]
          exact (List.prefix_append _ _).isInfix
        · exact (ih h).trans (List.suffix_append _ _).isInfix
      · exact List.cons_ne_nil next rest

theorem infix_of_mem_splitOn {sep : Char} {cs piece : List Char} (h : piece ∈ splitOn sep cs) :
    piece <:+: cs := by
  have hjoin := @infix_of_mem_join [sep] _ _ h
  rwa [join_splitOn] at hjoin

theorem infix_of_mem_lines {cs line : List Char} (h : line ∈ lines cs) : line <:+: cs := by
  unfold lines at h
  dsimp only at h
  rcases List.mem_append.mp h with h | h
  · obtain ⟨piece, hp, rfl⟩ := List.mem_map.mp h
    exact (infix_dropReturn piece).trans (infix_of_mem_splitOn (List.dropLast_subset _ hp))
  · obtain ⟨hlast, -⟩ := List.mem_filter.mp h
    exact infix_of_mem_splitOn (List.mem_of_getLast? (Option.mem_toList.mp hlast))

theorem feed_not_mem_lines {cs line : List Char} (h : line ∈ lines cs) : '\n' ∉ line := by
  unfold lines at h
  rcases List.mem_append.mp h with h | h
  · obtain ⟨piece, hpiece, rfl⟩ := List.mem_map.mp h
    exact fun hc => not_mem_of_mem_splitOn '\n' (List.dropLast_subset _ hpiece)
      ((infix_dropReturn piece).subset hc)
  · have hlast := Option.mem_toList.mp (List.mem_of_mem_filter h)
    exact not_mem_of_mem_splitOn '\n' (List.mem_of_getLast? hlast)

/-! ## Digits in a row -/

/-- At most so many digits and commas stand in a row. -/
def RunsWithin (n : Nat) (cs : List Char) : Prop :=
  ∀ run, run <:+: cs → (∀ c ∈ run, isFigureChar c = true) → run.length ≤ n

theorem RunsWithin.part {n : Nat} {as cs : List Char} (h : RunsWithin n cs) (ha : as <:+: cs) :
    RunsWithin n as :=
  fun run hrun => h run (hrun.trans ha)

theorem runsWithin_of_length {n : Nat} {cs : List Char} (h : cs.length ≤ n) : RunsWithin n cs :=
  fun _ hrun _ => hrun.length_le.trans h

/-- A part without a character lies on one side of it. -/
theorem infix_append_cons {run as bs : List Char} {c : Char} (h : run <:+: as ++ c :: bs)
    (hc : c ∉ run) : run <:+: as ∨ run <:+: bs := by
  obtain ⟨front, back, heq⟩ := h
  rcases List.append_eq_append_iff.mp heq with ⟨more, has, -⟩ | ⟨more, hrun, hbs⟩
  · exact .inl ⟨front, more, has.symm⟩
  · cases more with
    | nil => exact .inl ⟨front, [], by simpa using hrun⟩
    | cons d more =>
      obtain ⟨rfl, rfl⟩ := List.cons.inj hbs
      -- the character stands in front of the part, or it would be in the part
      rcases List.append_eq_append_iff.mp hrun with ⟨start, -, hstart⟩ | ⟨start, -, hstart⟩
      · exact absurd (hstart ▸ by simp) hc
      · cases start with
        | nil => exact absurd (by simpa using congrArg (c ∈ ·) hstart) hc
        | cons e start =>
          obtain ⟨rfl, rfl⟩ := List.cons.inj hstart
          exact .inr ⟨start, back, by simp⟩

/-- Line ends are no digits. -/
theorem runsWithin_join {n : Nat} {pieces : List (List Char)}
    (h : ∀ piece ∈ pieces, RunsWithin n piece) : RunsWithin n (join ['\n'] pieces) := by
  intro run hrun hfigure
  have hend : '\n' ∉ run := fun hmem => absurd (hfigure '\n' hmem) (by decide)
  induction pieces with
  | nil =>
    rw [join, List.infix_nil] at hrun
    rw [hrun]
    exact Nat.zero_le n
  | cons first rest ih =>
    cases rest with
    | nil => exact h first List.mem_cons_self run hrun hfigure
    | cons next rest =>
      rw [join, List.append_assoc, List.singleton_append] at hrun
      · rcases infix_append_cons hrun hend with hrun | hrun
        · exact h first List.mem_cons_self run hrun hfigure
        · exact ih (fun piece hp => h piece (List.mem_cons_of_mem _ hp)) hrun
      · exact List.cons_ne_nil next rest

end Signoff.Text
