import Signoff.Figures.Codec
import Signoff.Proofs.Json.Fields

/-!
# Reading figures back

Figures in which all real numbers are finite are read back from their JSON form (`ofJson?_toJson`).
What is not finite is written as `null`, which no reader of a real number that must be there takes.

No reader of real numbers takes one that is too large to be finite, so whatever is read from a
document has finite figures (`isFinite_of_ofJson?`), and these are the ones that survive being
written (`ofJson?_toJson_iff`).
-/

namespace Signoff

open Json Number

theorem Flow.ofName?_name (flow : Flow) : Flow.ofName? flow.name = some flow := by
  cases flow <;> decide

theorem FlowState.ofName?_name (state : FlowState) : FlowState.ofName? state.name = some state := by
  cases state <;> decide

/-! ## Finite figures -/

/-- An optional number is finite where it is present. -/
def FiniteIfSome (x : Option Binary64) : Prop := ∀ y, x = some y → y.isFinite = true

structure Slack.IsFinite (s : Slack) : Prop where
  worst : FiniteIfSome s.worst
  total : FiniteIfSome s.total

structure SlackReport.IsFinite (r : SlackReport) : Prop where
  setup : ∀ s, r.setup = some s → s.IsFinite
  hold : ∀ s, r.hold = some s → s.IsFinite
  worst : r.worst.isFinite = true
  total : FiniteIfSome r.total

structure ClockTree.IsFinite (c : ClockTree) : Prop where
  latency : c.latency.isFinite = true
  skew : FiniteIfSome c.skew

structure ClockReport.IsFinite (r : ClockReport) : Prop where
  clocks : ∀ c ∈ r.clocks, c.IsFinite
  latency : r.worstLatency.isFinite = true

/-- All real numbers are finite. -/
def Figures.IsFinite : Figures → Prop
  | .timing r => r.IsFinite
  | .clock r => r.IsFinite
  | _ => True

/-! ## Spelling -/

theorem FlowResult.isSpelled_toJson (r : FlowResult) : r.toJson.IsSpelled := by
  refine isSpelled_ofMembers ?_
  simp [isSpelled_ofOption]

theorem FlowReport.isSpelled_toJson (r : FlowReport) : r.toJson.IsSpelled := by
  refine isSpelled_ofMembers ?_
  simp [isSpelled_array, FlowResult.isSpelled_toJson]

theorem Slack.isSpelled_toJson (s : Slack) : s.toJson.IsSpelled := by
  refine isSpelled_ofMembers ?_
  simp [isSpelled_ofOption]

theorem SlackReport.isSpelled_toJson (r : SlackReport) : r.toJson.IsSpelled := by
  refine isSpelled_ofMembers ?_
  simp [isSpelled_ofOption, Slack.isSpelled_toJson]

theorem RuleCounts.isSpelled_toJson (r : RuleCounts) : r.toJson.IsSpelled := by
  refine isSpelled_ofMembers ?_
  simp [isSpelled_ofOption]

theorem ClockTree.isSpelled_toJson (c : ClockTree) : c.toJson.IsSpelled := by
  refine isSpelled_ofMembers ?_
  simp [isSpelled_ofOption]

theorem ClockReport.isSpelled_toJson (r : ClockReport) : r.toJson.IsSpelled := by
  refine isSpelled_ofMembers ?_
  simp [isSpelled_array, ClockTree.isSpelled_toJson]

theorem AttemptTally.isSpelled_toJson (t : AttemptTally) : t.toJson.IsSpelled := by
  refine isSpelled_ofMembers ?_
  simp [isSpelled_ofOption]

theorem CheckerCount.isSpelled_toJson (c : CheckerCount) : c.toJson.IsSpelled := by
  refine isSpelled_ofMembers ?_
  simp

theorem FindingCounts.isSpelled_toJson (f : FindingCounts) : f.toJson.IsSpelled := by
  refine isSpelled_ofMembers ?_
  simp [isSpelled_array, CheckerCount.isSpelled_toJson]

/-- Figures are spelled as the reader of documents expects, also where they are not finite. -/
theorem Figures.isSpelled_toJson (f : Figures) : f.toJson.IsSpelled := by
  -- the tag makes no difference for the spelling
  have htagged : ∀ tag (values : Json), values.IsSpelled → (tagged tag values).IsSpelled := by
    intro tag values h
    refine isSpelled_ofMembers ?_
    simp [h]
  cases f with
  | none => exact isSpelled_ofMembers (by simp)
  | formal r => exact htagged _ _ r.isSpelled_toJson
  | timing r => exact htagged _ _ r.isSpelled_toJson
  | physical r => exact htagged _ _ r.isSpelled_toJson
  | clock r => exact htagged _ _ r.isSpelled_toJson
  | release r => exact htagged _ _ r.isSpelled_toJson
  | gateLevel r => exact htagged _ _ r.isSpelled_toJson

/-! ## Reading -/

theorem may?_count (n : Option UInt64) :
    may? uint64? (some (ofOption (fun n => ofNat n.toNat) n)) = some n :=
  may?_ofOption (fun a _ => uint64?_ofNat a) rfl

theorem may?_real {x : Option Binary64} (h : FiniteIfSome x) :
    may? real? (some (ofOption ofReal x)) = some x :=
  may?_ofOption (fun y hy => real?_ofReal (h y hy)) rfl

theorem FlowResult.ofJson?_toJson (r : FlowResult) : ofJson? name? r.toJson = some r := by
  have hflow : (name? (ofText r.flow.name)).bind Flow.ofName? = some r.flow := r.flow.ofName?_name
  have hstate : (name? (ofText r.state.name)).bind FlowState.ofName? = some r.state :=
    r.state.ofName?_name
  unfold ofJson? toJson
  rw [fields?_ofMembers (by rfl) (by decide)]
  simp only [List.map_cons, List.map_nil, Option.bind_eq_bind, Option.bind_some, need?_some,
    may?_count, hflow, hstate]
  rfl

theorem FlowReport.ofJson?_toJson (r : FlowReport) : ofJson? name? r.toJson = some r := by
  have hflows := @listOf?_map _ FlowResult.toJson (FlowResult.ofJson? name?) r.flows
    fun a _ => a.ofJson?_toJson
  unfold ofJson? toJson
  rw [fields?_ofMembers (by rfl) (by decide)]
  simp only [List.map_cons, List.map_nil, Option.bind_eq_bind, Option.bind_some, need?_some, hflows]
  rfl

theorem Slack.ofJson?_toJson {s : Slack} (h : s.IsFinite) : ofJson? s.toJson = some s := by
  unfold ofJson? toJson
  rw [fields?_ofMembers (by rfl) (by decide)]
  simp only [List.map_cons, List.map_nil, Option.bind_eq_bind, Option.bind_some, may?_count,
    may?_real h.worst, may?_real h.total]
  rfl

theorem SlackReport.ofJson?_toJson {r : SlackReport} (h : r.IsFinite) :
    ofJson? r.toJson = some r := by
  have hsetup : may? Slack.ofJson? (some (ofOption Slack.toJson r.setup)) = some r.setup :=
    may?_ofOption (fun s hs => Slack.ofJson?_toJson (h.setup s hs)) rfl
  have hhold : may? Slack.ofJson? (some (ofOption Slack.toJson r.hold)) = some r.hold :=
    may?_ofOption (fun s hs => Slack.ofJson?_toJson (h.hold s hs)) rfl
  unfold ofJson? toJson
  rw [fields?_ofMembers (by rfl) (by decide)]
  simp only [List.map_cons, List.map_nil, Option.bind_eq_bind, Option.bind_some, need?_some,
    may?_count, hsetup, hhold, real?_ofReal h.worst, may?_real h.total]
  rfl

theorem RuleCounts.ofJson?_toJson (r : RuleCounts) : ofJson? r.toJson = some r := by
  unfold ofJson? toJson
  dsimp only
  rw [fields?_ofMembers (by rfl) (by decide)]
  simp only [List.map_cons, List.map_nil, Option.bind_eq_bind, Option.bind_some, may?_count]
  rfl

theorem ClockTree.ofJson?_toJson {c : ClockTree} (h : c.IsFinite) :
    ofJson? c.toJson = some c := by
  have hname : text? (ofText c.name) = some c.name := rfl
  unfold ofJson? toJson
  rw [fields?_ofMembers (by rfl) (by decide)]
  simp only [List.map_cons, List.map_nil, Option.bind_eq_bind, Option.bind_some, need?_some,
    hname, real?_ofReal h.latency, may?_real h.skew]
  rfl

theorem ClockReport.ofJson?_toJson {r : ClockReport} (h : r.IsFinite) :
    ofJson? r.toJson = some r := by
  have hclocks := @listOf?_map _ ClockTree.toJson ClockTree.ofJson? r.clocks
    fun c hc => ClockTree.ofJson?_toJson (h.clocks c hc)
  have hname : text? (ofText r.worstClock) = some r.worstClock := rfl
  unfold ofJson? toJson
  rw [fields?_ofMembers (by rfl) (by decide)]
  simp only [List.map_cons, List.map_nil, Option.bind_eq_bind, Option.bind_some, need?_some,
    hclocks, hname, real?_ofReal h.latency]
  rfl

theorem AttemptTally.ofJson?_toJson (t : AttemptTally) : ofJson? t.toJson = some t := by
  have hlatest : may? text? (some (ofOption ofText t.latest)) = some t.latest :=
    may?_ofOption (fun _ _ => rfl) rfl
  unfold ofJson? toJson
  rw [fields?_ofMembers (by rfl) (by decide)]
  simp only [List.map_cons, List.map_nil, Option.bind_eq_bind, Option.bind_some, need?_some,
    uint32?_ofNat, hlatest]
  rfl

theorem CheckerCount.ofJson?_toJson (c : CheckerCount) : ofJson? c.toJson = some c := by
  have hchecker : text? (ofText c.checker) = some c.checker := rfl
  unfold ofJson? toJson
  rw [fields?_ofMembers (by rfl) (by decide)]
  simp only [List.map_cons, List.map_nil, Option.bind_eq_bind, Option.bind_some, need?_some,
    uint64?_ofNat, hchecker]
  rfl

theorem FindingCounts.ofJson?_toJson (f : FindingCounts) : ofJson? f.toJson = some f := by
  have hcheckers := @listOf?_map _ CheckerCount.toJson CheckerCount.ofJson? f.topCheckers
    fun c _ => c.ofJson?_toJson
  unfold ofJson? toJson
  rw [fields?_ofMembers (by rfl) (by decide)]
  simp only [List.map_cons, List.map_nil, Option.bind_eq_bind, Option.bind_some, need?_some,
    uint64?_ofNat, hcheckers]
  rfl

namespace Figures

/-- The writer puts the tag in front, so the values are read for what the tag says. -/
theorem ofJson?_tagged (outer : Nat) (tag : String) (values : Json) :
    ofJson? outer (tagged tag values) = ofTag? name? tag (some values) := by
  have hfields : (tagged tag values).fields? ["domain", "values"] =
      some [some (ofText tag), some values] := fields?_ofMembers (by rfl) (by decide)
  unfold tagged ofMembers at hfields ⊢
  simp only [ofJson?, hfields, Option.bind_eq_bind, Option.bind_some, need?_some]
  rfl

/-- Finite figures are read back from what they are written as. -/
theorem ofJson?_toJson {f : Figures} (h : f.IsFinite) (outer : Nat) :
    ofJson? outer f.toJson = some f := by
  cases f with
  | none => rfl
  | formal r =>
    rw [toJson, ofJson?_tagged]
    show (FlowReport.ofJson? name? r.toJson).map formal = _
    rw [r.ofJson?_toJson]
    rfl
  | timing r =>
    rw [toJson, ofJson?_tagged]
    show (SlackReport.ofJson? r.toJson).map timing = _
    rw [SlackReport.ofJson?_toJson h]
    rfl
  | physical r =>
    rw [toJson, ofJson?_tagged]
    show (RuleCounts.ofJson? r.toJson).map physical = _
    rw [r.ofJson?_toJson]
    rfl
  | clock r =>
    rw [toJson, ofJson?_tagged]
    show (ClockReport.ofJson? r.toJson).map clock = _
    rw [ClockReport.ofJson?_toJson h]
    rfl
  | release t =>
    rw [toJson, ofJson?_tagged]
    show (AttemptTally.ofJson? t.toJson).map release = _
    rw [t.ofJson?_toJson]
    rfl
  | gateLevel r =>
    rw [toJson, ofJson?_tagged]
    show (FindingCounts.ofJson? r.toJson).map gateLevel = _
    rw [r.ofJson?_toJson]
    rfl

end Figures

/-! ## What is read -/

namespace Json

theorem isFinite_of_real? {j : Json} {x : Binary64} (h : real? j = some x) :
    x.isFinite = true := by
  unfold real? at h
  split at h
  · split at h
    next hfinite => rwa [← Option.some.inj h]
    next => exact nomatch h
  · exact nomatch h

theorem isFinite_of_need? {field : Option Json} {x : Binary64}
    (h : need? real? field = some x) : x.isFinite = true := by
  obtain ⟨j, -, hj⟩ := Option.bind_eq_some_iff.mp h
  exact isFinite_of_real? hj

/-- An optional value that was read has what every value of its reader has. -/
theorem of_may? {α : Type} {read : Json → Option α} {p : α → Prop}
    (hread : ∀ j a, read j = some a → p a) {field : Option Json} {value : Option α}
    (h : may? read field = some value) : ∀ a, value = some a → p a := by
  rintro a rfl
  cases field with
  | none => exact nomatch h
  | some j =>
    dsimp only [may?] at h
    unfold optional? at h
    split at h
    · exact nomatch h
    · obtain ⟨b, hb, hba⟩ := Option.map_eq_some_iff.mp h
      exact hread _ a (hb.trans hba)

/-- So have all members of a list that was read. -/
theorem of_listOf? {α : Type} {read : Json → Option α} {p : α → Prop}
    (hread : ∀ j a, read j = some a → p a) {field : Option Json} {values : List α}
    (h : need? (listOf? read) field = some values) : ∀ a ∈ values, p a := by
  obtain ⟨j, -, hj⟩ := Option.bind_eq_some_iff.mp h
  unfold listOf? at hj
  split at hj
  next items =>
    clear h
    induction items generalizing values with
    | nil =>
      cases hj
      exact nofun
    | cons item items ih =>
      rw [List.mapM_cons] at hj
      simp only [Option.bind_eq_bind, Option.bind_eq_some_iff, Option.pure_def,
        Option.some.injEq] at hj
      obtain ⟨a, ha, rest, hrest, rfl⟩ := hj
      intro b hb
      rcases List.mem_cons.mp hb with rfl | hb
      · exact hread item b ha
      · exact ih hrest b hb
  next => exact nomatch hj

end Json

theorem finiteIfSome_of_may? {field : Option Json} {x : Option Binary64}
    (h : may? real? field = some x) : FiniteIfSome x :=
  of_may? (fun _ _ => isFinite_of_real?) h

theorem Slack.isFinite_of_ofJson? {j : Json} {s : Slack} (h : ofJson? j = some s) :
    s.IsFinite := by
  unfold ofJson? at h
  obtain ⟨fields, -, h⟩ := Option.bind_eq_some_iff.mp h
  split at h
  · simp only [Option.bind_eq_bind, Option.bind_eq_some_iff, Option.pure_def,
      Option.some.injEq] at h
    obtain ⟨worst, hworst, total, htotal, violations, -, rfl⟩ := h
    exact ⟨finiteIfSome_of_may? hworst, finiteIfSome_of_may? htotal⟩
  · exact nomatch h

theorem SlackReport.isFinite_of_ofJson? {j : Json} {r : SlackReport} (h : ofJson? j = some r) :
    r.IsFinite := by
  unfold ofJson? at h
  obtain ⟨fields, -, h⟩ := Option.bind_eq_some_iff.mp h
  split at h
  · simp only [Option.bind_eq_bind, Option.bind_eq_some_iff, Option.pure_def,
      Option.some.injEq] at h
    obtain ⟨setup, hsetup, hold, hhold, worst, hworst, total, htotal, violations, -, rfl⟩ := h
    exact ⟨of_may? (fun _ _ => Slack.isFinite_of_ofJson?) hsetup,
      of_may? (fun _ _ => Slack.isFinite_of_ofJson?) hhold, isFinite_of_need? hworst,
      finiteIfSome_of_may? htotal⟩
  · exact nomatch h

theorem ClockTree.isFinite_of_ofJson? {j : Json} {c : ClockTree} (h : ofJson? j = some c) :
    c.IsFinite := by
  unfold ofJson? at h
  obtain ⟨fields, -, h⟩ := Option.bind_eq_some_iff.mp h
  split at h
  · simp only [Option.bind_eq_bind, Option.bind_eq_some_iff, Option.pure_def,
      Option.some.injEq] at h
    obtain ⟨name, -, latency, hlatency, skew, hskew, rfl⟩ := h
    exact ⟨isFinite_of_need? hlatency, finiteIfSome_of_may? hskew⟩
  · exact nomatch h

theorem ClockReport.isFinite_of_ofJson? {j : Json} {r : ClockReport} (h : ofJson? j = some r) :
    r.IsFinite := by
  unfold ofJson? at h
  obtain ⟨fields, -, h⟩ := Option.bind_eq_some_iff.mp h
  split at h
  · simp only [Option.bind_eq_bind, Option.bind_eq_some_iff, Option.pure_def,
      Option.some.injEq] at h
    obtain ⟨clocks, hclocks, latency, hlatency, name, -, rfl⟩ := h
    exact ⟨of_listOf? (fun _ _ => ClockTree.isFinite_of_ofJson?) hclocks,
      isFinite_of_need? hlatency⟩
  · exact nomatch h

namespace Figures

theorem isFinite_of_ofTag? {readName? : Json → Option String} {tag : String}
    {values : Option Json} {f : Figures} (h : ofTag? readName? tag values = some f) :
    f.IsFinite := by
  unfold ofTag? at h
  split at h
  · split at h
    · cases h
      trivial
    · cases h
      trivial
    · exact nomatch h
  split at h
  · obtain ⟨r, -, rfl⟩ := Option.map_eq_some_iff.mp h
    trivial
  split at h
  · obtain ⟨r, hr, rfl⟩ := Option.map_eq_some_iff.mp h
    obtain ⟨j, -, hj⟩ := Option.bind_eq_some_iff.mp hr
    exact SlackReport.isFinite_of_ofJson? hj
  split at h
  · obtain ⟨r, -, rfl⟩ := Option.map_eq_some_iff.mp h
    trivial
  split at h
  · obtain ⟨r, hr, rfl⟩ := Option.map_eq_some_iff.mp h
    obtain ⟨j, -, hj⟩ := Option.bind_eq_some_iff.mp hr
    exact ClockReport.isFinite_of_ofJson? hj
  split at h
  · obtain ⟨r, -, rfl⟩ := Option.map_eq_some_iff.mp h
    trivial
  split at h
  · obtain ⟨r, -, rfl⟩ := Option.map_eq_some_iff.mp h
    trivial
  · exact nomatch h

/-- Figures that were read are finite, whatever the document. -/
theorem isFinite_of_ofJson? {outer : Nat} {j : Json} {f : Figures}
    (h : ofJson? outer j = some f) : f.IsFinite := by
  unfold ofJson? at h
  split at h
  · obtain ⟨tag, -, htag⟩ := Option.bind_eq_some_iff.mp h
    exact isFinite_of_ofTag? htag
  · obtain ⟨fields, -, h⟩ := Option.bind_eq_some_iff.mp h
    split at h
    · obtain ⟨tag, -, h⟩ := Option.bind_eq_some_iff.mp h
      split at h
      · split at h
        · exact isFinite_of_ofTag? h
        · exact nomatch h
      · exact isFinite_of_ofTag? h
    · exact nomatch h
  · exact nomatch h

/-- Figures survive being written exactly if they are finite. -/
theorem ofJson?_toJson_iff (f : Figures) (outer : Nat) :
    ofJson? outer f.toJson = some f ↔ f.IsFinite :=
  ⟨isFinite_of_ofJson?, fun h => ofJson?_toJson h outer⟩

end Figures

end Signoff
