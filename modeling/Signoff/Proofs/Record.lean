import Signoff.Artifacts
import Signoff.Proofs.Figures
import Signoff.Proofs.Text.Separated

/-!
# Reading result records back

Escaping keeps bars and line ends out of the fields of a record, so the line is taken apart at the
bars between the fields, and each field is read as it was written.

A line may also spell its status in any letter case, sign its attempts, leave its figures out or
order them in another way, and escape what needs no escape. Whatever it is read as can be kept, and
all that can be kept is read from some line (`exists_decode_iff`). So one normal line stands for all
spellings of a result (`normalised`).
-/

namespace Signoff

open Text Number

theorem Status.ofText?_name (s : Status) : Status.ofText? s.name = some s := by
  cases s <;> decide +kernel

namespace Record

/-! ## Escaped fields -/

theorem split_escapeChar (c : Char) (cs : List Char) :
    split (escapeChar c ++ cs) = push c (split cs) := by
  unfold escapeChar
  split
  next h => rw [h]; rfl
  split
  next h => rw [h]; rfl
  split
  next h => rw [h]; rfl
  split
  next h => rw [h]; rfl
  -- any other character is neither an escape nor a bar
  next hslash hbar _ _ =>
    rw [List.singleton_append, split.eq_def]
    split
    next heq => simp at heq
    next heq => exact absurd (List.cons.inj heq).1 hslash
    next heq => exact absurd (List.cons.inj heq).1 hslash
    next heq =>
      obtain ⟨rfl, rfl⟩ := List.cons.inj heq
      rw [if_neg hbar]

/-- An escaped text in front is the front of the first field. -/
theorem split_escape {first : List Char} {rest : List (List Char)} {cs : List Char}
    (h : split cs = first :: rest) (text : List Char) :
    split (escape text ++ cs) = (text ++ first) :: rest := by
  induction text with
  | nil => exact h
  | cons c text ih =>
    have hcons : escape (c :: text) = escapeChar c ++ escape text := List.flatMap_cons
    rw [hcons, List.append_assoc, split_escapeChar, ih]
    rfl

/-- Escaped fields are found again between the bars. -/
theorem split_join {fields : List (List Char)} (hne : fields ≠ []) :
    split (join ['|'] (fields.map escape)) = fields := by
  induction fields with
  | nil => exact absurd rfl hne
  | cons field rest ih =>
    cases rest with
    | nil =>
      have hlast := @split_escape [] [] [] rfl field
      rw [List.append_nil, List.append_nil] at hlast
      exact hlast
    | cons next rest =>
      -- the bar closes an empty field, which the escaped field in front then fills
      have hbar : split ('|' :: join ['|'] ((next :: rest).map escape)) = [] :: next :: rest := by
        rw [split, if_pos rfl, ih (by simp)]
        · exact fun hslash _ => absurd hslash (by decide)
        · exact fun _ _ hslash _ => absurd hslash (by decide)
      have hfirst := split_escape hbar field
      rw [List.append_nil] at hfirst
      rw [List.map_cons, List.map_cons, join, List.append_assoc, List.singleton_append]
      · exact hfirst
      · simp

/-- Escaping leaves a text alone that has neither backslashes nor bars nor line ends. -/
theorem escape_eq_self {cs : List Char}
    (h : ∀ c ∈ cs, c ≠ '\\' ∧ c ≠ '|' ∧ c ≠ '\n' ∧ c ≠ '\r') : escape cs = cs := by
  induction cs with
  | nil => rfl
  | cons c cs ih =>
    obtain ⟨hslash, hbar, hfeed, hreturn⟩ := h c List.mem_cons_self
    have hcons : escape (c :: cs) = escapeChar c ++ escape cs := List.flatMap_cons
    rw [hcons, ih fun d hd => h d (List.mem_cons_of_mem c hd), escapeChar, if_neg hslash,
      if_neg hbar, if_neg hfeed, if_neg hreturn]
    rfl

theorem not_lineEnd_of_mem_escape {c : Char} {cs : List Char} (h : c ∈ escape cs) :
    c ≠ '\n' ∧ c ≠ '\r' := by
  obtain ⟨d, -, hd⟩ := List.mem_flatMap.mp h
  unfold escapeChar at hd
  split at hd
  · simp only [List.mem_cons, List.not_mem_nil, or_false] at hd
    rcases hd with rfl | rfl <;> decide
  split at hd
  · simp only [List.mem_cons, List.not_mem_nil, or_false] at hd
    rcases hd with rfl | rfl <;> decide
  split at hd
  · simp only [List.mem_cons, List.not_mem_nil, or_false] at hd
    rcases hd with rfl | rfl <;> decide
  split at hd
  · simp only [List.mem_cons, List.not_mem_nil, or_false] at hd
    rcases hd with rfl | rfl <;> decide
  next hfeed hreturn =>
    rw [List.mem_singleton.mp hd]
    exact ⟨hfeed, hreturn⟩

/-! ## Records -/

/-- The fields of a record before they are escaped. -/
def textsOf (r : JobResult) : List (List Char) :=
  [r.status.name.toList, digitsOf r.attempts.toNat, r.details.toList, r.figures.toJson.writeCompact,
    ((r.raw.map (·.text)).getD "").toList]

theorem fieldsOf_eq (r : JobResult) : fieldsOf r = (textsOf r).map escape := by
  -- the names of the states and counts are not escaped, but escaping would not change them
  have hname : escape r.status.name.toList = r.status.name.toList := by
    cases r.status <;> decide
  have hdigits : escape (digitsOf r.attempts.toNat) = digitsOf r.attempts.toNat := by
    refine escape_eq_self fun c hc => ?_
    have hdigit := isDigit_of_mem_digitsOf hc
    refine ⟨?_, ?_, ?_, ?_⟩ <;> (rintro rfl; revert hdigit; decide)
  unfold fieldsOf textsOf
  rw [List.map_cons, List.map_cons, hname, hdigits]
  rfl

theorem split_encode (r : JobResult) : split (encode r).toList = textsOf r := by
  unfold encode
  rw [String.toList_ofList, fieldsOf_eq, split_join (by simp [textsOf])]

theorem not_lineEnd_of_mem_join {fields : List (List Char)} {c : Char}
    (h : c ∈ join ['|'] (fields.map escape)) : c ≠ '\n' ∧ c ≠ '\r' := by
  induction fields with
  | nil => simp [join] at h
  | cons field rest ih =>
    cases rest with
    | nil => exact not_lineEnd_of_mem_escape h
    | cons next rest =>
      rw [List.map_cons, List.map_cons, join, List.mem_append, List.mem_append] at h
      · rcases h with (h | h) | h
        · exact not_lineEnd_of_mem_escape h
        · rw [List.mem_singleton.mp h]
          decide
        · exact ih h
      · simp

/-- A record has no line end inside. -/
theorem not_lineEnd_of_mem_encode {r : JobResult} {c : Char} (h : c ∈ (encode r).toList) :
    c ≠ '\n' ∧ c ≠ '\r' := by
  unfold encode at h
  rw [String.toList_ofList, fieldsOf_eq] at h
  exact not_lineEnd_of_mem_join h

theorem dropLineEnds_encode (r : JobResult) :
    dropLineEnds (encode r).toList = (encode r).toList := by
  -- there are no line ends to drop at the end
  have hfront : (encode r).toList.reverse.dropWhile isLineEnd = (encode r).toList.reverse := by
    rw [List.dropWhile_eq_self_iff]
    intro hpos
    obtain ⟨hfeed, hreturn⟩ := not_lineEnd_of_mem_encode
      (List.mem_reverse.mp (List.getElem_mem hpos))
    rw [isLineEnd, Bool.or_eq_true, beq_iff_eq, beq_iff_eq, not_or]
    exact ⟨hfeed, hreturn⟩
  unfold dropLineEnds
  rw [hfront, List.reverse_reverse]

/-- What a record keeps: the figures are finite and the place of the output is not empty. -/
structure Keeps (r : JobResult) : Prop where
  figures : r.figures.IsFinite
  raw : ∀ path, r.raw = some path → path.text.toList ≠ []

/-- The text of figures is read as the document that they are kept as. -/
theorem readFigures?_writeCompact (f : Figures) :
    readFigures? f.toJson.writeCompact = Figures.ofJson? 0 f.toJson := by
  obtain ⟨c, cs, hwrite⟩ := Json.exists_cons_writeCompact f.isSpelled_toJson
  have hread := Json.read?_compact f.isSpelled_toJson
  unfold readFigures?
  rw [if_neg (by simp [hwrite])]
  unfold Json.compact at hread
  rw [hread, Option.bind_some]

theorem decode_encode_eq (r : JobResult) : decode (encode r) =
    match Figures.ofJson? 0 r.figures.toJson with
    | none => .error .invalidFigures
    | some figures => .ok { r with
        figures
        raw := if ((r.raw.map (·.text)).getD "").toList.isEmpty then none else r.raw } := by
  have hraw : (if ((r.raw.map (·.text)).getD "").toList.isEmpty then none
      else some (Path.mk (String.ofList ((r.raw.map (·.text)).getD "").toList))) =
        if ((r.raw.map (·.text)).getD "").toList.isEmpty then none else r.raw := by
    cases r.raw with
    | none => rfl
    | some path => rw [Option.map_some, Option.getD_some, String.ofList_toList]
  unfold decode
  rw [dropLineEnds_encode, split_encode]
  unfold textsOf decodeFields
  dsimp only
  rw [String.ofList_toList, String.ofList_toList, Status.ofText?_name]
  dsimp only
  rw [readUInt32?_digitsOf]
  dsimp only
  rw [readFigures?_writeCompact]
  cases Figures.ofJson? 0 r.figures.toJson with
  | none => rfl
  | some figures =>
    dsimp only
    rw [hraw]

theorem decode_encode {r : JobResult} (h : Keeps r) : decode (encode r) = .ok r := by
  -- an empty place would stand for no output
  have hraw : (if ((r.raw.map (·.text)).getD "").toList.isEmpty then none else r.raw) = r.raw := by
    cases hpath : r.raw with
    | none => rfl
    | some path =>
      rw [Option.map_some, Option.getD_some, if_neg]
      rw [List.isEmpty_iff]
      exact h.raw path hpath
  rw [decode_encode_eq, Figures.ofJson?_toJson h.figures]
  dsimp only
  rw [hraw]

theorem decodeFile_lineOf_eq (r : JobResult) : decodeFile (lineOf r) = decode (encode r) := by
  -- the record is the one line of its file
  have hline : lines (lineOf r).toList = [(encode r).toList] := by
    have hlines := @lines_flatMap [(encode r).toList] (by
      intro l hl
      rw [List.mem_singleton.mp hl]
      refine ⟨fun hc => (not_lineEnd_of_mem_encode hc).1 rfl, fun hlast => ?_⟩
      exact (not_lineEnd_of_mem_encode (List.mem_of_getLast? hlast)).2 rfl)
    have htext : (lineOf r).toList = (encode r).toList ++ ['\n'] := by
      unfold lineOf
      rw [String.toList_append]
      rfl
    rw [htext]
    simpa using hlines
  unfold decodeFile
  rw [hline, List.head?_cons, Option.getD_some, String.ofList_toList]

theorem decodeFile_lineOf {r : JobResult} (h : Keeps r) : decodeFile (lineOf r) = .ok r := by
  rw [decodeFile_lineOf_eq, decode_encode h]

/-- The record of figures that cannot be read is no record. -/
theorem decodeFile_lineOf_ne_ok {r : JobResult} (h : Figures.ofJson? 0 r.figures.toJson = none)
    (r' : JobResult) : decodeFile (lineOf r) ≠ .ok r' := by
  rw [decodeFile_lineOf_eq, decode_encode_eq, h]
  exact nofun

/-! ## Lines that are read as records -/

/-- What the five fields of a record are read as. -/
theorem decodeFields_eq_ok {fields : List (List Char)} {r : JobResult}
    (h : decodeFields fields = .ok r) :
    ∃ status attempts details figures raw, fields = [status, attempts, details, figures, raw] ∧
      Status.ofText? (String.ofList status) = some r.status ∧
      readUInt32? attempts = some r.attempts ∧ String.ofList details = r.details ∧
      readFigures? figures = some r.figures ∧
      (if raw.isEmpty then none else some (Path.mk (String.ofList raw))) = r.raw := by
  unfold decodeFields at h
  split at h
  next status attempts details figures raw =>
    refine ⟨status, attempts, details, figures, raw, rfl, ?_⟩
    split at h
    · exact nomatch h
    next hstatus =>
      split at h
      · exact nomatch h
      next hattempts =>
        split at h
        · exact nomatch h
        next hfigures =>
          obtain rfl := Except.ok.inj h
          exact ⟨hstatus, hattempts, rfl, hfigures, rfl⟩
  next => exact nomatch h

/-- Figures that a field is read as are finite; an empty field stands for none. -/
theorem isFinite_of_readFigures? {cs : List Char} {f : Figures} (h : readFigures? cs = some f) :
    f.IsFinite := by
  unfold readFigures? at h
  split at h
  · obtain rfl := Option.some.inj h
    trivial
  · obtain ⟨j, -, hj⟩ := Option.bind_eq_some_iff.mp h
    exact Figures.isFinite_of_ofJson? hj

/-- Whatever a line is read as can be kept: the reader takes no number that has no numeral, and
gives no place that would be left out. -/
theorem keeps_of_decode {line : String} {r : JobResult} (h : decode line = .ok r) : Keeps r := by
  obtain ⟨-, -, -, figures, raw, -, -, -, -, hfigures, hraw⟩ := decodeFields_eq_ok h
  refine ⟨isFinite_of_readFigures? hfigures, fun path hpath => ?_⟩
  rw [hpath] at hraw
  split at hraw
  · exact nomatch hraw
  next hne =>
    rw [← Option.some.inj hraw, String.toList_ofList]
    exact fun hnil => hne (List.isEmpty_iff.mpr hnil)

theorem exists_decode_iff (r : JobResult) : (∃ line, decode line = .ok r) ↔ Keeps r :=
  ⟨fun ⟨_, h⟩ => keeps_of_decode h, fun h => ⟨encode r, decode_encode h⟩⟩

/-- A record with a place of its output is read back exactly if its figures are finite. -/
theorem decode_encode_iff {r : JobResult}
    (hraw : ∀ path, r.raw = some path → path.text.toList ≠ []) :
    decode (encode r) = .ok r ↔ r.figures.IsFinite :=
  ⟨fun h => (keeps_of_decode h).figures, fun h => decode_encode ⟨h, hraw⟩⟩

/-- A line that is read as a result is normalised by writing the result down: the new line is read
as the same result, writing that gives the new line again, and lines of different results have
different normal lines. -/
theorem normalised {line : String} {r : JobResult} (h : decode line = .ok r) :
    decode (encode r) = .ok r ∧
    (decode (encode r)).map encode = .ok (encode r) ∧
    ∀ line' r', decode line' = .ok r' → (encode r' = encode r ↔ r' = r) := by
  have hback : decode (encode r) = .ok r := decode_encode (keeps_of_decode h)
  refine ⟨hback, ?_, fun line' r' h' => ⟨fun heq => ?_, fun heq => by rw [heq]⟩⟩
  · rw [hback]
    rfl
  · have hback' := decode_encode (keeps_of_decode h')
    rw [heq, hback] at hback'
    exact (Except.ok.inj hback').symm

/-- A status in mixed letters with blanks around it, signed attempts, escapes without need, slack
as arrays in front of the tag, a member that no figures have, and a backslash at the end. -/
def looseLine : String :=
  " partial_Pass |+003|a\\|\\b\\n\\\\|\\\x7b\"values\": [[null, -0, 7], null, 1E-2, -5e-1, null], " ++
    "\"note\": \"\\\\u007c\", \"domain\": \"timing\"\x7d|out/raw\\|\\\r\r\n"

def looseResult : JobResult where
  status := .partialPass
  details := "a|b\n\\"
  figures := .timing ⟨some ⟨none, some ⟨true, 0⟩, some 7⟩, none, ⟨false, Binary64.nearest 1 100⟩,
    some ⟨true, Binary64.nearest 1 2⟩, none⟩
  raw := some ⟨"out/raw|\\"⟩
  attempts := 3

theorem normalised_loose :
    decode looseLine = .ok looseResult ∧ decode (encode looseResult) = .ok looseResult ∧
      encode looseResult = "PARTIAL_PASS|3|a\\|b\\n\\\\|\x7b\"domain\":\"timing\",\"values\":\x7b\"setup\":" ++
        "\x7b\"wns\":null,\"tns\":-0.0,\"nvp\":7\x7d,\"hold\":null,\"worst_wns\":0.01,\"worst_tns\":-0.5," ++
        "\"violating_paths\":null\x7d\x7d|out/raw\\|\\\\" ∧
      looseLine ≠ encode looseResult := by
  have hline : decode looseLine = .ok looseResult := by decide +kernel
  exact ⟨hline, (normalised hline).1, by decide +kernel, by decide +kernel⟩

end Record

end Signoff
