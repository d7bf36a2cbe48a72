import GlassPrompt.Proofs.Document.IssueSpans
import GlassPrompt.Proofs.Editor.Positions
import GlassPrompt.Proofs.Frontmatter.Refusals

/-!
# What diagnostics point at

A range is two positions, and designates the part of the text between their offsets.  The range of every
diagnostic lies in the text.  A tag outside the vocabulary is shown by its name, a tag without a partner
by its front, and broken frontmatter by the line because of which it is refused.

* `Range.InText`, `Range.textIn` — the ranges of a text, and the part that each designates.
* `DiagnosticOf`, `mem_diagnostics_iff` — the diagnostics of a text, and what each is about.
* `front_of_mem_scan` — how a tag starts.
* `DesignatesName`, `DesignatesFront`, `DesignatesLine` — what a range may show.
* `diagnostics_designate` — what the diagnostics of a text show.
-/

namespace GlassPrompt

/-! ## Ranges -/

namespace Range

/-- The range lies between two offsets of the text, and does not go backwards. -/
structure InText (text : Text) (range : Range) : Prop where
  ordered : range.start ≤ range.stop
  offsets : ∃ start stop, start ≤ stop ∧ stop ≤ text.length ∧ range = .ofOffsets text start stop

/-- The part of the text that the range designates. -/
def textIn (text : Text) (range : Range) : Text :=
  text.slice (range.start.offsetIn text) (range.stop.offsetIn text)

variable {text line : Text} {start stop index : ℕ}

lemma inText_ofOffsets (ordered : start ≤ stop) (inside : stop ≤ text.length) :
    (ofOffsets text start stop).InText text where
  ordered := Position.monotone_ofOffset text (Int.ofNat_le.2 ordered)
  offsets := ⟨start, stop, ordered, inside, rfl⟩

lemma textIn_ofOffsets (ordered : start ≤ stop) (inside : stop ≤ text.length) :
    (ofOffsets text start stop).textIn text = text.slice start stop := by
  rw [textIn, ofOffsets, Position.offsetIn_natCast (ordered.trans inside),
    Position.offsetIn_natCast inside]

/-- The range of a line. -/
def ofLine (index : ℕ) (line : Text) : Range :=
  ⟨⟨index, 0⟩, ⟨index, line.length⟩⟩

lemma inText_ofLine (here : (Text.lines text)[index]? = some line) :
    (ofLine index line).InText text := by
  have first : (⟨index, 0⟩ : Position).InText text := Position.inText_of_line here (Nat.zero_le _)
  have last : (⟨index, line.length⟩ : Position).InText text :=
    Position.inText_of_line here (Nat.le_refl _)
  obtain ⟨-, start⟩ := Position.ofOffset_offsetIn first
  obtain ⟨inside, stop⟩ := Position.ofOffset_offsetIn last
  have range : ofLine index line = .ofOffsets text _ _ := congrArg₂ Range.mk start.symm stop.symm
  exact range ▸ inText_ofOffsets (Nat.add_le_add_left (Nat.zero_le _) _) inside

lemma textIn_ofLine (here : (Text.lines text)[index]? = some line) :
    (ofLine index line).textIn text = line := by
  obtain ⟨rest, whole⟩ := Position.exists_rest_of_line here
  have behind := (congrArg (List.drop (wholeLines ((Text.lines text).take index)).length) whole).trans
    List.drop_left
  rw [length_wholeLines] at behind
  exact Text.slice_of_drop behind

end Range

/-! ## The diagnostics of a text -/

/-- The diagnostic is one of the text: it is about a tag, about the frontmatter or about an issue. -/
inductive DiagnosticOf (text : Text) : Diagnostic → Prop
  | unmatched {tag : Tag} (member : tag ∈ unmatchedTags text) :
    DiagnosticOf text (unmatchedDiagnostic text tag)
  | unsupported {tag : Tag} (member : tag ∈ unsupportedTags text) :
    DiagnosticOf text (unsupportedDiagnostic text tag)
  | frontmatter {error : FrontmatterError} (refused : splitFrontmatter text = .error error) :
    DiagnosticOf text (frontmatterDiagnostic error)
  | issue {document : Document} {issue : Issue} (parsed : Document.parse text = .ok document)
    (member : issue ∈ document.otherIssues) : DiagnosticOf text (issueDiagnostic text issue)

lemma parse_eq_error_iff {text : Text} {error : FrontmatterError} :
    Document.parse text = .error error ↔ splitFrontmatter text = .error error := by
  unfold Document.parse
  cases splitFrontmatter text with
  | error other =>
    show Except.error other = (Except.error error : Except _ Document) ↔ _
    rw [Except.error.injEq, Except.error.injEq]
  | ok frontmatter => exact iff_of_false nofun nofun

lemma mem_diagnostics_iff {text : Text} {diagnostic : Diagnostic} :
    diagnostic ∈ diagnostics text ↔ DiagnosticOf text diagnostic := by
  rw [diagnostics, tagDiagnostics, List.mem_append, List.mem_append, List.mem_map, List.mem_map]
  constructor
  · rintro ((⟨tag, member, rfl⟩ | ⟨tag, member, rfl⟩) | other)
    · exact .unmatched member
    · exact .unsupported member
    · cases parsed : Document.parse text with
      | error error =>
        rw [parsed] at other
        rw [List.mem_singleton.1 other]
        exact .frontmatter (parse_eq_error_iff.1 parsed)
      | ok document =>
        rw [parsed] at other
        obtain ⟨issue, member, rfl⟩ := List.mem_map.1 other
        exact .issue parsed member
  · rintro (@⟨tag, member⟩ | @⟨tag, member⟩ | refused | ⟨parsed, member⟩)
    · exact .inl (.inl ⟨tag, member, rfl⟩)
    · exact .inl (.inr ⟨tag, member, rfl⟩)
    · rw [parse_eq_error_iff.2 refused]
      exact .inr (List.mem_singleton_self _)
    · rw [parsed]
      exact .inr (List.mem_map_of_mem member)

/-! ## The front of a tag -/

lemma close_not_mem_front {tag : Tag} (isName : IsNameText tag.name) : '>' ∉ tag.mark ++ tag.name := by
  rw [List.mem_append, not_or, Tag.mark]
  refine ⟨?_, fun member => absurd (isName _ member) (by decide)⟩
  split <;> decide

lemma mark_eq_cons (tag : Tag) : ∃ rest, tag.mark = '<' :: rest := by
  unfold Tag.mark
  split <;> exact ⟨_, rfl⟩

/-- A tag is its mark, its name and at least one character more. -/
lemma front_of_mem_scan {text : Text} {start : ℕ} {tag : Tag} (scanned : .tag tag ∈ scan text start) :
    ∃ next rest, text.drop tag.start = tag.mark ++ (tag.name ++ next :: rest) ∧
      tag.start + tag.mark.length + tag.name.length + 1 ≤ tag.stop ∧ tag.stop ≤ text.length := by
  obtain ⟨nonempty, inside, written⟩ := (readIn_of_mem_scan text start _ scanned).2
  obtain ⟨behind, front⟩ := written.front
  cases behind with
  | nil =>
    -- The tag ends in `>`, which neither the mark nor the name has.
    rw [List.append_nil] at front
    have close : '>' ∈ tag.mark ++ tag.name := front ▸ written.back.subset (List.mem_singleton_self _)
    exact absurd close (close_not_mem_front (names_of_mem_scan scanned _ List.mem_cons_self))
  | cons next more =>
    refine ⟨next, more ++ text.drop tag.stop, ?_, ?_, inside⟩
    · rw [← Text.slice_length, ← Text.slice_append text nonempty.le inside, ← front, Text.slice_length]
      simp
    · have length := congrArg List.length front
      rw [Text.length_slice inside, List.length_append, List.length_append, List.length_cons] at length
      omega

/-! ## What a range shows -/

/-- The range shows the name of the tag, right behind its mark. -/
structure DesignatesName (text : Text) (tag : Tag) (range : Range) : Prop where
  start : range.start.offsetIn text = tag.start + tag.mark.length
  name : range.textIn text = tag.name

/-- The range shows the front of the tag: it starts at the `<` of the tag, with its mark and its name,
and does not go on behind the tag. -/
structure DesignatesFront (text : Text) (tag : Tag) (range : Range) : Prop where
  start : range.start.offsetIn text = tag.start
  bracket : text[tag.start]? = some '<'
  front : tag.mark ++ tag.name <+: range.textIn text
  within : range.stop.offsetIn text ≤ tag.stop

/-- The range shows the line of this index, from its first character to its end. -/
structure DesignatesLine (text : Text) (index : ℕ) (range : Range) : Prop where
  line : (Text.lines text)[index]? = some (range.textIn text)
  start : range.start = ⟨index, 0⟩
  stop : range.stop = ⟨index, (range.textIn text).length⟩

section

variable {text : Text} {tag : Tag} (scanned : .tag tag ∈ scan text 0)

include scanned

/-- **A tag outside the vocabulary is shown by its name.** -/
theorem designatesName_unsupportedDiagnostic :
    (unsupportedDiagnostic text tag).range.InText text ∧
      DesignatesName text tag (unsupportedDiagnostic text tag).range := by
  obtain ⟨next, rest, front, within, inside⟩ := front_of_mem_scan scanned
  have behind : text.drop (tag.start + tag.mark.length) = tag.name ++ next :: rest := by
    rw [← List.drop_drop, front, List.drop_left]
  have ordered := Nat.le_add_right (tag.start + tag.mark.length) tag.name.length
  have stop : tag.start + tag.mark.length + tag.name.length ≤ text.length := by omega
  refine ⟨Range.inText_ofOffsets ordered stop, Position.offsetIn_natCast (ordered.trans stop), ?_⟩
  exact (Range.textIn_ofOffsets ordered stop).trans (Text.slice_of_drop behind)

/-- **A tag without a partner is shown by its front.** -/
theorem designatesFront_unmatchedDiagnostic :
    (unmatchedDiagnostic text tag).range.InText text ∧
      DesignatesFront text tag (unmatchedDiagnostic text tag).range := by
  obtain ⟨next, rest, front, within, inside⟩ := front_of_mem_scan scanned
  have behind : text.drop tag.start = (tag.mark ++ tag.name ++ [next]) ++ rest := by
    rw [front]
    simp
  have shown := Text.slice_of_drop behind
  rw [List.length_append, List.length_append, ← Nat.add_assoc, ← Nat.add_assoc] at shown
  have ordered : tag.start ≤ tag.start + tag.mark.length + tag.name.length + 1 := by omega
  have stop := within.trans inside
  refine ⟨Range.inText_ofOffsets ordered stop, Position.offsetIn_natCast (ordered.trans stop), ?_,
    ?_, ?_⟩
  · obtain ⟨slash, mark⟩ := mark_eq_cons tag
    rw [← List.head?_drop, front, mark]
    rfl
  · have range : (unmatchedDiagnostic text tag).range.textIn text = tag.mark ++ tag.name ++ [next] :=
      (Range.textIn_ofOffsets ordered stop).trans shown
    exact range ▸ List.prefix_append _ _
  · exact (Position.offsetIn_natCast stop).trans_le within

end

/-- **Broken frontmatter is shown by the line because of which it is refused.** -/
theorem designatesLine_frontmatterDiagnostic {text : Text} {error : FrontmatterError} {index : ℕ}
    (isAt : error.IsAt text index) :
    (frontmatterDiagnostic error).range.InText text ∧
      DesignatesLine text index (frontmatterDiagnostic error).range := by
  have range : (frontmatterDiagnostic error).range = .ofLine index error.line := by
    have line : (error.lineNumber - 1).toNat = index := by
      rw [isAt.number]
      omega
    rw [frontmatterDiagnostic, line]
    rfl
  have shown := Range.textIn_ofLine isAt.line
  rw [range]
  exact ⟨Range.inText_ofLine isAt.line, shown.symm ▸ isAt.line, rfl, by rw [shown]; rfl⟩

/-! ## The diagnostics of a document -/

lemma scanned_of_unmatched {text : Text} {tag : Tag} (member : tag ∈ unmatchedTags text) :
    .tag tag ∈ scan text 0 :=
  mem_of_mem_tags ((ofTags_accounts (tagsOf_ordered text)).reported tag member)

lemma scanned_of_unsupported {text : Text} {tag : Tag} (member : tag ∈ unsupportedTags text) :
    .tag tag ∈ scan text 0 :=
  mem_of_mem_tags (List.mem_of_mem_filter member)

/-- **Every diagnostic is about a place in the text.** -/
theorem inText_of_diagnosticOf {text : Text} {diagnostic : Diagnostic}
    (isOf : DiagnosticOf text diagnostic) : diagnostic.range.InText text := by
  cases isOf with
  | unmatched member => exact (designatesFront_unmatchedDiagnostic (scanned_of_unmatched member)).1
  | unsupported member => exact (designatesName_unsupportedDiagnostic (scanned_of_unsupported member)).1
  | frontmatter refused =>
    obtain ⟨index, isAt⟩ := isAt_of_splitFrontmatter refused
    exact (designatesLine_frontmatterDiagnostic isAt).1
  | issue parsed member =>
    have inside := inside_of_parse parsed _ (List.mem_of_mem_filter member)
    exact Range.inText_ofOffsets inside.start_lt_stop.le inside.stop_le

/-- **Every diagnostic points into the document, and at the right characters.**  The range of a
diagnostic lies between two offsets of the text and does not go backwards, and the diagnostic is about a
tag, about the frontmatter or about an issue.  The range of a tag outside the vocabulary shows exactly
its name; that of a tag without a partner starts at its `<`, goes on with its mark and its name, and does
not go on behind the tag; and that of broken frontmatter is the whole line because of which it is
refused. -/
theorem diagnostics_designate (text : Text) :
    (∀ diagnostic ∈ diagnostics text,
        diagnostic.range.InText text ∧ DiagnosticOf text diagnostic) ∧
      (∀ tag ∈ unsupportedTags text,
        DesignatesName text tag (unsupportedDiagnostic text tag).range) ∧
      (∀ tag ∈ unmatchedTags text,
        DesignatesFront text tag (unmatchedDiagnostic text tag).range) ∧
      ∀ error, splitFrontmatter text = .error error →
        ∃ index : ℕ, error.IsAt text index ∧
          DesignatesLine text index (frontmatterDiagnostic error).range := by
  refine ⟨fun diagnostic member => ?_, fun tag member => ?_, fun tag member => ?_,
    fun error refused => ?_⟩
  · have isOf := mem_diagnostics_iff.1 member
    exact ⟨inText_of_diagnosticOf isOf, isOf⟩
  · exact (designatesName_unsupportedDiagnostic (scanned_of_unsupported member)).2
  · exact (designatesFront_unmatchedDiagnostic (scanned_of_unmatched member)).2
  · obtain ⟨index, isAt⟩ := isAt_of_splitFrontmatter refused
    exact ⟨index, isAt, (designatesLine_frontmatterDiagnostic isAt).2⟩

/-- Frontmatter with a line that declares nothing, a tag on two lines, and a tag that closes nothing. -/
def brokenDocument : Text :=
  "---\na: any\n b\n---\n<a\nx='1'>hi</User >".toList

/-- The tag on two lines is shown by its name, the one that closes nothing by its front, and of the
frontmatter the third line is shown. -/
theorem diagnostics_designate_broken :
    (∃ tag ∈ unsupportedTags brokenDocument, tag.stop = 27 ∧
        DesignatesName brokenDocument tag (unsupportedDiagnostic brokenDocument tag).range) ∧
      (∃ tag ∈ unmatchedTags brokenDocument, tag.start = 29 ∧
        (unmatchedDiagnostic brokenDocument tag).range.InText brokenDocument ∧
        DesignatesFront brokenDocument tag (unmatchedDiagnostic brokenDocument tag).range) ∧
      ∃ error, splitFrontmatter brokenDocument = .error error ∧ error.line = [' ', 'b'] ∧
        ∃ index : ℕ, error.IsAt brokenDocument index ∧
          DesignatesLine brokenDocument index (frontmatterDiagnostic error).range := by
  obtain ⟨inText, names, fronts, lines⟩ := diagnostics_designate brokenDocument
  have unsupported : ⟨['a'], [(['x'], .text ['1'])], .opening, 18, 27⟩ ∈
      unsupportedTags brokenDocument := by decide +kernel
  have unmatched : ⟨"User".toList, [], .closing, 29, 37⟩ ∈ unmatchedTags brokenDocument :=
    mem_unmatched_ofTags.2 ⟨true, by decide +kernel⟩
  have refused : splitFrontmatter brokenDocument = .error ⟨.notADeclaration, 3, [' ', 'b']⟩ := by
    decide +kernel
  exact ⟨⟨_, unsupported, rfl, names _ unsupported⟩,
    ⟨_, unmatched, rfl, (inText _ (mem_diagnostics_iff.2 (.unmatched unmatched))).1,
      fronts _ unmatched⟩, _, refused, rfl, lines _ refused⟩

end GlassPrompt
