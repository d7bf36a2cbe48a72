import GlassPrompt.Proofs.Script.Layout

/-!
# Tidy code is a normal form

Tidying a piece of code drops the blank lines at its two ends and the margin that the others share.
Tidy code has neither, so tidying it again leaves it as it is; and what tidying drops can be put there,
or be taken away, without a change of the result.

* `trimLines_of_blanks`, `trimLines_map` — lines without the blank ones at the two ends.
* `tidyLines`, `tidyLines_tidyLines`, `tidyLines_margin` — tidying, as a function on lines.
* `tidyCode_unlines` — code is tidied line by line.
* `inked`, `inked_tidyCode` — the characters that are no blanks, and that tidying keeps them.
* `tidyCode_normalForm` — all that tidying leaves out of account.
-/

namespace GlassPrompt

/-! ## Blank lines at the ends -/

section

variable {lead trail : List Text} (blankLead : ∀ line ∈ lead, Text.isBlankText line = true)
  (blankTrail : ∀ line ∈ trail, Text.isBlankText line = true)

include blankLead blankTrail

/-- **Blank lines at the ends** are dropped. -/
lemma trimLines_of_blanks (lines : List Text) :
    trimLines (lead ++ lines ++ trail) = trimLines lines := by
  have reversed : ∀ line ∈ trail.reverse, Text.isBlankText line = true := fun line member =>
    blankTrail line (List.mem_reverse.1 member)
  have nothing : trail.dropWhile Text.isBlankText = [] := List.dropWhile_eq_nil_iff.2 blankTrail
  rw [trimLines, List.append_assoc, List.dropWhile_append_of_pos blankLead, List.dropWhile_append,
    nothing, trimLines]
  split
  · next empty => rw [List.isEmpty_iff.1 empty]
  · rw [List.reverse_append, List.dropWhile_append_of_pos reversed]

end

lemma trimLines_trimLines (lines : List Text) : trimLines (trimLines lines) = trimLines lines := by
  obtain ⟨lead, trail, blankLead, blankTrail, whole⟩ := exists_trimLines lines
  conv_rhs => rw [whole, trimLines_of_blanks blankLead blankTrail]

lemma mem_of_mem_trimLines {lines : List Text} {line : Text} (member : line ∈ trimLines lines) :
    line ∈ lines := by
  obtain ⟨lead, trail, -, -, whole⟩ := exists_trimLines lines
  rw [whole]
  exact List.mem_append_left _ (List.mem_append_right _ member)

section

variable {f : Text → Text}

lemma dropWhile_isBlankText_map {lines : List Text}
    (same : ∀ line ∈ lines, Text.isBlankText (f line) = Text.isBlankText line) :
    (lines.map f).dropWhile Text.isBlankText = (lines.dropWhile Text.isBlankText).map f := by
  induction lines with
  | nil => rfl
  | cons line rest ih =>
    obtain ⟨first, others⟩ := List.forall_mem_cons.1 same
    rw [List.map_cons, List.dropWhile_cons, List.dropWhile_cons, first, ih others]
    split <;> rfl

/-- What keeps lines blank or not does not change which ones are dropped. -/
lemma trimLines_map {lines : List Text}
    (same : ∀ line ∈ lines, Text.isBlankText (f line) = Text.isBlankText line) :
    trimLines (lines.map f) = (trimLines lines).map f := by
  have behind : ∀ line ∈ (lines.dropWhile Text.isBlankText).reverse,
      Text.isBlankText (f line) = Text.isBlankText line := fun line member =>
    same line ((List.dropWhile_suffix _).subset (List.mem_reverse.1 member))
  rw [trimLines, dropWhile_isBlankText_map same, ← List.map_reverse,
    dropWhile_isBlankText_map behind, ← List.map_reverse, trimLines]

end

/-! ## The common margin -/

lemma isBlankText_of_indent {text : Text} (indents : text.all isIndent = true) :
    Text.isBlankText text = true :=
  Text.isBlankText_iff.2 fun c member => isBlank_of_isIndent (List.all_eq_true.1 indents c member)

/-- A margin does not make a line blank, or not blank. -/
lemma isBlankText_margin {margin : Text} (indents : margin.all isIndent = true) (line : Text) :
    Text.isBlankText (margin ++ line) = Text.isBlankText line := by
  rw [Text.isBlankText, List.all_append, ← Text.isBlankText, isBlankText_of_indent indents,
    Bool.true_and, Text.isBlankText]

/-- Lines without blank ones at the ends have none there without their common margin either. -/
lemma trimLines_dedentLines {lines : List Text} (trimmed : trimLines lines = lines) :
    trimLines (Text.dedentLines lines) = Text.dedentLines lines := by
  unfold Text.dedentLines
  refine (trimLines_map fun line member => ?_).trans (by rw [trimmed])
  split_ifs with indents
  · exact (isBlankText_of_indent indents).symm
  · have whole := Text.commonMargin_append_drop member (Bool.eq_false_iff.2 indents)
    conv_rhs => rw [← whole, isBlankText_margin (Text.all_isIndent_commonMargin lines)]

/-! ## Tidy lines -/

/-- The lines without the blank ones at the two ends, and without their common margin. -/
def tidyLines (lines : List Text) : List Text :=
  Text.dedentLines (trimLines lines)

lemma noNewline_of_mem_tidyLines {lines : List Text} (noNewline : ∀ line ∈ lines, '\n' ∉ line) :
    ∀ line ∈ tidyLines lines, '\n' ∉ line := by
  intro line member
  obtain ⟨given, trimmed, rfl⟩ := List.mem_map.1 member
  split_ifs
  · exact List.not_mem_nil
  · exact fun newline => noNewline given (mem_of_mem_trimLines trimmed) (List.mem_of_mem_drop newline)

/-- **Tidy lines stay as they are.** -/
theorem tidyLines_tidyLines (lines : List Text) : tidyLines (tidyLines lines) = tidyLines lines := by
  rw [tidyLines, tidyLines, trimLines_dedentLines (trimLines_trimLines lines),
    Text.dedentLines_dedentLines]

/-- **A margin before all lines** is dropped. -/
theorem tidyLines_margin {margin : Text} (indents : margin.all isIndent = true) (lines : List Text) :
    tidyLines (lines.map (margin ++ ·)) = tidyLines lines := by
  rw [tidyLines, trimLines_map fun line _ => isBlankText_margin indents line,
    Text.dedentLines_map_append indents, tidyLines]

/-! ## Tidy code -/

/-- Code is tidied line by line. -/
lemma tidyCode_unlines {lines : List Text} (noNewline : ∀ line ∈ lines, '\n' ∉ line) :
    tidyCode (Text.unlines lines) = Text.unlines (tidyLines lines) := by
  by_cases some : lines = []
  · subst some
    rfl
  · rw [tidyCode, Text.lines_unlines noNewline some, tidyLines]

theorem tidyCode_tidyCode (source : Text) : tidyCode (tidyCode source) = tidyCode source := by
  have noNewline : ∀ line ∈ tidyLines (Text.lines source), '\n' ∉ line :=
    noNewline_of_mem_tidyLines fun line => noNewline_of_mem_lines
  calc tidyCode (Text.unlines (tidyLines (Text.lines source)))
      = Text.unlines (tidyLines (tidyLines (Text.lines source))) := tidyCode_unlines noNewline
    _ = Text.unlines (tidyLines (Text.lines source)) := by rw [tidyLines_tidyLines]

theorem tidyCode_margin {margin : Text} (indents : margin.all isIndent = true) (source : Text) :
    tidyCode (Text.unlines ((Text.lines source).map (margin ++ ·))) = tidyCode source := by
  have noNewline : ∀ line ∈ (Text.lines source).map (margin ++ ·), '\n' ∉ line := by
    intro line member newline
    obtain ⟨given, known, rfl⟩ := List.mem_map.1 member
    rcases List.mem_append.1 newline with inMargin | inLine
    · exact absurd (List.all_eq_true.1 indents _ inMargin) (by decide)
    · exact noNewline_of_mem_lines known inLine
  rw [tidyCode_unlines noNewline, tidyLines_margin indents]
  rfl

lemma isBlankText_of_mem_lines {text line : Text} (blank : Text.isBlankText text = true)
    (member : line ∈ Text.lines text) : Text.isBlankText line = true :=
  Text.isBlankText_iff.2 fun c inside =>
    Text.isBlankText_iff.1 blank c (mem_of_mem_splitOnP member c inside).1

section

variable {blanks : Text} (blank : Text.isBlankText blanks = true) (source : Text)

include blank

lemma tidyCode_blanks_append : tidyCode (blanks ++ '\n' :: source) = tidyCode source := by
  have lead : ∀ line ∈ Text.lines blanks, Text.isBlankText line = true := fun line =>
    isBlankText_of_mem_lines blank
  have trimmed := trimLines_of_blanks lead (List.forall_mem_nil _) (Text.lines source)
  rw [List.append_nil] at trimmed
  rw [tidyCode, Text.lines_append, trimmed, tidyCode]

lemma tidyCode_append_blanks : tidyCode (source ++ '\n' :: blanks) = tidyCode source := by
  have trail : ∀ line ∈ Text.lines blanks, Text.isBlankText line = true := fun line =>
    isBlankText_of_mem_lines blank
  have trimmed := trimLines_of_blanks (List.forall_mem_nil _) trail (Text.lines source)
  rw [List.nil_append] at trimmed
  rw [tidyCode, Text.lines_append, trimmed, tidyCode]

end

/-! ## What is no blank -/

/-- The characters of a text that are no blanks. -/
def inked (text : Text) : Text :=
  text.filter (!isBlank ·)

lemma inked_append (first second : Text) : inked (first ++ second) = inked first ++ inked second :=
  List.filter_append ..

lemma inked_of_blank {text : Text} (blank : Text.isBlankText text = true) : inked text = [] :=
  List.filter_eq_nil_iff.2 fun c member => by simp [Text.isBlankText_iff.1 blank c member]

lemma inked_unindentFrom (ends : Char → Bool) (fresh : Bool) (text : Text) :
    inked (unindentFrom ends fresh text) = inked text := by
  induction text generalizing fresh with
  | nil => rfl
  | cons c rest ih =>
    rw [unindentFrom, ← List.singleton_append (l := rest), inked_append]
    split_ifs with dropped
    · have blank : Text.isBlankText [c] = true :=
        Bool.and_eq_true_iff.2 ⟨isBlank_of_isIndent (Bool.and_eq_true_iff.1 dropped).2, rfl⟩
      rw [ih, inked_of_blank blank, List.nil_append]
    · rw [← List.singleton_append, inked_append, ih]

/-- Tidying changes indentation, behind blanks that it removes at the ends. -/
lemma unindentFrom_tidyCode (source : Text) : ∃ lead trail, Text.isBlankText lead = true ∧
    Text.isBlankText trail = true ∧
    source = lead ++ Text.unlines (trimLines (Text.lines source)) ++ trail ∧
    unindentFrom (· == '\n') true (tidyCode source) =
      unindentFrom (· == '\n') true (Text.unlines (trimLines (Text.lines source))) := by
  obtain ⟨lead, trail, blankLead, blankTrail, whole⟩ := exists_unlines_trimLines (Text.lines source)
  rw [Text.unlines_lines] at whole
  refine ⟨lead, trail, blankLead, blankTrail, whole, ?_⟩
  rw [tidyCode, Text.unindentFrom_unlines endsRows_newline, Text.unindentFrom_unlines endsRows_newline,
    Text.unindent_dedentLines]

/-- **Tidying keeps every character that is no blank**, in order. -/
theorem inked_tidyCode (source : Text) : inked (tidyCode source) = inked source := by
  obtain ⟨lead, trail, blankLead, blankTrail, whole, same⟩ := unindentFrom_tidyCode source
  have kept := congrArg inked same
  rw [inked_unindentFrom, inked_unindentFrom] at kept
  rw [kept]
  conv_rhs => rw [whole, inked_append, inked_append, inked_of_blank blankLead,
    inked_of_blank blankTrail, List.nil_append, List.append_nil]

lemma inked_indent {margin : Text} (indents : margin.all isIndent = true) (text : Text) :
    inked (Text.indent margin text) = inked text := by
  have kept := congrArg inked (Text.unindent_indent indents text)
  rwa [inked_unindentFrom, inked_unindentFrom] at kept

/-! ## The normal form -/

/-- **Tidy code is a normal form of a piece of code's layout.**  Tidying twice is tidying once; a text of
spaces and tabs before all lines, or lines of blanks before the first line or behind the last one, do not
change the result; and what is no blank is kept, in its order. -/
theorem tidyCode_normalForm (source : Text) :
    tidyCode (tidyCode source) = tidyCode source ∧
      (∀ margin : Text, margin.all isIndent = true →
        tidyCode (Text.unlines ((Text.lines source).map (margin ++ ·))) = tidyCode source) ∧
      (∀ blanks : Text, Text.isBlankText blanks = true →
        tidyCode (blanks ++ '\n' :: source) = tidyCode source ∧
          tidyCode (source ++ '\n' :: blanks) = tidyCode source) ∧
      inked (tidyCode source) = inked source :=
  ⟨tidyCode_tidyCode source, fun _ indents => tidyCode_margin indents source,
    fun _ blank => ⟨tidyCode_blanks_append blank source, tidyCode_append_blanks blank source⟩,
    inked_tidyCode source⟩

/-- Lines that share a tab, with a no-break space at the end of one of them and a line of one behind the
last. -/
def tabbedCode : Text :=
  "\t a()\u00a0\n \t\n\t\tb()\n\u00a0".toList

/-- The tab is dropped, also behind a space before each line, and so are the lines of blanks. -/
theorem tidyCode_normalForm_tabbed :
    tidyCode tabbedCode = " a()\u00a0\n\n\tb()".toList ∧
      tidyCode (" \t a()\u00a0\n  \t\n \t\tb()\n \u00a0".toList) = tidyCode tabbedCode ∧
      tidyCode ("\u2003\n\x0c\n".toList ++ tabbedCode) = tidyCode tabbedCode := by
  have spaced : Text.unlines ((Text.lines tabbedCode).map ([' '] ++ ·)) =
      " \t a()\u00a0\n  \t\n \t\tb()\n \u00a0".toList := by decide +kernel
  obtain ⟨-, margins, blanks, -⟩ := tidyCode_normalForm tabbedCode
  exact ⟨by decide +kernel, spaced ▸ margins [' '] (by decide),
    (blanks "\u2003\n\x0c".toList (by decide)).1⟩

end GlassPrompt
