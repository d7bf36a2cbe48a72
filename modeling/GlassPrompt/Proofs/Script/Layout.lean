import GlassPrompt.Proofs.Script.Literals
import GlassPrompt.Proofs.Text.Trim
import GlassPrompt.Script.Function

/-!
# Laying out a script keeps its literals

A piece of code is trimmed, loses its margin, is wrapped in a function and is indented anew, and none
of this looks at the literals in it.  The literals stay what they are, but for the indentation of the
rows inside them; so a literal on one row stays as it is.

* `exists_trimLines`, `exists_unlines_trimLines`, `literals_unlines_trimLines` — blank lines around a
  script.
* `SameLiterals.tidyCode`, `SameLiterals.invokeCode`, `SameLiterals.indentContinuation`,
  `SameLiterals.hoistedLines` — the layouts of a script.
* `indentContinuation_isInfix` — the layout of a text lays out what is inside it.
-/

namespace GlassPrompt

/-! ## Blank lines around a script -/

lemma isPlain_of_isBlank {c : Char} (blank : isBlank c = true) : isPlain c = true := by
  have noQuote : isQuote c = false := by
    simp [isQuote, ne_of_class blank (d := '\'') rfl, ne_of_class blank (d := '"') rfl,
      ne_of_class blank (d := '`') rfl]
  simp [isPlain, noQuote, ne_of_class blank (d := '/') rfl]

/-- Lines are those without the blank ones at the two ends, between blank lines. -/
lemma exists_trimLines (lines : List Text) : ∃ lead trail,
    (∀ line ∈ lead, Text.isBlankText line = true) ∧ (∀ line ∈ trail, Text.isBlankText line = true) ∧
      lines = lead ++ trimLines lines ++ trail := by
  have front := List.takeWhile_append_dropWhile (p := Text.isBlankText) (l := lines)
  have back := List.takeWhile_append_dropWhile (p := Text.isBlankText)
    (l := (lines.dropWhile Text.isBlankText).reverse)
  refine ⟨lines.takeWhile Text.isBlankText,
    ((lines.dropWhile Text.isBlankText).reverse.takeWhile Text.isBlankText).reverse,
    fun line member => List.mem_takeWhile_imp member,
    fun line member => List.mem_takeWhile_imp (List.mem_reverse.1 member), ?_⟩
  rw [List.append_assoc, trimLines, ← List.reverse_append, back, List.reverse_reverse, front]

/-- A text is its lines without the blank ones at the two ends, between blanks. -/
lemma exists_unlines_trimLines (lines : List Text) :
    ∃ lead trail, Text.isBlankText lead = true ∧ Text.isBlankText trail = true ∧
      Text.unlines lines = lead ++ Text.unlines (trimLines lines) ++ trail := by
  obtain ⟨blankLines, otherLines, blank, other, whole⟩ := exists_trimLines lines
  obtain ⟨lead, blankLead, leadEq⟩ :=
    Text.exists_unlines_append_left blank (trimLines lines ++ otherLines)
  obtain ⟨trail, blankTrail, trailEq⟩ := Text.exists_unlines_append_right other (trimLines lines)
  refine ⟨lead, trail, blankLead, blankTrail, ?_⟩
  conv_lhs => rw [whole, List.append_assoc, leadEq, trailEq, ← List.append_assoc]

/-- **Blank lines around a script** hold no part of a literal. -/
theorem literals_unlines_trimLines (lines : List Text) :
    literals (Text.unlines (trimLines lines)) = literals (Text.unlines lines) := by
  obtain ⟨lead, trail, blankLead, blankTrail, whole⟩ := exists_unlines_trimLines lines
  have plain {text : Text} (blank : Text.isBlankText text = true) : ∀ c ∈ text, isPlain c = true :=
    fun c member => isPlain_of_isBlank (Text.isBlankText_iff.1 blank c member)
  rw [whole, literals_append_of_noQuote fun c member =>
    isQuote_of_isPlain (plain blankTrail c member), literals_append_of_plain (plain blankLead)]

/-! ## The layouts -/

lemma linesText_cons (first : Text) (rest : List Text) :
    linesText (first :: rest) = Text.unlines (first :: rest) ++ ['\n'] := by
  induction rest generalizing first with
  | nil => rw [Text.unlines_singleton, linesText, List.flatMap_singleton]
  | cons second rest ih =>
    rw [linesText, List.flatMap_cons, ← linesText, ih, Text.unlines_cons_cons, List.append_assoc,
      List.append_assoc]
    rfl

/-- The lines of a text, each with its newline, are the text with one more newline. -/
lemma linesText_lines (text : Text) : linesText (Text.lines text) = text ++ ['\n'] := by
  obtain ⟨first, rest, lines⟩ := Text.exists_lines text
  rw [lines, linesText_cons, ← lines, Text.unlines_lines]

namespace SameLiterals

variable {ends : Char → Bool}

lemma of_eq {first second : Text} (same : literals first = literals second) :
    SameLiterals ends first second :=
  congrArg (List.map (unindent ends)) same

/-- Trimming a script and removing its margin. -/
theorem tidyCode (source : Text) : SameLiterals isRowEnd source (GlassPrompt.tidyCode source) := by
  have lines := literals_unlines_trimLines (Text.lines source)
  rw [Text.unlines_lines] at lines
  refine (of_eq lines.symm).trans (of_unindentFrom endsRows_isRowEnd (?_ : _ = unindentFrom _ true _))
  rw [GlassPrompt.tidyCode, Text.unindentFrom_unlines endsRows_isRowEnd,
    Text.unindentFrom_unlines endsRows_isRowEnd, Text.unindent_dedentLines]

/-- Putting a script between texts that open no literal. -/
lemma around {lead trail : Text} (plainLead : lead.all isPlain = true)
    (plainTrail : trail.all isPlain = true) (script : Text) :
    SameLiterals ends script (lead ++ script ++ trail) := by
  refine of_eq ?_
  rw [literals_append_of_noQuote fun c member => isQuote_of_isPlain
    (List.all_eq_true.1 plainTrail c member), literals_append_of_plain (List.all_eq_true.1 plainLead)]

/-- Putting a margin before the rows of a script. -/
theorem indent {margin : Text} (indents : margin.all isIndent = true) (script : Text) :
    SameLiterals isRowEnd script (Text.indent margin script) :=
  of_unindentFrom endsRows_isRowEnd (Text.unindent_indent indents script).symm

/-- Making a script an expression that runs it. -/
theorem invokeCode (source : Text) : SameLiterals isRowEnd source (GlassPrompt.invokeCode source) := by
  refine (tidyCode source).trans ?_
  unfold GlassPrompt.invokeCode
  dsimp only
  split_ifs
  · exact around (show ['('].all isPlain = true by decide) (by decide) _
  · refine (indent (show [' ', ' '].all isIndent = true by decide) _).trans ?_
    exact around (by decide) (by decide) _

/-- Putting a margin before the lines of a script, the first one apart. -/
theorem indentContinuation (rows : EndsRows ends) {margin : Text}
    (indents : margin.all isIndent = true) (script : Text) :
    SameLiterals ends script (GlassPrompt.indentContinuation margin script) := by
  refine of_unindentFrom rows (?_ : _ = unindentFrom _ true _)
  have line (line : Text) : unindentFrom ends true (if line.isEmpty then line else margin ++ line) =
      unindentFrom ends true line := by
    split_ifs
    · rfl
    · exact unindentFrom_margin indents line
  conv_lhs => rw [← Text.unlines_lines script]
  unfold GlassPrompt.indentContinuation
  cases Text.lines script with
  | nil => rfl
  | cons first rest =>
    rw [Text.unindentFrom_unlines rows, Text.unindentFrom_unlines rows, List.map_cons, List.map_cons,
      List.map_map]
    exact congrArg (fun more => Text.unlines (unindentFrom ends true first :: more))
      (List.map_congr_left fun next _ => (line next).symm)

/-- Writing a script as lines of a function. -/
theorem hoistedLines (source : Text) :
    SameLiterals isRowEnd source (linesText (GlassPrompt.hoistedLines source)) := by
  refine (tidyCode source).trans ?_
  unfold GlassPrompt.hoistedLines
  dsimp only
  split_ifs with nothing
  · rw [List.isEmpty_iff.1 nothing]
    rfl
  · refine (indent (show [' ', ' '].all isIndent = true by decide) _).trans ?_
    rw [linesText_lines]
    exact around (show [].all isPlain = true from rfl) (by decide) _

end SameLiterals

/-! ## Layouts inside layouts -/

/-- What a layout puts before a line: nothing if the line is empty. -/
def lineMargin (margin rest : Text) : Text :=
  if rest.head?.any (· != '\n') then margin else []

lemma lineMargin_append (margin : Text) {rest : Text} (nonempty : rest ≠ []) (after : Text) :
    lineMargin margin (rest ++ after) = lineMargin margin rest := by
  rw [lineMargin, List.head?_append_of_ne_nil _ nonempty, lineMargin]

lemma indentContinuation_newline (margin rest : Text) :
    indentContinuation margin ('\n' :: rest) =
      '\n' :: (lineMargin margin rest ++ indentContinuation margin rest) := by
  obtain ⟨first, more, lines⟩ := Text.exists_lines rest
  have empty : first.isEmpty = !rest.head?.any (· != '\n') := by
    cases rest with
    | nil =>
      obtain rfl := (List.cons.inj lines).1
      rfl
    | cons c rest =>
      by_cases newline : c = '\n'
      · subst newline
        rw [Text.lines_newline] at lines
        obtain rfl := (List.cons.inj lines).1
        rfl
      · obtain ⟨start, others, eq⟩ := Text.exists_lines rest
        rw [Text.lines_cons newline, eq] at lines
        obtain rfl := (List.cons.inj lines).1
        simp [newline]
  have line : (if first.isEmpty then first else margin ++ first) = lineMargin margin rest ++ first := by
    rw [empty, lineMargin]
    cases rest.head?.any (· != '\n') <;> rfl
  unfold indentContinuation
  rw [Text.lines_newline, lines]
  dsimp only
  rw [List.map_cons, line, Text.unlines_cons_cons, Text.unlines_append_head]
  rfl

lemma indentContinuation_cons (margin : Text) {c : Char} (other : c ≠ '\n') (rest : Text) :
    indentContinuation margin (c :: rest) = c :: indentContinuation margin rest := by
  obtain ⟨first, more, lines⟩ := Text.exists_lines rest
  unfold indentContinuation
  rw [Text.lines_cons other, lines]
  exact Text.unlines_append_head [c] first _

lemma indentContinuation_isSuffix (margin before script : Text) :
    indentContinuation margin script <:+ indentContinuation margin (before ++ script) := by
  induction before with
  | nil => exact List.suffix_rfl
  | cons c rest ih =>
    rw [List.cons_append]
    by_cases newline : c = '\n'
    · subst newline
      rw [indentContinuation_newline]
      exact (ih.trans (List.suffix_append _ _)).trans (List.suffix_cons _ _)
    · rw [indentContinuation_cons margin newline]
      exact ih.trans (List.suffix_cons _ _)

lemma indentContinuation_isPrefix (margin : Text) {script : Text}
    (ends : ∀ start, script ≠ start ++ ['\n']) (after : Text) :
    indentContinuation margin script <+: indentContinuation margin (script ++ after) := by
  induction script with
  | nil => exact List.nil_prefix
  | cons c rest ih =>
    have later := ih fun start eq => ends (c :: start) (congrArg (c :: ·) eq)
    rw [List.cons_append]
    by_cases newline : c = '\n'
    · subst newline
      have nonempty : rest ≠ [] := by
        rintro rfl
        exact ends [] rfl
      rw [indentContinuation_newline, indentContinuation_newline, lineMargin_append margin nonempty]
      exact (List.prefix_cons_inj _).2 ((List.prefix_append_right_inj _).2 later)
    · rw [indentContinuation_cons margin newline, indentContinuation_cons margin newline]
      exact (List.prefix_cons_inj _).2 later

/-- **The layout of a text lays out what is inside it**, if that does not stop at the end of a line. -/
theorem indentContinuation_isInfix (margin : Text) {script text : Text}
    (ends : ∀ start, script ≠ start ++ ['\n']) (inside : script <:+: text) :
    indentContinuation margin script <:+: indentContinuation margin text := by
  obtain ⟨before, after, rfl⟩ := inside
  rw [List.append_assoc]
  exact (indentContinuation_isPrefix margin ends after).isInfix.trans
    (indentContinuation_isSuffix margin before _).isInfix

end GlassPrompt
