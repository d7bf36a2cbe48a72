import GlassPrompt.Text.Lines
import Mathlib.Tactic

/-!
# Splitting texts into lines and joining them

* `mem_of_mem_splitOnP` — what stands between separators.
* `noNewline_of_mem_lines` — no line holds a newline.
* `Text.lines_newline`, `Text.lines_cons` — the lines of a text, one character at a time.
* `Text.lines_append`, `Text.lines_unlines` — the lines of texts on either side of a newline, and of
  lines that have been joined.
* `Text.unlines_cons_cons`, `Text.unlines_append` — joining lines, and two lists of lines.
* `Text.exists_unlines_append_left`, `Text.exists_unlines_append_right` — blank lines before and behind
  other lines.
-/

namespace GlassPrompt

/-! ## Splitting -/

/-- What stands between separators is from the list, and is no separator. -/
lemma mem_of_mem_splitOnP {α : Type} {p : α → Bool} {list part : List α}
    (member : part ∈ list.splitOnP p) : ∀ a ∈ part, a ∈ list ∧ p a = false := by
  induction list generalizing part with
  | nil =>
    rw [List.splitOnP_nil, List.mem_singleton] at member
    simp [member]
  | cons b rest ih =>
    have later {other : List α} (found : other ∈ rest.splitOnP p) :
        ∀ a ∈ other, a ∈ b :: rest ∧ p a = false :=
      fun a inside => (ih found a inside).imp_left (List.mem_cons_of_mem b)
    rw [List.splitOnP_cons_eq_if_modifyHead] at member
    split at member
    · rcases List.mem_cons.1 member with rfl | found
      · exact nofun
      · exact later found
    · next inner =>
      obtain ⟨first, more, split⟩ := List.exists_cons_of_ne_nil (List.splitOnP_ne_nil p rest)
      rw [split, List.modifyHead_cons] at member
      rcases List.mem_cons.1 member with rfl | found
      · refine List.forall_mem_cons.2 ⟨⟨List.mem_cons_self, by simpa using inner⟩, later ?_⟩
        exact split ▸ List.mem_cons_self
      · exact later (split ▸ List.mem_cons_of_mem first found)

lemma noNewline_of_mem_lines {text line : Text} (member : line ∈ Text.lines text) : '\n' ∉ line :=
  fun newline => by simpa using (mem_of_mem_splitOnP member '\n' newline).2

namespace Text

/-! ## Lines -/

lemma lines_newline (rest : Text) : lines ('\n' :: rest) = [] :: lines rest :=
  List.splitOnP_cons_eq_if_modifyHead (p := (· == '\n')) '\n' rest

lemma lines_cons {c : Char} (other : c ≠ '\n') (rest : Text) :
    lines (c :: rest) = (lines rest).modifyHead (c :: ·) := by
  have split := List.splitOnP_cons_eq_if_modifyHead (p := (· == '\n')) c rest
  rw [if_neg (by simpa using other)] at split
  exact split

/-- A newline stands between the lines of what is before it and of what is behind it. -/
lemma lines_append (first second : Text) :
    lines (first ++ '\n' :: second) = lines first ++ lines second :=
  List.splitOnP_append_cons first second rfl

/-- A text without newlines is one line. -/
lemma lines_of_oneLine {line : Text} (noNewline : '\n' ∉ line) : lines line = [line] :=
  List.splitOnP_eq_singleton fun _ member => beq_false_of_ne (ne_of_mem_of_not_mem member noNewline)

/-- Lines that have been joined are these lines again. -/
lemma lines_unlines {lines : List Text} (noNewline : ∀ line ∈ lines, '\n' ∉ line)
    (some : lines ≠ []) : Text.lines (unlines lines) = lines :=
  List.splitOn_intercalate '\n' noNewline some

lemma exists_lines (text : Text) : ∃ first rest, lines text = first :: rest :=
  List.exists_cons_of_ne_nil (List.splitOnP_ne_nil _ _)

/-! ## Joining lines -/

@[simp] lemma unlines_singleton (line : Text) : unlines [line] = line :=
  List.intercalate_singleton

lemma unlines_cons_cons (first second : Text) (rest : List Text) :
    unlines (first :: second :: rest) = first ++ '\n' :: unlines (second :: rest) := by
  rw [unlines, List.intercalate_cons_cons, List.append_assoc]
  rfl

lemma unlines_append_head (lead first : Text) (rest : List Text) :
    unlines ((lead ++ first) :: rest) = lead ++ unlines (first :: rest) := by
  cases rest with
  | nil => rw [unlines_singleton, unlines_singleton]
  | cons next rest => rw [unlines_cons_cons, unlines_cons_cons, List.append_assoc]

/-- Two lists of lines meet at a newline. -/
lemma unlines_append {first second : List Text} (someFirst : first ≠ []) (someSecond : second ≠ []) :
    unlines (first ++ second) = unlines first ++ '\n' :: unlines second := by
  induction first with
  | nil => exact absurd rfl someFirst
  | cons line rest ih =>
    cases rest with
    | nil =>
      obtain ⟨next, more, rfl⟩ := List.exists_cons_of_ne_nil someSecond
      rw [List.singleton_append, unlines_cons_cons, unlines_singleton]
    | cons next more =>
      have later := ih (List.cons_ne_nil _ _)
      rw [List.cons_append] at later ⊢
      rw [List.cons_append, unlines_cons_cons, later, unlines_cons_cons, List.append_assoc,
        List.cons_append]

/-! ## Blank lines -/

lemma isBlankText_unlines {lines : List Text} (blank : ∀ line ∈ lines, isBlankText line = true) :
    isBlankText (unlines lines) = true := by
  induction lines with
  | nil => rfl
  | cons first rest ih =>
    obtain ⟨blankFirst, others⟩ := List.forall_mem_cons.1 blank
    cases rest with
    | nil => rwa [unlines_singleton]
    | cons second rest =>
      rw [unlines_cons_cons, isBlankText, List.all_append, Bool.and_eq_true, List.all_cons]
      exact ⟨blankFirst, ih others⟩

section

variable {blanks : List Text} (blank : ∀ line ∈ blanks, isBlankText line = true) (lines : List Text)

include blank

/-- Blank lines before other lines are a blank text before theirs. -/
lemma exists_unlines_append_left :
    ∃ lead, isBlankText lead = true ∧ unlines (blanks ++ lines) = lead ++ unlines lines := by
  have blankText := isBlankText_unlines blank
  by_cases noBlanks : blanks = []
  · exact ⟨[], rfl, by rw [noBlanks]; rfl⟩
  · by_cases noLines : lines = []
    · exact ⟨unlines blanks, blankText, by rw [noLines, List.append_nil]; exact (List.append_nil _).symm⟩
    · refine ⟨unlines blanks ++ ['\n'], ?_, ?_⟩
      · rw [isBlankText, List.all_append, Bool.and_eq_true]
        exact ⟨blankText, rfl⟩
      · rw [unlines_append noBlanks noLines, List.append_assoc]
        rfl

/-- Blank lines behind other lines are a blank text behind theirs. -/
lemma exists_unlines_append_right :
    ∃ trail, isBlankText trail = true ∧ unlines (lines ++ blanks) = unlines lines ++ trail := by
  have blankText := isBlankText_unlines blank
  by_cases noBlanks : blanks = []
  · exact ⟨[], rfl, by rw [noBlanks, List.append_nil]; exact (List.append_nil _).symm⟩
  · by_cases noLines : lines = []
    · exact ⟨unlines blanks, blankText, by rw [noLines]; rfl⟩
    · exact ⟨'\n' :: unlines blanks, blankText, unlines_append noLines noBlanks⟩

end

end Text

end GlassPrompt
