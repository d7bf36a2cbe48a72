import GlassPrompt.Text.Lines
import Mathlib.Data.List.TakeWhile
import Mathlib.Tactic

/-!
# Margins of lines

The common margin is the longest text that the indentation of all lines starts with.  Putting a margin
before every line makes the common one longer by it, so what is left without the common margin stays
the same.

* `Text.commonMargin_isPrefix`, `Text.all_isIndent_commonMargin` — the common margin of lines.
* `Text.commonMargin_map_append` — a margin before every line, seen in the common one.
* `Text.dedentLines_map_append` — a margin before every line is removed.
* `Text.dedentLines_dedentLines` — lines without a common margin stay as they are.
-/

namespace GlassPrompt

namespace Text

/-! ## Longest common starts -/

lemma commonStart_isPrefix (first second : Text) :
    commonStart first second <+: first ∧ commonStart first second <+: second := by
  induction first generalizing second with
  | nil => exact ⟨List.nil_prefix, List.nil_prefix⟩
  | cons a s ih =>
    cases second with
    | nil => exact ⟨List.nil_prefix, List.nil_prefix⟩
    | cons b t =>
      unfold commonStart
      split_ifs with same
      · subst same
        exact ⟨(List.prefix_cons_inj a).2 (ih t).1, (List.prefix_cons_inj a).2 (ih t).2⟩
      · exact ⟨List.nil_prefix, List.nil_prefix⟩

lemma foldl_commonStart_isPrefix (margin : Text) (margins : List Text) :
    ∀ other ∈ margin :: margins, margins.foldl commonStart margin <+: other := by
  induction margins generalizing margin with
  | nil =>
    intro other member
    rw [List.mem_singleton.1 member]
    exact List.prefix_rfl
  | cons next rest ih =>
    have start := ih (commonStart margin next)
    have common := start _ List.mem_cons_self
    obtain ⟨left, right⟩ := commonStart_isPrefix margin next
    intro other member
    rcases List.mem_cons.1 member with rfl | later
    · exact common.trans left
    · rcases List.mem_cons.1 later with rfl | later
      · exact common.trans right
      · exact start other (List.mem_cons_of_mem _ later)

lemma commonStart_append (front first second : Text) :
    commonStart (front ++ first) (front ++ second) = front ++ commonStart first second := by
  induction front with
  | nil => rfl
  | cons c rest ih =>
    rw [List.cons_append, List.cons_append, commonStart, if_pos rfl, ih, List.cons_append]

lemma foldl_commonStart_append (front first : Text) (others : List Text) :
    (others.map (front ++ ·)).foldl commonStart (front ++ first) =
      front ++ others.foldl commonStart first := by
  induction others generalizing first with
  | nil => rfl
  | cons next rest ih => rw [List.map_cons, List.foldl_cons, commonStart_append, ih, List.foldl_cons]

/-! ## The common margin -/

section

variable {lines : List Text} {line : Text} (member : line ∈ lines) (text : line.all isIndent = false)

include member text

lemma indentation_mem_margins : line.takeWhile isIndent ∈ lines.filterMap margin? :=
  List.mem_filterMap.2 ⟨line, member, by rw [margin?, text]; rfl⟩

/-- The common margin is indentation that every line with a margin starts with. -/
lemma commonMargin_isPrefix : commonMargin lines <+: line.takeWhile isIndent := by
  have known := indentation_mem_margins member text
  unfold commonMargin
  cases margins : lines.filterMap margin? with
  | nil => exact absurd (margins ▸ known) List.not_mem_nil
  | cons margin rest => exact foldl_commonStart_isPrefix margin rest _ (margins ▸ known)

/-- A line is its common margin and what is left without it. -/
lemma commonMargin_append_drop :
    commonMargin lines ++ line.drop (commonMargin lines).length = line :=
  List.prefix_iff_eq_append.1
    ((commonMargin_isPrefix member text).trans (List.takeWhile_prefix isIndent))

end

lemma commonMargin_of_indent {lines : List Text} (indents : ∀ line ∈ lines, line.all isIndent = true) :
    commonMargin lines = [] := by
  have noMargins : lines.filterMap margin? = [] :=
    List.filterMap_eq_nil_iff.2 fun line member => by rw [margin?, if_pos (indents line member)]
  rw [commonMargin, noMargins]

lemma all_isIndent_commonMargin (lines : List Text) : (commonMargin lines).all isIndent = true := by
  by_cases indents : ∀ line ∈ lines, line.all isIndent = true
  · rw [commonMargin_of_indent indents]
    rfl
  · push Not at indents
    obtain ⟨line, member, text⟩ := indents
    have start := commonMargin_isPrefix member (Bool.eq_false_iff.2 text)
    exact List.all_eq_true.2 fun c inside => List.mem_takeWhile_imp (start.subset inside)

/-! ## A margin before every line -/

section

variable {margin : Text} (indents : margin.all isIndent = true)

include indents

lemma all_isIndent_append (line : Text) : (margin ++ line).all isIndent = line.all isIndent := by
  rw [List.all_append, indents, Bool.true_and]

lemma margin?_append (line : Text) : margin? (margin ++ line) = (margin? line).map (margin ++ ·) := by
  rw [margin?, margin?, all_isIndent_append indents,
    List.takeWhile_append_of_pos (List.all_eq_true.1 indents)]
  split <;> rfl

lemma commonMargin_map_append {lines : List Text} {line : Text} (member : line ∈ lines)
    (text : line.all isIndent = false) :
    commonMargin (lines.map (margin ++ ·)) = margin ++ commonMargin lines := by
  have known := indentation_mem_margins member text
  have margins : (lines.map (margin ++ ·)).filterMap margin? =
      (lines.filterMap margin?).map (margin ++ ·) := by
    rw [List.filterMap_map, List.map_filterMap]
    exact List.filterMap_congr fun line _ => margin?_append indents line
  rw [commonMargin, commonMargin, margins]
  cases found : lines.filterMap margin? with
  | nil => exact absurd (found ▸ known) List.not_mem_nil
  | cons first others => exact foldl_commonStart_append margin first others

/-- **A margin before every line is removed.** -/
theorem dedentLines_map_append (lines : List Text) :
    dedentLines (lines.map (margin ++ ·)) = dedentLines lines := by
  unfold dedentLines
  rw [List.map_map]
  refine List.map_congr_left fun line member => ?_
  dsimp only [Function.comp]
  rw [all_isIndent_append indents]
  split_ifs with blank
  · rfl
  · rw [commonMargin_map_append indents member (Bool.eq_false_iff.2 blank), List.length_append,
      List.drop_length_add_append]

end

/-! ## Lines without a common margin -/

/-- Lines of spaces and tabs only have no part in the common margin. -/
lemma dedentLines_map_of_indent {f : Text → Text} {lines : List Text}
    (same : ∀ line ∈ lines, f line = line ∨ (f line).all isIndent = true ∧ line.all isIndent = true) :
    dedentLines (lines.map f) = dedentLines lines := by
  have margins : (lines.map f).filterMap margin? = lines.filterMap margin? := by
    rw [List.filterMap_map]
    refine List.filterMap_congr fun line member => ?_
    rcases same line member with same | ⟨after, before⟩
    · exact congrArg margin? same
    · rw [Function.comp_apply, margin?, margin?, if_pos after, if_pos before]
  unfold dedentLines commonMargin
  rw [margins, List.map_map]
  refine List.map_congr_left fun line member => ?_
  rcases same line member with same | ⟨after, before⟩
  · rw [Function.comp_apply, same]
  · rw [Function.comp_apply, if_pos after, if_pos before]

/-- **Lines without a common margin stay as they are.** -/
theorem dedentLines_dedentLines (lines : List Text) :
    dedentLines (dedentLines lines) = dedentLines lines := by
  have indents := all_isIndent_commonMargin lines
  -- With the margin put back, only the lines of spaces and tabs differ from the given ones.
  have putBack : (dedentLines lines).map (commonMargin lines ++ ·) =
      lines.map fun line => if line.all isIndent then commonMargin lines else line := by
    rw [dedentLines, List.map_map]
    refine List.map_congr_left fun line member => ?_
    dsimp only [Function.comp]
    split_ifs with blank
    · exact List.append_nil _
    · exact commonMargin_append_drop member (Bool.eq_false_iff.2 blank)
  rw [← dedentLines_map_append indents, putBack]
  refine dedentLines_map_of_indent fun line _ => ?_
  split_ifs with blank
  · exact .inr ⟨indents, blank⟩
  · exact .inl rfl

end Text

end GlassPrompt
