import GlassPrompt.Proofs.Text.Lines
import GlassPrompt.Proofs.Text.Margins
import Mathlib.Data.List.TakeWhile

/-!
# Texts up to their indentation

Code is laid out line by line and row by row: lines lose the margin that they share, and rows get a new
one.  None of this can be seen in the text without the indentation of its rows.

* `EndsRows` — a notion of where rows end.
* `unindentFrom`, `unindent` — the text without the indentation of its rows.
* `unindentFrom_unlines` — a text is unindented line by line.
* `unindent_dedentLines`, `unindent_indent` — removing a margin and putting one before every row.
-/

namespace GlassPrompt

/-! ## Rows without their indentation -/

/-- A notion of where rows end: a newline ends a row, and nothing but line boundaries does. -/
structure EndsRows (ends : Char → Bool) : Prop where
  newline : ends '\n' = true
  boundary : ∀ c, ends c = true → isRowEnd c = true

/-- Rows end at newlines only. -/
lemma endsRows_newline : EndsRows (· == '\n') where
  newline := rfl
  boundary c newline := by
    rw [beq_iff_eq.1 newline]
    rfl

/-- Rows end at all line boundaries. -/
lemma endsRows_isRowEnd : EndsRows isRowEnd where
  newline := rfl
  boundary _ rowEnd := rowEnd

/-- A character of a class differs from one that is not in it. -/
lemma ne_of_class {p : Char → Bool} {c d : Char} (inClass : p c = true) (outside : p d = false) :
    c ≠ d := by
  rintro rfl
  exact Bool.noConfusion (inClass.symm.trans outside)

/-- No line boundary indents. -/
lemma isIndent_of_isRowEnd {c : Char} (rowEnd : isRowEnd c = true) : isIndent c = false := by
  have noSpace : c ≠ ' ' := ne_of_class rowEnd rfl
  have noTab : c ≠ '\t' := ne_of_class rowEnd rfl
  simp [isIndent, noSpace, noTab]

lemma isBlank_of_isRowEnd {c : Char} (rowEnd : isRowEnd c = true) : isBlank c = true := by
  simp only [isRowEnd, Bool.or_eq_true, Bool.and_eq_true, decide_eq_true_eq, beq_iff_eq] at rowEnd
  simp only [isBlank, Bool.or_eq_true, Bool.and_eq_true, decide_eq_true_eq, beq_iff_eq]
  omega

/-- The text without the indentation of its rows; `ends` tells where rows end, and `fresh` whether the
text is the start of a row. -/
def unindentFrom (ends : Char → Bool) (fresh : Bool) : Text → Text
  | [] => []
  | c :: rest =>
    if fresh && isIndent c then unindentFrom ends true rest else c :: unindentFrom ends (ends c) rest

/-- The text without the indentation of its rows, the first one apart. -/
def unindent (ends : Char → Bool) (text : Text) : Text :=
  unindentFrom ends false text

/-- Whether only indentation comes between the last row end and the end of the text. -/
def freshAfter (ends : Char → Bool) (fresh : Bool) : Text → Bool
  | [] => fresh
  | c :: rest => freshAfter ends (fresh && isIndent c || ends c) rest

section

variable {ends : Char → Bool} {fresh : Bool}

lemma unindentFrom_drop {c : Char} {rest : Text} (dropped : (fresh && isIndent c) = true) :
    unindentFrom ends fresh (c :: rest) = unindentFrom ends true rest :=
  if_pos dropped

lemma unindentFrom_keep {c : Char} {rest : Text} (kept : (fresh && isIndent c) = false) :
    unindentFrom ends fresh (c :: rest) = c :: unindentFrom ends (ends c) rest :=
  if_neg (Bool.not_eq_true _ ▸ kept)

lemma freshAfter_append (ends : Char → Bool) (fresh : Bool) (first second : Text) :
    freshAfter ends fresh (first ++ second) =
      freshAfter ends (freshAfter ends fresh first) second := by
  induction first generalizing fresh with
  | nil => rfl
  | cons c rest ih => exact ih _

lemma unindentFrom_append (ends : Char → Bool) (fresh : Bool) (first second : Text) :
    unindentFrom ends fresh (first ++ second) =
      unindentFrom ends fresh first ++ unindentFrom ends (freshAfter ends fresh first) second := by
  induction first generalizing fresh with
  | nil => rfl
  | cons c rest ih =>
    rw [List.cons_append, unindentFrom, unindentFrom, freshAfter, ih, ih]
    cases fresh && isIndent c <;> rfl

/-- One more character, behind a text that leaves off at the start of a row or not. -/
lemma unindentFrom_snoc {start fresh : Bool} {text : Text} (row : freshAfter ends start text = fresh)
    (c : Char) :
    unindentFrom ends start (text ++ [c]) =
      unindentFrom ends start text ++ unindentFrom ends fresh [c] := by
  rw [unindentFrom_append, row]

lemma freshAfter_snoc {start fresh : Bool} {text : Text} (row : freshAfter ends start text = fresh)
    (c : Char) : freshAfter ends start (text ++ [c]) = (fresh && isIndent c || ends c) := by
  rw [freshAfter_append, row]
  rfl

lemma head?_unindentFrom_false (ends : Char → Bool) (text : Text) :
    (unindentFrom ends false text).head? = text.head? := by
  cases text <;> rfl

/-- A text on one row has no row to unindent. -/
lemma unindent_of_oneRow {text : Text} (oneRow : ∀ c ∈ text, ends c = false) :
    unindent ends text = text := by
  induction text with
  | nil => rfl
  | cons c rest ih =>
    obtain ⟨first, others⟩ := List.forall_mem_cons.1 oneRow
    rw [unindent, unindentFrom_keep (Bool.false_and _), first]
    exact congrArg (c :: ·) (ih others)

/-- Unindenting keeps the row ends. -/
lemma mem_unindentFrom (rows : EndsRows ends) {c : Char} (isEnd : ends c = true) (fresh : Bool)
    {text : Text} (member : c ∈ text) : c ∈ unindentFrom ends fresh text := by
  induction text generalizing fresh with
  | nil => exact nomatch member
  | cons d rest ih =>
    cases dropped : fresh && isIndent d with
    | true =>
      rw [unindentFrom_drop dropped]
      rcases List.mem_cons.1 member with rfl | later
      · have noIndent := isIndent_of_isRowEnd (rows.boundary c isEnd)
        exact Bool.noConfusion ((Bool.and_eq_true_iff.1 dropped).2.symm.trans noIndent)
      · exact ih true later
    | false =>
      rw [unindentFrom_keep dropped]
      rcases List.mem_cons.1 member with rfl | later
      · exact List.mem_cons_self
      · exact List.mem_cons_of_mem _ (ih _ later)

/-- Indentation at the start of a row is dropped. -/
lemma unindentFrom_margin {margin : Text} (indents : margin.all isIndent = true) (text : Text) :
    unindentFrom ends true (margin ++ text) = unindentFrom ends true text := by
  induction margin with
  | nil => rfl
  | cons c rest ih =>
    obtain ⟨first, others⟩ := Bool.and_eq_true_iff.1 indents
    rw [List.cons_append, unindentFrom_drop (by rw [first, Bool.and_self])]
    exact ih others

/-- Behind a row end, a row starts. -/
lemma unindentFrom_append_end (rows : EndsRows ends) {c : Char} (isEnd : ends c = true)
    (fresh : Bool) (first second : Text) :
    unindentFrom ends fresh (first ++ c :: second) =
      unindentFrom ends fresh first ++ c :: unindentFrom ends true second := by
  have kept : (freshAfter ends fresh first && isIndent c) = false := by
    rw [isIndent_of_isRowEnd (rows.boundary c isEnd), Bool.and_false]
  rw [unindentFrom_append, unindentFrom_keep kept, isEnd]

end

namespace Text

/-! ## Line by line -/

section

variable {ends : Char → Bool} (rows : EndsRows ends)

include rows

lemma unindentFrom_unlines_cons (fresh : Bool) (first : Text) (rest : List Text) :
    unindentFrom ends fresh (unlines (first :: rest)) =
      unlines (unindentFrom ends fresh first :: rest.map (unindentFrom ends true)) := by
  induction rest generalizing fresh first with
  | nil => rw [unlines_singleton, List.map_nil, unlines_singleton]
  | cons second rest ih =>
    rw [unlines_cons_cons, List.map_cons, unlines_cons_cons,
      unindentFrom_append_end rows rows.newline, ih]

/-- **A text is unindented line by line.** -/
theorem unindentFrom_unlines (lines : List Text) :
    unindentFrom ends true (unlines lines) = unlines (lines.map (unindentFrom ends true)) := by
  cases lines with
  | nil => rfl
  | cons first rest => exact unindentFrom_unlines_cons rows true first rest

end

/-! ## The common margin -/

/-- **Removing the common margin** changes the indentation only. -/
theorem unindent_dedentLines (ends : Char → Bool) (lines : List Text) :
    (dedentLines lines).map (unindentFrom ends true) = lines.map (unindentFrom ends true) := by
  unfold dedentLines
  rw [List.map_map]
  refine List.map_congr_left fun line member => ?_
  dsimp only [Function.comp]
  split_ifs with indents
  · have dropped : unindentFrom ends true (line ++ []) = [] := unindentFrom_margin indents []
    rw [List.append_nil] at dropped
    exact dropped.symm
  · have whole := commonMargin_append_drop member (Bool.eq_false_iff.2 indents)
    conv_rhs => rw [← whole, unindentFrom_margin (all_isIndent_commonMargin lines)]

/-! ## A margin before every row -/

/-- All rows but the last one have their ending. -/
def RowsEnd : List Text → Prop
  | row :: next :: more => (∃ start c, row = start ++ [c] ∧ isRowEnd c = true) ∧ RowsEnd (next :: more)
  | _ => True

lemma RowsEnd.cons {row : Text} {more : List Text}
    (ends : ∃ start c, row = start ++ [c] ∧ isRowEnd c = true) (h : RowsEnd more) :
    RowsEnd (row :: more) := by
  cases more with
  | nil => trivial
  | cons next more => exact ⟨ends, h⟩

lemma rowsEnd_rows (text : Text) : RowsEnd (rows text) := by
  fun_induction rows text with
  | case1 => trivial
  | case2 rest ih => exact ih.cons ⟨['\r'], '\n', rfl, rfl⟩
  | case3 c rest _ rowEnd ih => exact ih.cons ⟨[], c, rfl, rowEnd⟩
  | case4 => trivial
  | case5 c rest _ _ row more same ih =>
    rw [same] at ih
    cases more with
    | nil => trivial
    | cons next more =>
      obtain ⟨⟨start, d, eq, rowEnd⟩, later⟩ := ih
      exact ⟨⟨c :: start, d, by rw [eq, List.cons_append], rowEnd⟩, later⟩

/-- **Putting a margin before every row** changes the indentation only. -/
theorem unindent_indent {margin : Text} (indents : margin.all isIndent = true) (text : Text) :
    unindentFrom isRowEnd true (indent margin text) = unindentFrom isRowEnd true text := by
  have indented (row : Text) : ∃ lead : Text, lead.all isIndent = true ∧
      (if isBlankText row then row else margin ++ row) = lead ++ row := by
    split_ifs
    · exact ⟨[], rfl, rfl⟩
    · exact ⟨margin, indents, rfl⟩
  have ended := rowsEnd_rows text
  conv_rhs => rw [← rows_flatten text]
  unfold indent
  generalize rows text = list at ended ⊢
  induction list with
  | nil => rfl
  | cons first more ih =>
    obtain ⟨lead, isLead, eq⟩ := indented first
    rw [List.flatMap_cons, List.flatten_cons, eq, List.append_assoc, unindentFrom_margin isLead]
    cases more with
    | nil => rfl
    | cons next more =>
      obtain ⟨⟨start, c, rfl, rowEnd⟩, later⟩ := ended
      rw [List.append_assoc, List.append_assoc, List.singleton_append, List.singleton_append,
        unindentFrom_append_end endsRows_isRowEnd rowEnd,
        unindentFrom_append_end endsRows_isRowEnd rowEnd, ih later]

end Text

end GlassPrompt
