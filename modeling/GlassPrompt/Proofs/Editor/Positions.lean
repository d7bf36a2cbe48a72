import GlassPrompt.Proofs.Editor.TagReports
import GlassPrompt.Proofs.Frontmatter.RoundTrip
import Mathlib.Data.Nat.SuccPred
import Mathlib.Data.Prod.Lex
import Mathlib.Order.Interval.Set.Monotone

/-!
# Offsets and positions are the same order

An offset counts the characters of a text up to a place, and a position counts the lines and then the
characters in the last one.  Both say the same: the positions of a text, in the order of their lines and
characters, are its offsets in their order.

* `Position.instLinearOrder` — the order of positions.
* `Position.InText`, `Position.offsetIn` — the positions of a text, and the offset of each.
* `Position.after_wholeLines_append` — the position behind some lines and a part of a line.
* `Position.strictMonoOn_ofOffset`, `Position.monotone_ofOffset` — positions follow their offsets.
* `positions_sameOrder` — offsets and positions, and what follows for folding.
-/

namespace GlassPrompt

lemma clampOffset_le (length : ℕ) (offset : ℤ) : clampOffset length offset ≤ length :=
  Nat.min_le_right _ _

namespace Position

/-! ## The order of positions -/

/-- A position as a pair in which the line counts first. -/
def key (position : Position) : ℕ ×ₗ ℕ :=
  toLex (position.line, position.character)

lemma key_injective : Function.Injective key := by
  rintro ⟨line, character⟩ ⟨otherLine, otherCharacter⟩ same
  obtain ⟨rfl, rfl⟩ := Prod.mk.inj (toLex_inj.1 same)
  rfl

/-- Positions are ordered by their lines, and in a line by their characters. -/
instance instLinearOrder : LinearOrder Position :=
  LinearOrder.lift' key key_injective

lemma lt_iff {first second : Position} : first < second ↔
    first.line < second.line ∨ first.line = second.line ∧ first.character < second.character :=
  Prod.Lex.lt_iff

lemma line_le_of_le {first second : Position} (h : first ≤ second) : first.line ≤ second.line := by
  rcases Prod.Lex.toLex_le_toLex.1 h with before | ⟨same, -⟩
  · exact Nat.le_of_lt before
  · exact Nat.le_of_eq same

/-! ## The position behind a text -/

/-- Lines, each with its newline, and then a part of a line. -/
lemma after_wholeLines_append {lines : List Text} {last : Text}
    (noNewline : ∀ line ∈ lines, '\n' ∉ line) (oneLine : '\n' ∉ last) :
    after (wholeLines lines ++ last) = ⟨lines.length, last.length⟩ := by
  have newlines : (wholeLines lines).count '\n' = lines.length := by
    induction lines with
    | nil => rfl
    | cons line rest ih =>
      obtain ⟨first, others⟩ := List.forall_mem_cons.1 noNewline
      rw [wholeLines_cons, List.count_append, List.count_eq_zero.2 first, List.count_cons_self,
        ih others, List.length_cons, Nat.zero_add]
  have inLast : last.reverse.all (· != '\n') = true := by
    rw [List.all_eq_true]
    intro c member
    exact bne_iff_ne.2 (ne_of_mem_of_not_mem (List.mem_reverse.1 member) oneLine)
  have stops : ∀ c ∈ (wholeLines lines).reverse.head?, (c != '\n') = false := by
    rcases List.eq_nil_or_concat lines with rfl | ⟨before, line, rfl⟩
    · exact nofun
    · rw [List.head?_reverse, List.concat_eq_append, wholeLines_concat, List.getLast?_concat]
      rintro c ⟨⟩
      rfl
  rw [after, List.count_append, newlines, List.count_eq_zero.2 oneLine, List.reverse_append,
    takeWhile_of_stop inLast stops, List.length_reverse, Nat.add_zero]

/-- One more character is further on: in the next line if it is a newline, and else in the same one. -/
lemma after_lt_after_concat (text : Text) (c : Char) : after text < after (text ++ [c]) := by
  rw [lt_iff]
  by_cases newline : c = '\n'
  · subst newline
    exact .inl (by simp [after])
  · exact .inr (by simp [after, newline])

/-! ## Offsets inside the text -/

lemma ofOffset_natCast {text : Text} {offset : ℕ} (inside : offset ≤ text.length) :
    ofOffset text offset = after (text.take offset) := by
  rw [ofOffset, clampOffset, Int.toNat_natCast, Nat.min_eq_left inside]

/-- An offset counts as its nearest offset inside the text. -/
lemma ofOffset_clampOffset (text : Text) (offset : ℤ) :
    ofOffset text (clampOffset text.length offset : ℕ) = ofOffset text offset :=
  ofOffset_natCast (clampOffset_le _ _)

/-- **Positions follow their offsets.** -/
theorem strictMonoOn_ofOffset (text : Text) :
    StrictMonoOn (fun offset : ℕ => ofOffset text offset) (Set.Iic text.length) := by
  refine strictMonoOn_Iic_of_lt_succ fun offset before => ?_
  have next := List.take_concat_get' text offset before
  show ofOffset text offset < ofOffset text (offset + 1 : ℕ)
  rw [ofOffset_natCast before.le, ofOffset_natCast before, ← next]
  exact after_lt_after_concat _ _

/-- Outside the text, too, a position is not ahead of an earlier one. -/
theorem monotone_ofOffset (text : Text) : Monotone (ofOffset text) := by
  intro first second before
  have clamped : clampOffset text.length first ≤ clampOffset text.length second :=
    min_le_min_right _ (Int.toNat_le_toNat before)
  rw [← ofOffset_clampOffset text first, ← ofOffset_clampOffset text second]
  exact (strictMonoOn_ofOffset text).monotoneOn (clampOffset_le _ _) (clampOffset_le _ _) clamped

/-! ## The positions of a text -/

/-- The position is one of the text: it has as many lines, and the line has as many characters. -/
structure InText (text : Text) (position : Position) : Prop where
  line_le : position.line ≤ text.count '\n'
  character_le : ∃ line, (Text.lines text)[position.line]? = some line ∧
    position.character ≤ line.length

/-- The characters of the earlier lines, each with its newline, and those before the position in its
own line. -/
def offsetIn (text : Text) (position : Position) : ℕ :=
  spanOfLines ((Text.lines text).take position.line) + position.character

/-- A text is some lines with their newlines, and a last one without. -/
lemma exists_wholeLines_append (text : Text) : ∃ lines last,
    (∀ line ∈ lines, '\n' ∉ line) ∧ '\n' ∉ last ∧ text = wholeLines lines ++ last := by
  have some : Text.lines text ≠ [] := List.splitOnP_ne_nil _ _
  obtain ⟨lines, last, split⟩ := (List.eq_nil_or_concat (Text.lines text)).resolve_left some
  rw [List.concat_eq_append] at split
  have whole := Text.unlines_lines text
  rw [split, unlines_append_eq lines (List.cons_ne_nil last []), Text.unlines_singleton] at whole
  refine ⟨lines, last, fun line member => ?_, ?_, whole.symm⟩
  · exact noNewline_of_mem_lines (split ▸ List.mem_append_left _ member)
  · exact noNewline_of_mem_lines (split ▸ List.mem_append_right _ (List.mem_singleton_self last))

/-- A part of a line, at the head of a text, is a part of its first line. -/
lemma exists_lines_append {last : Text} (oneLine : '\n' ∉ last) (rest : Text) :
    ∃ first more, Text.lines (last ++ rest) = (last ++ first) :: more := by
  induction last with
  | nil => exact Text.exists_lines rest
  | cons c cs ih =>
    obtain ⟨other, later⟩ := List.ne_and_not_mem_of_not_mem_cons oneLine
    obtain ⟨first, more, split⟩ := ih later
    exact ⟨first, more, by rw [List.cons_append, Text.lines_cons other.symm, split]; rfl⟩

/-- The lines of a text, as the position behind a part of it tells them apart. -/
lemma exists_lines_after (before rest : Text) : ∃ lines line more,
    Text.lines (before ++ rest) = lines ++ line :: more ∧
      lines.length = (after before).line ∧ (after before).character ≤ line.length ∧
      spanOfLines lines + (after before).character = before.length := by
  obtain ⟨lines, last, noNewline, oneLine, rfl⟩ := exists_wholeLines_append before
  obtain ⟨first, more, split⟩ := exists_lines_append oneLine rest
  rw [after_wholeLines_append noNewline oneLine, List.append_assoc,
    lines_wholeLines_append noNewline, split, List.length_append, length_wholeLines]
  exact ⟨lines, last ++ first, more, rfl, rfl, by simp, rfl⟩

/-- **The position behind a part of a text has the length of that part as its offset.** -/
theorem offsetIn_after (before rest : Text) :
    offsetIn (before ++ rest) (after before) = before.length := by
  obtain ⟨lines, line, more, split, count, -, length⟩ := exists_lines_after before rest
  rw [offsetIn, split, ← count, List.take_left, length]

/-- A line stands behind the lines before it. -/
lemma exists_rest_of_line {text line : Text} {index : ℕ}
    (here : (Text.lines text)[index]? = some line) :
    ∃ rest, text = wholeLines ((Text.lines text).take index) ++ (line ++ rest) := by
  obtain ⟨known, rfl⟩ := List.getElem?_eq_some_iff.1 here
  have split : Text.lines text = (Text.lines text).take index ++
      ((Text.lines text)[index] ++ []) :: (Text.lines text).drop (index + 1) := by
    rw [List.append_nil, ← List.drop_eq_getElem_cons known, List.take_append_drop]
  have whole := Text.unlines_lines text
  rw [split, unlines_append_eq _ (List.cons_ne_nil _ _), Text.unlines_append_head] at whole
  exact ⟨_, whole.symm⟩

/-- A place in a line is behind the lines before it, and a part of the line. -/
lemma exists_append_of_line {text line : Text} {position : Position}
    (here : (Text.lines text)[position.line]? = some line) (within : position.character ≤ line.length) :
    ∃ before rest, text = before ++ rest ∧ after before = position := by
  obtain ⟨rest, whole⟩ := exists_rest_of_line here
  obtain ⟨known, rfl⟩ := List.getElem?_eq_some_iff.1 here
  have noNewline : ∀ line ∈ (Text.lines text).take position.line, '\n' ∉ line := fun line member =>
    noNewline_of_mem_lines (List.mem_of_mem_take member)
  have oneLine : '\n' ∉ (Text.lines text)[position.line].take position.character := fun member =>
    noNewline_of_mem_lines (List.getElem_mem known) (List.mem_of_mem_take member)
  refine ⟨wholeLines ((Text.lines text).take position.line) ++
    (Text.lines text)[position.line].take position.character,
    (Text.lines text)[position.line].drop position.character ++ rest, ?_, ?_⟩
  · rw [List.append_assoc, ← List.append_assoc (List.take _ _), List.take_append_drop, ← whole]
  · rw [after_wholeLines_append noNewline oneLine, List.length_take, List.length_take,
      Nat.min_eq_left known.le, Nat.min_eq_left within]

/-- **The positions of a text** are those behind its parts. -/
theorem inText_iff {text : Text} {position : Position} :
    position.InText text ↔ ∃ before rest, text = before ++ rest ∧ after before = position := by
  constructor
  · rintro ⟨-, line, here, within⟩
    exact exists_append_of_line here within
  · rintro ⟨before, rest, rfl, rfl⟩
    obtain ⟨lines, line, more, split, count, within, -⟩ := exists_lines_after before rest
    refine ⟨(List.sublist_append_left before rest).count_le '\n', line, ?_, within⟩
    rw [split, ← count, List.getElem?_append_right (Nat.le_refl _), Nat.sub_self]
    rfl

lemma inText_of_line {text line : Text} {position : Position}
    (here : (Text.lines text)[position.line]? = some line) (within : position.character ≤ line.length) :
    position.InText text :=
  inText_iff.2 (exists_append_of_line here within)

lemma inText_ofOffset (text : Text) (offset : ℤ) : (ofOffset text offset).InText text :=
  inText_iff.2 ⟨_, _, (List.take_append_drop (clampOffset text.length offset) text).symm, rfl⟩

lemma offsetIn_ofOffset (text : Text) (offset : ℤ) :
    offsetIn text (ofOffset text offset) = clampOffset text.length offset := by
  have length := offsetIn_after (text.take (clampOffset text.length offset))
    (text.drop (clampOffset text.length offset))
  rwa [List.take_append_drop, List.length_take, Nat.min_eq_left (clampOffset_le _ _)] at length

lemma offsetIn_natCast {text : Text} {offset : ℕ} (inside : offset ≤ text.length) :
    offsetIn text (ofOffset text offset) = offset := by
  rw [offsetIn_ofOffset, clampOffset, Int.toNat_natCast, Nat.min_eq_left inside]

lemma ofOffset_offsetIn {text : Text} {position : Position} (inside : position.InText text) :
    offsetIn text position ≤ text.length ∧ ofOffset text (offsetIn text position) = position := by
  obtain ⟨before, rest, rfl, rfl⟩ := inText_iff.1 inside
  have within : before.length ≤ (before ++ rest).length := (List.prefix_append before rest).length_le
  rw [offsetIn_after, ofOffset_natCast within, List.take_left]
  exact ⟨within, rfl⟩

/-- **The positions of a text are those of its offsets.** -/
theorem image_ofOffset (text : Text) :
    (fun offset : ℕ => ofOffset text offset) '' Set.Iic text.length = {p | p.InText text} := by
  refine Set.Subset.antisymm ?_ fun position inside => ?_
  · rintro _ ⟨offset, -, rfl⟩
    exact inText_ofOffset text offset
  · obtain ⟨within, same⟩ := ofOffset_offsetIn inside
    exact ⟨_, within, same⟩

end Position

/-! ## Folding -/

/-- The first range lies in the second one, or is the same. -/
def FoldingRange.Within (first second : FoldingRange) : Prop :=
  second.startLine ≤ first.startLine ∧ first.endLine ≤ second.endLine

section

variable {text : Text}

lemma line_ofOffset_le {first second : ℕ} (before : first ≤ second) :
    (Position.ofOffset text first).line ≤ (Position.ofOffset text second).line :=
  Position.line_le_of_le (Position.monotone_ofOffset text (Int.ofNat_le.2 before))

lemma startLine_le_endLine {range : FoldingRange} (member : range ∈ foldingRanges text) :
    range.startLine ≤ range.endLine := by
  obtain ⟨pair, folds, rfl⟩ := List.mem_map.1 member
  have ordered := ((ofTags_accounts (tagsOf_ordered text)).joins pair folds).2.2.ordered
  exact line_ofOffset_le ordered.le

/-- Tags that lie in each other have folding ranges that do. -/
lemma foldingRange_within {inner outer : TagPair} (within : inner.Within outer) :
    (foldingRange text inner).Within (foldingRange text outer) :=
  ⟨line_ofOffset_le within.1, line_ofOffset_le within.2⟩

end

/-! ## Offsets and positions -/

/-- **Offsets and positions are the same order.**  The positions of the offsets from the start of a text
to its end increase strictly, so no two are equal; they are the lines of the text with the characters of
each and the place behind them; and the offset is the number of characters of the earlier lines, each
with its newline, and of those before the position in its own.  Any integer outside the text has the
position of its nearest end.  So what can be folded starts before it ends, and inside a pair only lines
between those of the pair can be folded. -/
theorem positions_sameOrder (text : Text) :
    StrictMonoOn (fun offset : ℕ => Position.ofOffset text offset) (Set.Iic text.length) ∧
      Set.InjOn (fun offset : ℕ => Position.ofOffset text offset) (Set.Iic text.length) ∧
      (fun offset : ℕ => Position.ofOffset text offset) '' Set.Iic text.length =
        {position | position.InText text} ∧
      (∀ offset ≤ text.length, (Position.ofOffset text offset).offsetIn text = offset) ∧
      (∀ offset : ℤ, offset ≤ 0 → Position.ofOffset text offset = Position.ofOffset text 0) ∧
      (∀ offset : ℤ, text.length ≤ offset →
        Position.ofOffset text offset = Position.ofOffset text text.length) ∧
      (∀ range ∈ foldingRanges text, range.startLine ≤ range.endLine) ∧
      ∀ outer ∈ foldablePairs text, ∀ inner ∈ foldablePairs text, inner.Within outer →
        (foldingRange text inner).Within (foldingRange text outer) := by
  refine ⟨Position.strictMonoOn_ofOffset text, (Position.strictMonoOn_ofOffset text).injOn,
    Position.image_ofOffset text, fun offset => Position.offsetIn_natCast, fun offset before => ?_,
    fun offset behind => ?_, fun range => startLine_le_endLine,
    fun outer _ inner _ => foldingRange_within⟩
  · rw [Position.ofOffset, clampOffset, Int.toNat_of_nonpos before]
    rfl
  · have whole : clampOffset text.length offset = text.length :=
      Nat.min_eq_right ((Int.le_toNat (by omega)).2 behind)
    rw [← Position.ofOffset_clampOffset, whole]

/-- Newlines at both ends and one behind another, and a pair of tags inside another. -/
def spacedPairs : Text :=
  "\n<User>\n\n<b>\nx</b></User>\n".toList

/-- The empty line has one position, and the inner pair is on lines between those of the outer one. -/
theorem positions_sameOrder_spaced :
    Position.ofOffset spacedPairs (8 : ℕ) < Position.ofOffset spacedPairs (9 : ℕ) ∧
      (⟨2, 0⟩ : Position).InText spacedPairs ∧
      (Position.ofOffset spacedPairs (8 : ℕ)).offsetIn spacedPairs = 8 ∧
      Position.ofOffset spacedPairs (-3) = ⟨0, 0⟩ ∧ Position.ofOffset spacedPairs 99 = ⟨5, 0⟩ ∧
      ∃ outer ∈ foldablePairs spacedPairs, ∃ inner ∈ foldablePairs spacedPairs, inner.Within outer ∧
        outer ≠ inner ∧ (foldingRange spacedPairs inner).Within (foldingRange spacedPairs outer) := by
  obtain ⟨increasing, -, image, recovered, before, behind, -, nested⟩ := positions_sameOrder spacedPairs
  have position : (⟨2, 0⟩ : Position) ∈ {position | Position.InText spacedPairs position} :=
    image ▸ ⟨8, by decide, rfl⟩
  have outer : ⟨⟨"User".toList, [], .opening, 1, 7⟩, ⟨"User".toList, [], .closing, 18, 25⟩⟩ ∈
      foldablePairs spacedPairs := mem_pairs_ofTags.2 ⟨true, by decide +kernel⟩
  have inner : ⟨⟨['b'], [], .opening, 9, 12⟩, ⟨['b'], [], .closing, 14, 18⟩⟩ ∈
      foldablePairs spacedPairs := mem_pairs_ofTags.2 ⟨false, by decide +kernel⟩
  have within : 1 ≤ 9 ∧ 14 ≤ 18 := by decide
  exact ⟨increasing (by decide) (by decide) (by decide), position, recovered 8 (by decide),
    (before (-3) (by decide)).trans rfl, (behind 99 (by decide)).trans rfl, _, outer, _, inner,
    within, by decide, nested _ outer _ inner within⟩

end GlassPrompt
