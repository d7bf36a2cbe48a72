import GlassPrompt.Proofs.Template.Numbering

/-!
# Where placeholders can be read in a template

A template has no way of telling a placeholder from literal text that spells one.  What can be said is
that no placeholder is read across a seam: each is one that was put in a slot, or it stands in the
literal text between two slots.

* `Text.occurrences` — how often a word can be read in a text; `Text.occurrences_append` splits the
  text where no reading runs over the seam.
* `Text.ofNat_injective`, `placeholder_prefix_iff` — different numbers have different placeholders.
* `stretches`, `weave` — the literal text between the slots, and how the text of a template is made
  from it (`piecesText_eq_weave`).
* `occurrences_piecesText` — the readings of a placeholder, counted.
* `placeholder_read` — the plain template of a document.
-/

namespace GlassPrompt

namespace Text

/-! ## Occurrences -/

/-- How often `word` can be read in `text`, wherever the reading starts. -/
def occurrences (word text : Text) : Nat :=
  text.tails.countP (word.isPrefixOf ·)

variable {word : Text}

lemma occurrences_cons (word : Text) (c : Char) (rest : Text) :
    occurrences word (c :: rest) =
      occurrences word rest + if word.isPrefixOf (c :: rest) then 1 else 0 := by
  rw [occurrences, List.tails_cons, List.countP_cons, occurrences]

lemma occurrences_nil (nonempty : word ≠ []) : occurrences word [] = 0 := by
  obtain ⟨c, rest, rfl⟩ := List.exists_cons_of_ne_nil nonempty
  rfl

lemma occurrences_eq_zero {text : Text} :
    occurrences word text = 0 ↔ ¬ word <:+: text := by
  rw [occurrences, List.countP_eq_zero]
  simp only [List.mem_tails, List.isPrefixOf_iff_prefix, List.infix_iff_prefix_suffix, not_exists,
    not_and]
  exact ⟨fun h tail reads suffix => h tail suffix reads, fun h tail suffix reads => h tail reads suffix⟩

/-- A word is not read where its first character does not stand. -/
lemma occurrences_of_notMem {first : Char} {rest text : Text} (absent : first ∉ text) :
    occurrences (first :: rest) text = 0 := by
  induction text with
  | nil => exact occurrences_nil (List.cons_ne_nil _ _)
  | cons c more ih =>
    obtain ⟨differs, later⟩ := not_or.1 (mt List.mem_cons.2 absent)
    have notHere : (first :: rest).isPrefixOf (c :: more) = false := by
      rw [List.isPrefixOf_cons_cons, beq_eq_false_iff_ne.2 differs, Bool.false_and]
    rw [occurrences_cons, notHere, ih later]
    rfl

/-- The readings of a word in two texts are those in the first and those in the second, if none runs
over the seam. -/
theorem occurrences_append (nonempty : word ≠ []) {first second : Text}
    (seam : ∀ head tail, head ≠ [] → tail ≠ [] → head ++ tail = word → head <:+ first →
      ¬ tail <+: second) :
    occurrences word (first ++ second) = occurrences word first + occurrences word second := by
  induction first with
  | nil => rw [List.nil_append, occurrences_nil nonempty, Nat.zero_add]
  | cons c rest ih =>
    have within : word.isPrefixOf (c :: (rest ++ second)) = word.isPrefixOf (c :: rest) := by
      rw [Bool.eq_iff_iff, List.isPrefixOf_iff_prefix, List.isPrefixOf_iff_prefix]
      refine ⟨fun reads => ?_, fun reads => reads.trans (List.prefix_append (c :: rest) second)⟩
      rcases List.prefix_or_prefix_of_prefix reads (List.prefix_append (c :: rest) second) with
        inside | ⟨tail, rfl⟩
      · exact inside
      · by_cases done : tail = []
        · rw [done, List.append_nil]
        · exact absurd ((List.prefix_append_right_inj _).1 reads)
            (seam (c :: rest) tail (List.cons_ne_nil _ _) done rfl List.suffix_rfl)
    have later := ih fun head tail isHead isTail whole suffix =>
      seam head tail isHead isTail whole (suffix.trans (List.suffix_cons c rest))
    rw [List.cons_append, occurrences_cons, occurrences_cons, within, later]
    omega

/-! ## Numerals -/

lemma isDigit_of_mem_ofNat {n : Nat} {c : Char} (member : c ∈ ofNat n) : c.isDigit = true :=
  Nat.isDigit_of_mem_toDigits (by decide) (by decide) member

/-- Different numbers have different numerals. -/
theorem ofNat_injective : Function.Injective ofNat := fun first second same =>
  calc
    first = Nat.ofDigitChars 10 (ofNat first) 0 := Nat.ofDigitChars_ten_toDigits.symm
    _ = Nat.ofDigitChars 10 (ofNat second) 0 := by rw [same]
    _ = second := Nat.ofDigitChars_ten_toDigits

end Text

/-! ## Placeholders -/

lemma openBrace_notMem (index : Nat) : '\x7b' ∉ Text.ofNat index ++ ['\x7d'] := by
  intro member
  rcases List.mem_append.1 member with digit | brace
  · exact absurd (Text.isDigit_of_mem_ofNat digit) (by decide)
  · exact absurd (List.mem_singleton.1 brace) (by decide)

lemma closeBrace_notMem (index : Nat) : '\x7d' ∉ '\x7b' :: Text.ofNat index := by
  intro member
  rcases List.mem_cons.1 member with brace | digit
  · exact absurd brace (by decide)
  · exact absurd (Text.isDigit_of_mem_ofNat digit) (by decide)

lemma placeholder_ne_nil (index : Nat) : placeholder index ≠ [] :=
  List.cons_ne_nil _ _

/-- The numeral of a placeholder is what stands before the closing brace. -/
lemma placeholder_prefix_iff {first second : Nat} :
    placeholder first <+: placeholder second ↔ first = second := by
  refine ⟨fun ⟨rest, same⟩ => Text.ofNat_injective ?_, fun same => same ▸ List.prefix_rfl⟩
  have numeral (index : Nat) (rest : Text) :
      (Text.ofNat index ++ '\x7d' :: rest).takeWhile (· != '\x7d') = Text.ofNat index := by
    rw [List.takeWhile_append_of_pos, List.takeWhile_cons_of_neg (by decide), List.append_nil]
    intro c digit
    rw [bne_iff_ne]
    rintro rfl
    exact closeBrace_notMem index (List.mem_cons_of_mem _ digit)
  have tails := congrArg List.tail same
  simp only [placeholder, List.cons_append, List.tail_cons, List.append_assoc,
    List.nil_append] at tails
  rw [← numeral first rest, tails, numeral]

/-- In a placeholder, only itself can be read. -/
lemma occurrences_placeholder (index other : Nat) :
    Text.occurrences (placeholder index) (placeholder other) = if other = index then 1 else 0 := by
  have inside : Text.occurrences (placeholder index) (Text.ofNat other ++ ['\x7d']) = 0 :=
    Text.occurrences_of_notMem (openBrace_notMem other)
  rw [placeholder.eq_1 other, List.cons_append, Text.occurrences_cons, inside, ← List.cons_append,
    ← placeholder.eq_1 other, Nat.zero_add]
  refine if_congr ?_ rfl rfl
  rw [List.isPrefixOf_iff_prefix, placeholder_prefix_iff, eq_comm]

/-- No placeholder is read across the start of a placeholder. -/
lemma occurrences_append_placeholder (index other : Nat) (before after : Text) :
    Text.occurrences (placeholder index) (before ++ (placeholder other ++ after)) =
      Text.occurrences (placeholder index) before +
        Text.occurrences (placeholder index) (placeholder other ++ after) := by
  refine Text.occurrences_append (placeholder_ne_nil index) ?_
  intro head tail isHead isTail whole _ reads
  obtain ⟨c, head, rfl⟩ := List.exists_cons_of_ne_nil isHead
  obtain ⟨d, tail, rfl⟩ := List.exists_cons_of_ne_nil isTail
  obtain rfl : d = '\x7b' := (List.cons_prefix_cons.1 reads).1
  have numeral : head ++ '\x7b' :: tail = Text.ofNat index ++ ['\x7d'] := (List.cons.inj whole).2
  exact openBrace_notMem index (numeral ▸ List.mem_append_right _ List.mem_cons_self)

/-- No placeholder is read across the end of a placeholder. -/
lemma occurrences_placeholder_append (index other : Nat) (after : Text) :
    Text.occurrences (placeholder index) (placeholder other ++ after) =
      Text.occurrences (placeholder index) (placeholder other) +
        Text.occurrences (placeholder index) after := by
  refine Text.occurrences_append (placeholder_ne_nil index) ?_
  intro head tail isHead isTail whole suffix _
  obtain ⟨head, c, rfl⟩ := List.eq_nil_or_concat' head |>.resolve_left isHead
  obtain ⟨tail, d, rfl⟩ := List.eq_nil_or_concat' tail |>.resolve_left isTail
  obtain rfl : c = '\x7d' := by
    obtain ⟨lead, eq⟩ := suffix
    rw [← List.append_assoc] at eq
    exact (List.append_inj' eq rfl).2 |> List.cons.inj |>.1
  rw [← List.append_assoc] at whole
  have numeral := (List.append_inj' whole rfl).1
  exact closeBrace_notMem index (numeral ▸ by simp)

/-! ## The text between the slots -/

/-- The literal text up to the first slot, behind what is given, between the slots, and behind the last
one. -/
def stretchesFrom (literal : Text) : List Piece → List Text
  | [] => [literal]
  | .literal text :: rest => stretchesFrom (literal ++ text) rest
  | .slot _ :: rest => literal :: stretchesFrom [] rest

/-- The literal text of a template, up to the first slot, between the slots, and behind the last one. -/
def stretches (pieces : List Piece) : List Text :=
  stretchesFrom [] pieces

/-- Stretches of literal text with placeholders between them. -/
def weave : List Text → List Nat → Text
  | literal :: rest, index :: later => literal ++ (placeholder index ++ weave rest later)
  | literals, _ => literals.flatten

lemma piecesText_eq_weave (literal : Text) (pieces : List Piece) :
    literal ++ piecesText pieces = weave (stretchesFrom literal pieces) (slots pieces) := by
  induction pieces generalizing literal with
  | nil => rfl
  | cons piece rest ih =>
    cases piece with
    | literal text =>
      have joined := ih (literal ++ text)
      rw [List.append_assoc] at joined
      exact joined
    | slot index => exact congrArg (fun text => literal ++ (placeholder index ++ text)) (ih [])

lemma length_stretchesFrom (literal : Text) (pieces : List Piece) :
    (stretchesFrom literal pieces).length = (slots pieces).length + 1 := by
  induction pieces generalizing literal with
  | nil => rfl
  | cons piece rest ih =>
    cases piece with
    | literal text => exact ih (literal ++ text)
    | slot index => exact congrArg (· + 1) (ih [])

/-- **A placeholder is read in the slots that hold its number**, and in the stretches of literal text
that spell it; never across the seam of the two. -/
theorem occurrences_piecesText (index : Nat) (literal : Text) (pieces : List Piece) :
    Text.occurrences (placeholder index) (literal ++ piecesText pieces) =
      (slots pieces).count index +
        ((stretchesFrom literal pieces).map (Text.occurrences (placeholder index))).sum := by
  induction pieces generalizing literal with
  | nil => simp [piecesText, slots, stretchesFrom]
  | cons piece rest ih =>
    cases piece with
    | literal text =>
      have joined := ih (literal ++ text)
      rw [List.append_assoc] at joined
      exact joined
    | slot other =>
      have later := ih []
      rw [List.nil_append] at later
      calc Text.occurrences (placeholder index) (literal ++ (placeholder other ++ piecesText rest))
        _ = Text.occurrences (placeholder index) literal + ((if other = index then 1 else 0) +
              Text.occurrences (placeholder index) (piecesText rest)) := by
            rw [occurrences_append_placeholder, occurrences_placeholder_append,
              occurrences_placeholder]
        _ = (other :: slots rest).count index + (Text.occurrences (placeholder index) literal +
              ((stretchesFrom [] rest).map (Text.occurrences (placeholder index))).sum) := by
            rw [later, List.count_cons]
            simp only [beq_iff_eq]
            omega

/-! ## The template of a document -/

/-- **Where a placeholder is read in the plain template of a document.**  The template is literal text
with the placeholders of the entries between its stretches, in their order and each once.  Another
reading of a placeholder stands in one of the stretches; so a placeholder is read once exactly if no
stretch spells it. -/
theorem placeholder_read (document : Document) :
    let plain := Template.ofBlocks false document.blocks
    plain.text = weave (stretches plain.pieces) (List.range plain.entries.length) ∧
      (stretches plain.pieces).length = plain.entries.length + 1 ∧
      ∀ index < plain.entries.length,
        Text.occurrences (placeholder index) plain.text =
            1 + ((stretches plain.pieces).map (Text.occurrences (placeholder index))).sum ∧
          (Text.occurrences (placeholder index) plain.text = 1 ↔
            ∀ stretch ∈ stretches plain.pieces, ¬ placeholder index <:+: stretch) := by
  intro plain
  have inOrder : slots plain.pieces = List.range plain.entries.length :=
    slots_numberParts_plain [] (partsOf document.blocks)
  have woven := piecesText_eq_weave [] plain.pieces
  have length := length_stretchesFrom [] plain.pieces
  rw [inOrder] at woven
  rw [inOrder, List.length_range] at length
  refine ⟨woven, length, fun index bound => ?_⟩
  have once : (List.range plain.entries.length).count index = 1 :=
    List.count_eq_one_of_mem List.nodup_range (List.mem_range.2 bound)
  have counted := occurrences_piecesText index [] plain.pieces
  rw [inOrder, once, List.nil_append] at counted
  refine ⟨counted, ?_⟩
  rw [Template.text, counted, Nat.add_eq_left, List.sum_eq_zero_iff, List.forall_mem_map]
  exact forall₂_congr fun stretch _ => Text.occurrences_eq_zero

/-- In the template of an expression behind literal braces, the placeholder is read once. -/
theorem placeholder_read_literal : ∃ document,
    Document.parse "\\\x7bx\\\x7d\x7bx\x7d".toList = .ok document ∧
      0 < (Template.ofBlocks false document.blocks).entries.length ∧
      Text.occurrences (placeholder 0) (Template.ofBlocks false document.blocks).text = 1 := by
  have computed : (Document.parse "\\\x7bx\\\x7d\x7bx\x7d".toList).map (fun document =>
      ((Template.ofBlocks false document.blocks).entries.length,
        stretches (Template.ofBlocks false document.blocks).pieces)) =
      .ok (1, ["\x7bx\x7d".toList, []]) := by decide +kernel
  obtain ⟨document, parsed, computed⟩ := exists_parse computed
  obtain ⟨length, literals⟩ := Prod.mk.inj computed
  have inUse : 0 < (Template.ofBlocks false document.blocks).entries.length := by
    rw [length]
    decide
  refine ⟨document, parsed, inUse, ((placeholder_read document).2.2 0 inUse).2.2 ?_⟩
  rw [literals]
  decide

/-- Literal braces around a number that is in use: its placeholder is read twice. -/
theorem not_readOnce_escaped : ¬ ∀ source document, Document.parse source = .ok document →
    ∀ index < (Template.ofBlocks false document.blocks).entries.length,
      Text.occurrences (placeholder index) (Template.ofBlocks false document.blocks).text = 1 := by
  intro readOnce
  have computed : (Document.parse "\\\x7b0\\\x7d\x7bx\x7d".toList).map (fun document =>
      ((Template.ofBlocks false document.blocks).entries.length,
        Text.occurrences (placeholder 0) (Template.ofBlocks false document.blocks).text)) =
      .ok (1, 2) := by decide +kernel
  obtain ⟨document, parsed, computed⟩ := exists_parse computed
  obtain ⟨length, twice⟩ := Prod.mk.inj computed
  have once := readOnce _ document parsed 0 (length ▸ Nat.zero_lt_one)
  exact absurd (twice.symm.trans once) (by decide)

end GlassPrompt
