import GlassPrompt.Proofs.Script.Layout
import GlassPrompt.Proofs.Template.Numbering

/-!
# The scripts of a document in its function

Expressions and inline code are written as values of a mapping, by themselves or inside the template
literal of a loop; hoisted code is written ahead of them.  What is written for a script has the literals
of the script, but for the indentation of the rows inside them.

* `Block.script?`, `Block.emitted` — the script of a block and what is written for it.
* `Block.sameLiterals_emitted` — the two have the same literals.
* `infix_loopBody`, `exists_slot_of_mem_walkBlocks` — the expression of a block stands in the value of a
  slot, in a loop or not.
* `emitted_isInfix` — what is written for a script stands in the function of the document.
* `literals_emitted` — the literals of a script and what becomes of them.
-/

namespace GlassPrompt

/-! ## Scripts of blocks -/

namespace Block

/-- The script of a block. -/
def script? : Block → Option Text
  | .interpolation source _ => some source
  | .code source _ => some source
  | .hoisted source _ => some source
  | _ => none

/-- The expression that a brace region is written as. -/
def expression? : Block → Option Text
  | .interpolation source _ => some source
  | .code source _ => some (invokeCode source)
  | _ => none

/-- What is written in a function for the script of a block. -/
def emitted (block : Block) : Text :=
  match block with
  | .hoisted source _ => linesText (hoistedLines source)
  | block => indentContinuation "    ".toList (block.expression?.getD [])

/-- Where the rows of the script of a block may get another indentation. -/
def rowEnds : Block → Char → Bool
  | .interpolation _ _ => (· == '\n')
  | _ => isRowEnd

lemma endsRows_rowEnds (block : Block) : EndsRows block.rowEnds := by
  cases block with
  | interpolation => exact endsRows_newline
  | _ => exact endsRows_isRowEnd

/-- **What is written for a script has its literals.** -/
theorem sameLiterals_emitted {block : Block} {script : Text} (isScript : block.script? = some script) :
    SameLiterals block.rowEnds script block.emitted := by
  have margin : "    ".toList.all isIndent = true := by decide
  cases block with
  | interpolation source span =>
    obtain rfl : source = script := Option.some.inj isScript
    exact .indentContinuation endsRows_newline margin source
  | code source span =>
    obtain rfl : source = script := Option.some.inj isScript
    exact (SameLiterals.invokeCode source).trans (.indentContinuation endsRows_isRowEnd margin _)
  | hoisted source span =>
    obtain rfl : source = script := Option.some.inj isScript
    exact .hoistedLines source
  | text | request | role | loop => exact nomatch isScript

end Block

/-! ## Scripts in a template -/

lemma exists_invokeCode (source : Text) : ∃ start, invokeCode source = start ++ [')'] := by
  unfold invokeCode
  dsimp only
  split_ifs
  · exact ⟨_, (List.append_assoc ('(' :: tidyCode source) [')', '('] [')']).symm⟩
  · exact ⟨_, (List.append_assoc _ "\n\x7d)(".toList [')']).symm⟩

/-- The blocks on the walk of a block are itself and those on the walk of its children. -/
lemma Block.mem_walk {block inner : Block} :
    inner ∈ block.walk ↔ inner = block ∨ inner ∈ walkBlocks block.children := by
  cases block <;> simp [Block.walk, Block.children, walkBlocks]

section

variable {block : Block} {expression : Text}

lemma Block.inTemplate_of_expression (h : block.expression? = some expression) :
    block.inTemplate = substitution expression := by
  cases block with
  | interpolation source => exact congrArg substitution (Option.some.inj h)
  | code source => exact congrArg substitution (Option.some.inj h)
  | text | hoisted | request | role | loop => exact nomatch h

lemma Block.parts_of_expression (h : block.expression? = some expression) :
    ∃ occurrence, block.parts = [.slot occurrence] ∧
      ∀ entry : Entry, entry.occurrence = occurrence → entry.value = expression := by
  cases block with
  | interpolation source =>
    refine ⟨.interpolation source, rfl, fun entry same => ?_⟩
    rw [Entry.value, same]
    exact Option.some.inj h
  | code source =>
    refine ⟨.code source, rfl, fun entry same => ?_⟩
    rw [Entry.value, same]
    exact Option.some.inj h
  | text | hoisted | request | role | loop => exact nomatch h

end

lemma infix_loopCall (each item body : Text) : body <:+: loopCall each item body :=
  List.infix_append _ _ _

lemma infix_substitution (expression : Text) : expression <:+: substitution expression :=
  List.infix_append ['$', '\x7b'] expression ['\x7d']

mutual

lemma infix_inTemplate {block inner : Block} {expression : Text} (member : inner ∈ block.walk)
    (isExpression : inner.expression? = some expression) : expression <:+: block.inTemplate := by
  rcases Block.mem_walk.1 member with rfl | inside
  · rw [Block.inTemplate_of_expression isExpression]
    exact infix_substitution expression
  · cases block with
    | role speaker openTag closeTag children span =>
      exact (infix_loopBody inside isExpression).trans (List.infix_append _ _ _)
    | loop each item openTag closeTag children span =>
      have inBody := infix_loopBody inside isExpression
      exact (inBody.trans (infix_loopCall each item _)).trans (infix_substitution _)
    | text | interpolation | code | hoisted | request => exact nomatch inside

/-- The expression of a block stands in the body of a loop around it. -/
lemma infix_loopBody {blocks : List Block} {inner : Block} {expression : Text}
    (member : inner ∈ walkBlocks blocks) (isExpression : inner.expression? = some expression) :
    expression <:+: loopBody blocks := by
  cases blocks with
  | nil => exact nomatch member
  | cons block rest =>
    rcases List.mem_append.1 member with here | later
    · exact (infix_inTemplate here isExpression).trans List.infix_append_left
    · exact (infix_loopBody later isExpression).trans List.infix_append_right

end

mutual

lemma exists_slot_of_mem_walk {block inner : Block} {expression : Text}
    (member : inner ∈ block.walk) (isExpression : inner.expression? = some expression) :
    ∃ occurrence, Part.slot occurrence ∈ block.parts ∧
      ∀ entry : Entry, entry.occurrence = occurrence → expression <:+: entry.value := by
  rcases Block.mem_walk.1 member with rfl | inside
  · obtain ⟨occurrence, parts, value⟩ := Block.parts_of_expression isExpression
    exact ⟨occurrence, parts ▸ List.mem_singleton_self _, fun entry same => by rw [value entry same]⟩
  · cases block with
    | role speaker openTag closeTag children span =>
      obtain ⟨occurrence, slot, values⟩ := exists_slot_of_mem_walkBlocks inside isExpression
      exact ⟨occurrence, List.mem_cons_of_mem _ (List.mem_append_left _ slot), values⟩
    | loop each item openTag closeTag children span =>
      refine ⟨_, List.mem_singleton_self _, fun entry same => ?_⟩
      rw [Entry.value, same]
      exact (infix_loopBody inside isExpression).trans (infix_loopCall each item _)
    | text | interpolation | code | hoisted | request => exact nomatch inside

/-- The expression of a block stands in the value of some slot. -/
lemma exists_slot_of_mem_walkBlocks {blocks : List Block} {inner : Block} {expression : Text}
    (member : inner ∈ walkBlocks blocks) (isExpression : inner.expression? = some expression) :
    ∃ occurrence, Part.slot occurrence ∈ partsOf blocks ∧
      ∀ entry : Entry, entry.occurrence = occurrence → expression <:+: entry.value := by
  cases blocks with
  | nil => exact nomatch member
  | cons block rest =>
    rcases List.mem_append.1 member with here | later
    · obtain ⟨occurrence, slot, values⟩ := exists_slot_of_mem_walk here isExpression
      exact ⟨occurrence, List.mem_append_left _ slot, values⟩
    · obtain ⟨occurrence, slot, values⟩ := exists_slot_of_mem_walkBlocks later isExpression
      exact ⟨occurrence, List.mem_append_right _ slot, values⟩

end

/-! ## Scripts in a function -/

lemma infix_flatMap {α β : Type} {a : α} {list : List α} (member : a ∈ list) (f : α → List β) :
    f a <:+: list.flatMap f := by
  obtain ⟨before, after, rfl⟩ := List.append_of_mem member
  rw [List.flatMap_append, List.flatMap_cons]
  exact List.infix_append' _ _ _

lemma value_infix_entryMapping {entries : List Entry} {entry : Entry} (member : entry ∈ entries) :
    indentContinuation "    ".toList entry.value <:+: entryMapping entries := by
  have nonempty : ¬ (entries.map fun entry => ((entry.index : Int), entry.value)).isEmpty = true := by
    rw [List.isEmpty_iff]
    exact List.ne_nil_of_mem (List.mem_map_of_mem member)
  have line := infix_flatMap member fun entry =>
    "    ".toList ++ Text.ofInt entry.index ++ ": ".toList ++
      indentContinuation "    ".toList entry.value ++ ",\n".toList
  rw [entryMapping, mapping, if_neg nonempty, List.flatMap_map]
  exact ((List.infix_append _ _ _).trans line).trans (List.infix_append _ _ _)

/-- The pieces of a function that hold scripts: hoisted code and the two mappings. -/
lemma infix_functionText (document : Document) (options : CompileOptions) :
    linesText (document.hoisted.flatMap hoistedLines) <:+: document.functionText options ∧
      entryMapping (Template.ofBlocks options.share document.blocks).interpolations <:+:
        document.functionText options ∧
      entryMapping (Template.ofBlocks options.share document.blocks).loops <:+:
        document.functionText options := by
  unfold Document.functionText
  refine ⟨?_, ?_, ?_⟩ <;>
    repeat first | with_reducible exact List.infix_append_right | refine List.infix_append_of_infix_left ?_

/-- The value of every entry stands in the function. -/
lemma value_infix_functionText {document : Document} {options : CompileOptions} {entry : Entry}
    (member : entry ∈ (Template.ofBlocks options.share document.blocks).entries) :
    indentContinuation "    ".toList entry.value <:+: document.functionText options := by
  obtain ⟨-, interpolations, loops⟩ := infix_functionText document options
  cases isLoop : entry.occurrence.isLoop with
  | true => exact (value_infix_entryMapping (List.mem_filter.2 ⟨member, isLoop⟩)).trans loops
  | false =>
    have evaluated : entry ∈ (Template.ofBlocks options.share document.blocks).interpolations :=
      List.mem_filter.2 ⟨member, by rw [isLoop]; rfl⟩
    exact (value_infix_entryMapping evaluated).trans interpolations

/-- All hoisted code stands in the function. -/
lemma hoisted_infix_functionText {document : Document} (options : CompileOptions) {source : Text}
    (member : source ∈ document.hoisted) :
    linesText (hoistedLines source) <:+: document.functionText options := by
  have lines := infix_flatMap member fun source => linesText (hoistedLines source)
  refine .trans ?_ (infix_functionText document options).1
  conv_rhs => rw [linesText, List.flatMap_assoc]
  exact lines

/-- A document that is read has an entry for each of its slots, shared or not. -/
lemma exists_entry_of_slot {source : Text} {document : Document}
    (parsed : Document.parse source = .ok document) (share : Bool) {occurrence : Occurrence}
    (slot : Part.slot occurrence ∈ partsOf document.blocks) :
    ∃ entry ∈ (Template.ofBlocks share document.blocks).entries, entry.occurrence = occurrence := by
  obtain ⟨entry, member, same⟩ := exists_entry_of_slot_plain [] slot
  cases share with
  | false => exact ⟨entry, member, same⟩
  | true =>
    obtain ⟨f, renames, -⟩ := exists_renames parsed
    obtain ⟨i, at_⟩ := List.mem_iff_getElem?.1 member
    obtain ⟨kept, keptAt, keptSame⟩ := renames.keeps at_
    exact ⟨kept, List.mem_of_getElem? keptAt, keptSame.trans same⟩

/-- No expression of a document that is read ends at the end of a line. -/
lemma expression_ne_newline {source : Text} {document : Document}
    (parsed : Document.parse source = .ok document) {block : Block}
    (member : block ∈ walkBlocks document.blocks) {expression : Text}
    (isExpression : block.expression? = some expression) (start : Text) :
    expression ≠ start ++ ['\n'] := by
  rintro rfl
  cases block with
  | interpolation trimmed span =>
    rw [blocks_of_parse parsed] at member
    obtain ⟨region, -, eq⟩ := regionBlock_of_mem_build member rfl
    obtain rfl := Option.some.inj isExpression
    unfold BuildState.regionBlock at eq
    split at eq
    · exact nomatch Text.isBlank_of_trim (Block.interpolation.inj eq).1.symm
    · exact nomatch eq
  | code script span =>
    obtain ⟨front, eq⟩ := exists_invokeCode script
    have last := (List.append_inj' (eq.symm.trans (Option.some.inj isExpression)) rfl).2
    exact absurd last (by decide)
  | text | hoisted | request | role | loop => exact nomatch isExpression

/-- **What is written for a script stands in the function of its document.** -/
theorem emitted_isInfix {source : Text} {document : Document}
    (parsed : Document.parse source = .ok document) {block : Block}
    (member : block ∈ walkBlocks document.blocks) {script : Text}
    (isScript : block.script? = some script) (options : CompileOptions) :
    block.emitted <:+: document.functionText options := by
  have value {expression : Text} (isExpression : block.expression? = some expression) :
      indentContinuation "    ".toList expression <:+: document.functionText options := by
    obtain ⟨occurrence, slot, values⟩ := exists_slot_of_mem_walkBlocks member isExpression
    obtain ⟨entry, known, same⟩ := exists_entry_of_slot parsed options.share slot
    have ends := expression_ne_newline parsed member isExpression
    exact (indentContinuation_isInfix _ ends (values entry same)).trans (value_infix_functionText known)
  cases block with
  | interpolation source span => exact value rfl
  | code source span => exact value rfl
  | hoisted source span =>
    have hoisted : source ∈ document.hoisted := List.mem_filterMap.2 ⟨_, member, rfl⟩
    exact hoisted_infix_functionText options hoisted
  | text | request | role | loop => exact nomatch isScript

/-- **The literals of a script in the function of its document.**  What is written for a script has as
many literals, and they are the same but for the indentation of the rows inside them.  A literal on
one row stays as it is; so if all literals are on one row, they are all kept. -/
theorem literals_emitted {source : Text} {document : Document}
    (parsed : Document.parse source = .ok document) {block : Block}
    (member : block ∈ walkBlocks document.blocks) {script : Text}
    (isScript : block.script? = some script) (options : CompileOptions) :
    block.emitted <:+: (document.compile options).functionCode ∧
      block.emitted <:+: (document.compile options).code ∧
      (literals script).map (unindent block.rowEnds) =
        (literals block.emitted).map (unindent block.rowEnds) ∧
      (∀ (i : Nat) (literal : Text), (literals script)[i]? = some literal →
        (∀ c ∈ literal, block.rowEnds c = false) → (literals block.emitted)[i]? = some literal) ∧
      ((∀ literal ∈ literals script, ∀ c ∈ literal, block.rowEnds c = false) →
        literals block.emitted = literals script) := by
  have inside := emitted_isInfix parsed member isScript options
  have same := Block.sameLiterals_emitted isScript
  have rows := block.endsRows_rowEnds
  exact ⟨inside, inside.trans List.infix_append_right, same,
    fun _ _ at_ oneRow => same.getElem? rows at_ oneRow, same.eq rows⟩

/-- A literal on one row is kept, though the one behind it is not. -/
theorem literals_emitted_oneRow : ∃ document block,
    Document.parse "\x7bf('a', `b\n c`)\x7d".toList = .ok document ∧
      block ∈ walkBlocks document.blocks ∧ block.script? = some "f('a', `b\n c`)".toList ∧
      (literals block.emitted)[0]? = some ['a'] := by
  have computed : (Document.parse "\x7bf('a', `b\n c`)\x7d".toList).map (fun document =>
      (walkBlocks document.blocks).map Block.script?) =
      .ok [some "f('a', `b\n c`)".toList] := by decide +kernel
  obtain ⟨document, parsed, scripts⟩ := exists_parse computed
  obtain ⟨block, member, isScript⟩ := List.mem_map.1 (scripts ▸ List.mem_cons_self)
  refine ⟨document, block, parsed, member, isScript, ?_⟩
  obtain ⟨-, -, -, kept, -⟩ :=
    literals_emitted parsed member isScript ⟨"a".toList, true, false, 100⟩
  refine kept 0 ['a'] (by decide) fun c isA => ?_
  rw [List.mem_singleton.1 isA]
  cases block <;> rfl

/-- A template literal of hoisted code with two rows: its second row gets another indentation. -/
theorem not_literalsKept_rows : ¬ ∀ source document, Document.parse source = .ok document →
    ∀ block ∈ walkBlocks document.blocks, ∀ script, block.script? = some script →
      literals block.emitted = literals script := by
  intro kept
  have computed : (Document.parse "<Code>\nconst x = `a\n  b`\n</Code>\x7bx\x7d".toList).map
      (fun document => (walkBlocks document.blocks).map fun block =>
        (block.script?, literals block.emitted)) =
      .ok [(some "\nconst x = `a\n  b`\n".toList, ["a\n    b".toList]), (some ['x'], [])] := by
    decide +kernel
  obtain ⟨document, parsed, scripts⟩ := exists_parse computed
  obtain ⟨block, member, both⟩ := List.mem_map.1 (scripts ▸ List.mem_cons_self)
  obtain ⟨isScript, emitted⟩ := Prod.mk.inj both
  have same := kept _ document parsed block member _ isScript
  exact absurd (emitted.symm.trans same) (by decide)

end GlassPrompt
