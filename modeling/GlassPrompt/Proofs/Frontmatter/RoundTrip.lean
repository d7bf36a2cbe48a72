import GlassPrompt.Proofs.Document.Opening
import GlassPrompt.Proofs.Frontmatter.Declarations

/-!
# Frontmatter is read back as it is written, and apart from the body

The offset of the body is counted from the lines of the document, and the declarations are read from
some of these lines.  Both come from one decomposition of the document: a block of whole lines from one
delimiter to the next, and the body behind it.

* `wholeLines`, `length_wholeLines`, `lines_wholeLines_append` — lines with their newlines, and the
  lines of a text that starts with them.
* `IsBlock` — the lines of a block: two delimiters, and lines between them that are none.
* `block_or_open` — a document that opens with a delimiter has a block, or no other delimiter.
* `splitFrontmatter_of_block`, `exists_block` — a document with a block is split behind it, and a
  document that is split has a block.
* `writeFrontmatter`, `readDeclarationsFrom_write` — declarations are written and read back.
* `splitFrontmatter_round_trip` — what is written is read, and no body plays a part in it.
-/

namespace GlassPrompt

/-! ## Whole lines -/

/-- The lines, each with a newline behind it. -/
def wholeLines (lines : List Text) : Text :=
  lines.flatMap (· ++ ['\n'])

@[simp] lemma wholeLines_nil : wholeLines [] = [] := rfl

lemma wholeLines_cons (line : Text) (rest : List Text) :
    wholeLines (line :: rest) = line ++ '\n' :: wholeLines rest := by
  rw [wholeLines, List.flatMap_cons, List.append_assoc]
  rfl

lemma wholeLines_append (first second : List Text) :
    wholeLines (first ++ second) = wholeLines first ++ wholeLines second :=
  List.flatMap_append

/-- The last line of a block stands before its newline. -/
lemma wholeLines_concat (lines : List Text) (last : Text) :
    wholeLines (lines ++ [last]) = wholeLines lines ++ last ++ ['\n'] := by
  rw [wholeLines_append, wholeLines_cons, wholeLines_nil, List.append_assoc]

/-- The offset of the body counts whole lines. -/
lemma length_wholeLines (lines : List Text) : (wholeLines lines).length = spanOfLines lines := by
  induction lines with
  | nil => rfl
  | cons line rest ih =>
    rw [wholeLines_cons, spanOfLines_cons, List.length_append, List.length_cons, ih]
    omega

lemma unlines_append_eq (lines : List Text) {more : List Text} (someMore : more ≠ []) :
    Text.unlines (lines ++ more) = wholeLines lines ++ Text.unlines more := by
  induction lines with
  | nil => rfl
  | cons line rest ih =>
    obtain ⟨next, others, split⟩ :=
      List.exists_cons_of_ne_nil (List.append_ne_nil_of_right_ne_nil rest someMore)
    rw [List.cons_append, split, Text.unlines_cons_cons, ← split, ih, wholeLines_cons,
      List.append_assoc, List.cons_append]

lemma lines_append_newline {line : Text} (noNewline : '\n' ∉ line) (rest : Text) :
    Text.lines (line ++ '\n' :: rest) = line :: Text.lines rest := by
  rw [Text.lines_append, Text.lines_of_oneLine noNewline, List.singleton_append]

/-- A text that starts with whole lines has these lines, and then those of the rest. -/
lemma lines_wholeLines_append {lines : List Text} (noNewline : ∀ line ∈ lines, '\n' ∉ line)
    (rest : Text) : Text.lines (wholeLines lines ++ rest) = lines ++ Text.lines rest := by
  induction lines with
  | nil => rfl
  | cons line others ih =>
    obtain ⟨first, later⟩ := List.forall_mem_cons.1 noNewline
    rw [wholeLines_cons, List.append_assoc, List.cons_append, lines_append_newline first,
      ih later, List.cons_append]

/-! ## The block at the head of a document -/

/-- Three hyphens, with blanks behind them or not. -/
def IsDelimiterLine (line : Text) : Prop :=
  ∃ trail, Text.isBlankText trail = true ∧ line = ['-', '-', '-'] ++ trail

lemma isDelimiter_iff {line : Text} : isDelimiter line = true ↔ IsDelimiterLine line := by
  constructor
  · intro delimiter
    obtain ⟨trail, blank, whole⟩ := Text.exists_trimEnd line
    rw [beq_iff_eq.1 delimiter] at whole
    exact ⟨trail, blank, whole⟩
  · rintro ⟨trail, blank, rfl⟩
    rw [isDelimiter, Text.trimEnd_of_blank blank]
    rfl

/-- The lines of a frontmatter block: the last one is the first delimiter behind the opening one. -/
structure IsBlock (first : Text) (inner : List Text) (last : Text) : Prop where
  opens : IsDelimiterLine first
  between : ∀ line ∈ inner, ¬ IsDelimiterLine line
  closes : IsDelimiterLine last
  noNewline : ∀ line ∈ first :: (inner ++ [last]), '\n' ∉ line

section

variable {text first last : Text} {inner : List Text}

lemma hasFrontmatter_iff {rest : List Text} (lines : Text.lines text = first :: rest) :
    hasFrontmatter text = true ↔ IsDelimiterLine first := by
  rw [hasFrontmatter, takeWhile_eq_of_lines lines, isDelimiter_iff]

lemma findIdx?_eq_none (between : ∀ line ∈ inner, ¬ IsDelimiterLine line) :
    inner.findIdx? isDelimiter = none :=
  List.findIdx?_eq_none_iff.2 fun line member =>
    Bool.eq_false_iff.2 (mt isDelimiter_iff.1 (between line member))

lemma findIdx?_of_between (between : ∀ line ∈ inner, ¬ IsDelimiterLine line)
    (closes : IsDelimiterLine last) (rest : List Text) :
    (inner ++ last :: rest).findIdx? isDelimiter = some inner.length := by
  rw [List.findIdx?_append, findIdx?_eq_none between, List.findIdx?_cons,
    if_pos (isDelimiter_iff.2 closes)]
  simp

/-- **A document with a block is split behind it.** -/
theorem splitFrontmatter_of_block (block : IsBlock first inner last) {rest : List Text}
    (lines : Text.lines text = first :: (inner ++ last :: rest)) :
    splitFrontmatter text = (readDeclarations 2 inner).map fun declarations =>
      ⟨declarations, min (spanOfLines (first :: (inner ++ [last]))) text.length⟩ := by
  have opens := (hasFrontmatter_iff lines).2 block.opens
  have inside : (inner ++ last :: rest).take (inner.length + 1) = inner ++ [last] := by
    simp [List.take_append]
  rw [splitFrontmatter, opens, lines]
  simp only [Bool.not_true, Bool.false_eq_true, if_false,
    findIdx?_of_between block.between block.closes, List.take_left, inside]

/-- The lines of a document that opens with a delimiter: no other delimiter follows, or a block ends
with the first that does. -/
lemma block_or_open (opens : hasFrontmatter text = true) :
    (∃ first rest, Text.lines text = first :: rest ∧ IsDelimiterLine first ∧
        ∀ line ∈ rest, ¬ IsDelimiterLine line) ∨
      ∃ first inner last rest, IsBlock first inner last ∧
        Text.lines text = first :: (inner ++ last :: rest) := by
  obtain ⟨first, others, lines⟩ := Text.exists_lines text
  have opening := (hasFrontmatter_iff lines).1 opens
  cases closes : others.findIdx? isDelimiter with
  | none =>
    refine .inl ⟨first, others, lines, opening, fun line member delimiter => ?_⟩
    have none := List.findIdx?_eq_none_iff.1 closes line member
    exact Bool.noConfusion (none.symm.trans (isDelimiter_iff.2 delimiter))
  | some count =>
    obtain ⟨within, closing, between⟩ := List.findIdx?_eq_some_iff_getElem.1 closes
    have parts : others = others.take count ++ others[count] :: others.drop (count + 1) := by
      rw [← List.drop_eq_getElem_cons within, List.take_append_drop]
    refine .inr ⟨first, others.take count, others[count], others.drop (count + 1),
      ⟨opening, ?_, isDelimiter_iff.1 closing, ?_⟩, by rw [← parts, lines]⟩
    · intro line member
      obtain ⟨index, before, rfl⟩ := List.mem_take_iff_getElem.1 member
      have none := between index (lt_of_lt_of_le before (Nat.min_le_left _ _))
      exact fun delimiter => none (isDelimiter_iff.2 delimiter)
    · intro line member
      have known : line ∈ Text.lines text := by
        rw [lines, parts]
        simp only [List.mem_cons, List.mem_append, List.not_mem_nil, or_false] at member ⊢
        tauto
      exact noNewline_of_mem_lines known

/-- Without another delimiter behind the opening one, no block is read. -/
lemma splitFrontmatter_of_open {rest : List Text} (lines : Text.lines text = first :: rest)
    (opening : IsDelimiterLine first) (never : ∀ line ∈ rest, ¬ IsDelimiterLine line) :
    splitFrontmatter text = .error ⟨.notClosed, 1, first⟩ := by
  have opens := (hasFrontmatter_iff lines).2 opening
  rw [splitFrontmatter, opens, lines]
  simp only [Bool.not_true, Bool.false_eq_true, if_false, findIdx?_eq_none never]

/-- **A document that is split has a block**, and what is declared is read from the lines inside. -/
theorem exists_block {frontmatter : Frontmatter}
    (split : splitFrontmatter text = .ok frontmatter) (opens : hasFrontmatter text = true) :
    ∃ first inner last rest, IsBlock first inner last ∧
      Text.lines text = first :: (inner ++ last :: rest) ∧
      readDeclarations 2 inner = .ok frontmatter.declarations := by
  rcases block_or_open opens with ⟨first, rest, lines, opening, never⟩ |
    ⟨first, inner, last, rest, block, lines⟩
  · rw [splitFrontmatter_of_open lines opening never] at split
    exact nomatch split
  · refine ⟨first, inner, last, rest, block, lines, ?_⟩
    rw [splitFrontmatter_of_block block lines] at split
    cases read : readDeclarations 2 inner with
    | error =>
      rw [read] at split
      exact nomatch split
    | ok declarations =>
      rw [read] at split
      obtain rfl := Except.ok.inj split
      rfl

/-- Behind whole lines the offset is their length, whatever the body is. -/
lemma splitFrontmatter_wholeLines (block : IsBlock first inner last) (body : Text) :
    splitFrontmatter (wholeLines (first :: (inner ++ [last])) ++ body) =
      (readDeclarations 2 inner).map fun declarations =>
        ⟨declarations, (wholeLines (first :: (inner ++ [last]))).length⟩ := by
  obtain ⟨line, more, split⟩ := Text.exists_lines body
  have lines : Text.lines (wholeLines (first :: (inner ++ [last])) ++ body) =
      first :: (inner ++ last :: (line :: more)) := by
    rw [lines_wholeLines_append block.noNewline, split]
    simp
  rw [splitFrontmatter_of_block block lines, ← length_wholeLines, List.length_append,
    Nat.min_eq_left (Nat.le_add_right _ _)]

end

/-! ## Writing declarations -/

/-- A line that declares an argument. -/
def writeDeclaration (declaration : Declaration) : Text :=
  declaration.name ++ ": ".toList ++ declaration.type

/-- A frontmatter block with one line for each declaration. -/
def writeFrontmatter (declarations : List Declaration) : Text :=
  "---\n".toList ++ declarations.flatMap (writeDeclaration · ++ "\n".toList) ++ "---\n".toList

/-- A declaration that a block may hold: an identifier with a type that is known. -/
structure Declaration.WellFormed (declaration : Declaration) : Prop where
  isName : isDeclaredName declaration.name = true
  known : IsKnownType declaration.type

lemma writesType_of_known {type : Text} (known : IsKnownType type) : WritesType type type := by
  have names : ∀ base ∈ primitiveTypes, isDeclaredName base = true := by decide
  obtain ⟨base, member, rfl | rfl⟩ := known
  · exact .base (names _ member)
  · have noGap : [].all isIndent = true := rfl
    exact .array (names base member) noGap

namespace Declaration.WellFormed

variable {declaration : Declaration} (wellFormed : declaration.WellFormed)

include wellFormed

lemma writesDeclaration : WritesDeclaration (writeDeclaration declaration) declaration := by
  have noGap : [].all isIndent = true := rfl
  have oneGap : [' '].all isIndent = true := rfl
  show WritesDeclaration (declaration.name ++ [':', ' '] ++ declaration.type) declaration
  rw [List.append_assoc]
  exact .intro wellFormed.isName noGap oneGap (writesType_of_known wellFormed.known)

lemma declares : Declares (writeDeclaration declaration) declaration :=
  ⟨[], _, [], rfl, wellFormed.writesDeclaration, rfl, (List.append_nil _).symm⟩

lemma not_isBlank : Text.isBlankText (writeDeclaration declaration) = false :=
  Bool.eq_false_iff.2 fun blank => not_declares_of_blank blank _ wellFormed.declares

/-- A declaration is no delimiter: no name starts with a hyphen. -/
lemma not_isDelimiterLine : ¬ IsDelimiterLine (writeDeclaration declaration) := by
  rintro ⟨trail, -, whole⟩
  obtain ⟨name, type⟩ := declaration
  have isName := wellFormed.isName
  cases name with
  | nil => exact nomatch isName
  | cons c rest =>
    obtain rfl : c = '-' := (List.cons.inj whole).1
    exact nomatch isName

lemma noNewline : '\n' ∉ writeDeclaration declaration := by
  have name : '\n' ∉ declaration.name := fun member =>
    Bool.noConfusion (noBlank_of_mem wellFormed.isName '\n' member)
  have type : '\n' ∉ declaration.type := by
    obtain ⟨base, member, plain | array⟩ := wellFormed.known
    · rw [plain]
      exact (by decide : ∀ base ∈ primitiveTypes, '\n' ∉ base) base member
    · rw [array]
      exact (by decide : ∀ base ∈ primitiveTypes, '\n' ∉ base ++ arrayMark) base member
  rw [writeDeclaration, List.mem_append, List.mem_append]
  rintro ((inName | inGap) | inType)
  · exact name inName
  · exact absurd inGap (by decide)
  · exact type inType

end Declaration.WellFormed

section

variable {declarations : List Declaration}

lemma writeFrontmatter_eq (declarations : List Declaration) : writeFrontmatter declarations =
    wholeLines ("---".toList :: (declarations.map writeDeclaration ++ ["---".toList])) := by
  rw [wholeLines_cons, wholeLines_append, wholeLines, List.flatMap_map, ← List.cons_append,
    ← List.append_assoc]
  rfl

lemma isBlock_write (wellFormed : ∀ declaration ∈ declarations, declaration.WellFormed) :
    IsBlock "---".toList (declarations.map writeDeclaration) "---".toList where
  opens := isDelimiter_iff.1 rfl
  between line member := by
    obtain ⟨declaration, inside, rfl⟩ := List.mem_map.1 member
    exact (wellFormed declaration inside).not_isDelimiterLine
  closes := isDelimiter_iff.1 rfl
  noNewline line member := by
    rcases List.mem_cons.1 member with rfl | behind
    · decide
    rcases List.mem_append.1 behind with declared | closing
    · obtain ⟨declaration, inside, rfl⟩ := List.mem_map.1 declared
      exact (wellFormed declaration inside).noNewline
    · rw [List.mem_singleton.1 closing]
      decide

/-- **Declarations are read back**, behind any declarations of other names. -/
theorem readDeclarationsFrom_write {names : List Text} (number : Int)
    (wellFormed : ∀ declaration ∈ declarations, declaration.WellFormed)
    (distinct : (declarations.map Declaration.name).Nodup)
    (fresh : ∀ declaration ∈ declarations, declaration.name ∉ names) :
    readDeclarationsFrom names number (declarations.map writeDeclaration) = .ok declarations := by
  induction declarations generalizing names number with
  | nil => rfl
  | cons declaration rest ih =>
    obtain ⟨here, later⟩ := List.forall_mem_cons.1 wellFormed
    obtain ⟨freshHere, freshLater⟩ := List.forall_mem_cons.1 fresh
    obtain ⟨once, others⟩ := List.nodup_cons.1 distinct
    have checked : checkDeclaration names (writeDeclaration declaration) = .ok declaration := by
      rw [checkDeclaration_of_declares here.declares, isValidType_iff.2 here.known]
      simp [freshHere]
    have freshBehind : ∀ other ∈ rest, other.name ∉ declaration.name :: names := by
      intro other member
      rw [List.mem_cons, not_or]
      exact ⟨fun same => once (same ▸ List.mem_map_of_mem member), freshLater other member⟩
    rw [List.map_cons, readDeclarationsFrom, if_neg (by simp [here.not_isBlank]), checked]
    show (readDeclarationsFrom _ _ _).map _ = _
    rw [ih (number + 1) later others freshBehind]
    rfl

end

/-! ## The round trip -/

/-- How the head of a document that opens with a block ends: at the newline of the first delimiter
behind the opening one, or with that delimiter at the end of the document. -/
inductive EndsWithBlock : Text → Text → Prop
  | newline {first last : Text} {inner : List Text} (block : IsBlock first inner last) (body : Text) :
    EndsWithBlock (wholeLines (first :: inner) ++ last ++ ['\n']) body
  | endOfText {first last : Text} {inner : List Text} (block : IsBlock first inner last) :
    EndsWithBlock (wholeLines (first :: inner) ++ last) []

/-- The offset stands behind the block. -/
lemma endsWithBlock_of_split {text : Text} {frontmatter : Frontmatter}
    (split : splitFrontmatter text = .ok frontmatter) (opens : hasFrontmatter text = true) :
    ∃ head body, text = head ++ body ∧ head.length = frontmatter.bodyOffset ∧
      EndsWithBlock head body := by
  obtain ⟨first, inner, last, rest, block, lines, declared⟩ := exists_block split opens
  have result := splitFrontmatter_of_block block lines
  rw [split, declared] at result
  have offset : frontmatter.bodyOffset =
      min (wholeLines (first :: inner ++ [last])).length text.length := by
    rw [length_wholeLines]
    exact congrArg Frontmatter.bodyOffset (Except.ok.inj result)
  have whole := Text.unlines_lines text
  rw [wholeLines_concat] at offset
  cases rest with
  | nil =>
    -- The closing delimiter ends the text, and no newline is behind it.
    rw [lines, ← List.cons_append, unlines_append_eq _ (List.cons_ne_nil last []),
      Text.unlines_singleton] at whole
    refine ⟨_, [], (whole ▸ (List.append_nil _).symm), ?_, .endOfText block⟩
    rw [offset, ← whole, Nat.min_eq_right (List.prefix_append _ ['\n']).length_le]
  | cons line more =>
    rw [lines, List.append_cons, ← List.cons_append, ← List.cons_append,
      unlines_append_eq _ (List.cons_ne_nil line more), wholeLines_concat] at whole
    refine ⟨_, _, whole.symm, ?_, .newline block _⟩
    rw [offset, ← whole, Nat.min_eq_left (List.prefix_append _ _).length_le]

namespace EndsWithBlock

variable {head body : Text}

/-- The closing line is the end of the head. -/
lemma exists_closing (ends : EndsWithBlock head body) (newline : head.getLast? = some '\n') :
    ∃ first inner last, IsBlock first inner last ∧
      head = wholeLines (first :: (inner ++ [last])) := by
  cases ends with
  | @newline first last inner block =>
    exact ⟨first, inner, last, block, (wholeLines_concat (first :: inner) last).symm⟩
  | @endOfText first last inner block =>
    obtain ⟨trail, -, written⟩ := block.closes
    have nonempty : last ≠ [] := written ▸ List.cons_ne_nil _ _
    rw [List.getLast?_append_of_ne_nil _ nonempty] at newline
    exact absurd (List.mem_of_getLast? newline) (block.noNewline last (by simp))

/-- The body behind a newline is not looked at. -/
lemma splitFrontmatter_congr (ends : EndsWithBlock head body)
    (newline : head.getLast? = some '\n') (other : Text) :
    splitFrontmatter (head ++ other) = splitFrontmatter (head ++ body) := by
  obtain ⟨first, inner, last, block, rfl⟩ := ends.exists_closing newline
  rw [splitFrontmatter_wholeLines block, splitFrontmatter_wholeLines block]

end EndsWithBlock

/-- **What is written is read, and the body plays no part in it.**  Distinct names with known types are
read back from the block that writes them, with the offset of the body, in front of any body.  And
whenever a document is split, it is a head that ends at the offset, and its body; the head is empty if
the document does not open with a delimiter.  Otherwise it is the opening delimiter, lines that are none,
and the first delimiter behind it, without its newline only if the document ends there.  If the head ends
in this newline, any other body behind it gives the same result. -/
theorem splitFrontmatter_round_trip :
    (∀ declarations : List Declaration, (∀ declaration ∈ declarations, declaration.WellFormed) →
      (declarations.map Declaration.name).Nodup → ∀ body,
        splitFrontmatter (writeFrontmatter declarations ++ body) =
            .ok ⟨declarations, (writeFrontmatter declarations).length⟩ ∧
          (writeFrontmatter declarations ++ body).drop (writeFrontmatter declarations).length = body) ∧
      ∀ text frontmatter, splitFrontmatter text = .ok frontmatter →
        ∃ head body, text = head ++ body ∧ head.length = frontmatter.bodyOffset ∧
          (hasFrontmatter text = false → frontmatter.declarations = [] ∧ head = []) ∧
          (hasFrontmatter text = true → EndsWithBlock head body ∧
            (head.getLast? = some '\n' →
              ∀ other, splitFrontmatter (head ++ other) = .ok frontmatter)) := by
  constructor
  · intro declarations wellFormed distinct body
    have read : readDeclarations 2 (declarations.map writeDeclaration) = .ok declarations :=
      readDeclarationsFrom_write 2 wellFormed distinct fun _ _ => List.not_mem_nil
    refine ⟨?_, List.drop_left⟩
    rw [writeFrontmatter_eq, splitFrontmatter_wholeLines (isBlock_write wellFormed), read]
    rfl
  · intro text frontmatter split
    cases opens : hasFrontmatter text with
    | false =>
      rw [splitFrontmatter, opens] at split
      obtain rfl := Except.ok.inj split
      exact ⟨[], text, rfl, rfl, fun _ => ⟨rfl, rfl⟩, nofun⟩
    | true =>
      obtain ⟨head, body, rfl, offset, ends⟩ := endsWithBlock_of_split split opens
      refine ⟨head, body, rfl, offset, nofun, fun _ => ⟨ends, fun newline other => ?_⟩⟩
      rw [ends.splitFrontmatter_congr newline, split]

/-- A delimiter at the head of the body belongs to the body, and blanks behind the closing delimiter to
the head. -/
theorem splitFrontmatter_delimiter_in_body :
    splitFrontmatter ("---\na: string\nbs: number[]\n---\n".toList ++ "---\nx".toList) =
        .ok ⟨[⟨['a'], "string".toList⟩, ⟨['b', 's'], "number[]".toList⟩], 31⟩ ∧
      ∀ other, splitFrontmatter ("---\na: string\n--- \n".toList ++ other) =
        .ok ⟨[⟨['a'], "string".toList⟩], 19⟩ := by
  obtain ⟨written, split⟩ := splitFrontmatter_round_trip
  constructor
  · refine (written [⟨['a'], "string".toList⟩, ⟨['b', 's'], "number[]".toList⟩] ?_ (by decide)
      "---\nx".toList).1
    simp only [List.forall_mem_cons]
    exact ⟨⟨rfl, isValidType_iff.1 rfl⟩, ⟨rfl, isValidType_iff.1 rfl⟩, List.forall_mem_nil _⟩
  · have parsed : splitFrontmatter ("---\na: string\n--- \n".toList ++ ['x']) =
        .ok ⟨[⟨['a'], "string".toList⟩], 19⟩ := by rfl
    obtain ⟨head, body, whole, offset, -, block⟩ := split _ _ parsed
    obtain ⟨rfl, -⟩ := List.append_inj whole offset.symm
    exact (block rfl).2 rfl

end GlassPrompt
