import GlassPrompt.Proofs.Document.RegionBlocks
import GlassPrompt.Script.Function

/-!
# Literal text in the body of a loop

The body of a loop is written as a template literal: the text of its blocks, escaped piece by piece,
with substitutions between the pieces.  A script reads each stretch of literal text up to the next
substitution or up to the closing backtick.  It reads the text that was meant, unless two pieces that
stand side by side spell the start of a substitution together.

* `readLiteral?` — how literal text in a template literal is read.
* `readLiteral?_templateLiteral` — an escaped text is read as the text.
* `SpellsSubstitution` — a dollar sign ends one piece, and a brace starts what follows.
* `readLiteral?_pieces` — pieces escaped one by one are read as their text exactly if they do not spell
  a substitution.
* `loopBody_eq`, `Stretch` — the body of a loop as literal text and substitutions in turn.
* `loopBody_read_iff` — what is read of a stretch in the body of a loop.
-/

namespace GlassPrompt

/-! ## Reading literal text -/

/-- What a character stands for behind a backslash.  Escapes by number and continued lines are not
read; nothing that is written here has them. -/
def escapeValue? (c : Char) : Option Char :=
  if c = 'n' then some '\n'
  else if c = 'r' then some '\r'
  else if c = 't' then some '\t'
  else if c = 'b' then some '\x08'
  else if c = 'f' then some '\x0c'
  else if c = 'v' then some '\x0b'
  else if c.isDigit || c = 'x' || c = 'u' || c = '\n' || c = '\r' || c = '\u2028' || c = '\u2029' then
    none
  else some c

/-- Puts a text before the one that has been read. -/
def prependValue (text : Text) : Text × Text → Text × Text
  | (value, rest) => (text ++ value, rest)

/-- Reads literal text inside a template literal: its value, and the rest of the script from the next
substitution or backtick on.  A carriage return counts as a newline. -/
def readLiteral? : Text → Option (Text × Text)
  | [] => some ([], [])
  | c :: rest =>
    if c = '`' ∨ c = '$' ∧ rest.head? = some '\x7b' then some ([], c :: rest)
    else if c = '\\' then
      match rest with
      | [] => none
      | escaped :: rest =>
        (escapeValue? escaped).bind fun value => (readLiteral? rest).map (prependValue [value])
    else if c = '\r' then
      if rest.head? = some '\n' then readLiteral? rest
      else (readLiteral? rest).map (prependValue ['\n'])
    else (readLiteral? rest).map (prependValue [c])

/-- A script at which the reading of literal text stops at once. -/
def StopsLiteral (script : Text) : Prop :=
  readLiteral? script = some ([], script)

lemma stopsLiteral_backtick (rest : Text) : StopsLiteral ('`' :: rest) := by
  rw [StopsLiteral, readLiteral?.eq_def]
  exact if_pos (.inl rfl)

lemma stopsLiteral_dollar (rest : Text) : StopsLiteral ('$' :: '\x7b' :: rest) := by
  rw [StopsLiteral, readLiteral?.eq_def]
  exact if_pos (.inr ⟨rfl, rfl⟩)

section

variable {c : Char} {rest : Text}

lemma readLiteral?_escape {value : Char} (escape : escapeValue? c = some value) :
    readLiteral? ('\\' :: c :: rest) = (readLiteral? rest).map (prependValue [value]) := by
  simp [readLiteral?, escape]

lemma readLiteral?_plain (noBacktick : c ≠ '`') (noBackslash : c ≠ '\\') (noReturn : c ≠ '\r')
    (noDollar : ¬ (c = '$' ∧ rest.head? = some '\x7b')) :
    readLiteral? (c :: rest) = (readLiteral? rest).map (prependValue [c]) := by
  rw [readLiteral?.eq_def]
  simp only [noBacktick, noDollar, noBackslash, noReturn, or_self, if_false]

lemma StopsLiteral.head?_ne (stops : StopsLiteral rest) : rest.head? ≠ some '\x7b' := by
  intro brace
  obtain ⟨tail, rfl⟩ : ∃ tail, rest = '\x7b' :: tail := List.head?_eq_some_iff.1 brace
  rw [StopsLiteral, readLiteral?_plain (by decide) (by decide) (by decide) (by simp)] at stops
  obtain ⟨⟨value, after⟩, -, same⟩ := Option.map_eq_some_iff.1 stops
  exact absurd (congrArg Prod.fst same) (List.cons_ne_nil _ _)

/-- An escaped character is read as the character, unless it is a dollar sign before a brace. -/
lemma readLiteral?_templateChar (noDollar : ¬ (c = '$' ∧ rest.head? = some '\x7b')) :
    readLiteral? (templateChar c ++ rest) = (readLiteral? rest).map (prependValue [c]) := by
  unfold templateChar
  split_ifs with backslash backtick newline return_
  · rw [backslash]
    exact readLiteral?_escape (by decide)
  · rw [backtick]
    exact readLiteral?_escape (by decide)
  · rw [newline]
    exact readLiteral?_escape (by decide)
  · rw [return_]
    exact readLiteral?_escape (by decide)
  · exact readLiteral?_plain backtick backslash return_ noDollar

end

/-! ## Escaped text -/

lemma head?_templateChar {c : Char} (rest : Text) :
    (templateChar c ++ rest).head? = some '\x7b' ↔ c = '\x7b' := by
  unfold templateChar
  split_ifs with backslash backtick newline return_
  · simp [backslash]
  · simp [backtick]
  · simp [newline]
  · simp [return_]
  · simp

/-- Escaping neither adds nor takes away a brace at the start. -/
lemma head?_templateLiteral_append (text tail : Text) :
    (templateLiteral text ++ tail).head? = some '\x7b' ↔ (text ++ tail).head? = some '\x7b' := by
  cases text with
  | nil => rfl
  | cons c rest =>
    rw [templateLiteral.eq_def]
    split
    · next none => exact nomatch none
    · next same =>
      obtain ⟨rfl, rfl⟩ := List.cons.inj same
      simp
    · next same =>
      obtain ⟨rfl, rfl⟩ := List.cons.inj same
      rw [List.append_assoc, head?_templateChar]
      simp

/-- **An escaped text is read as the text**, unless it ends in a dollar sign and a brace follows. -/
theorem readLiteral?_templateLiteral {text tail : Text}
    (apart : ¬ (text.getLast? = some '$' ∧ tail.head? = some '\x7b')) :
    readLiteral? (templateLiteral text ++ tail) = (readLiteral? tail).map (prependValue text) := by
  have prepend (first second : Text) : prependValue first ∘ prependValue second =
      prependValue (first ++ second) := by
    funext ⟨value, rest⟩
    simp [prependValue]
  fun_induction templateLiteral text with
  | case1 =>
    have nothing : prependValue [] = id := rfl
    rw [nothing, Option.map_id]
    rfl
  | case2 rest ih =>
    have later : ¬ (rest.getLast? = some '$' ∧ tail.head? = some '\x7b') := by
      rintro ⟨last, brace⟩
      refine apart ⟨?_, brace⟩
      rw [List.getLast?_cons, List.getLast?_cons, last]
      rfl
    have readBrace : readLiteral? ('\x7b' :: (templateLiteral rest ++ tail)) =
        (readLiteral? (templateLiteral rest ++ tail)).map (prependValue ['\x7b']) :=
      readLiteral?_plain (by decide) (by decide) (by decide) (by simp)
    rw [List.cons_append, List.cons_append, List.cons_append,
      readLiteral?_escape (by decide : _ = some '$'), readBrace, ih later, Option.map_map,
      Option.map_map, prepend, prepend]
    rfl
  | case3 c rest notDollar ih =>
    have later : ¬ (rest.getLast? = some '$' ∧ tail.head? = some '\x7b') := by
      rintro ⟨last, brace⟩
      refine apart ⟨?_, brace⟩
      rw [List.getLast?_cons, last]
      rfl
    -- A brace behind the dollar sign would be in the text, where it is escaped with it, or in the tail.
    have single : ¬ (c = '$' ∧ (templateLiteral rest ++ tail).head? = some '\x7b') := by
      rintro ⟨rfl, brace⟩
      rw [head?_templateLiteral_append] at brace
      cases rest with
      | nil => exact apart ⟨rfl, brace⟩
      | cons d more =>
        obtain rfl : d = '\x7b' := Option.some.inj brace
        exact notDollar more rfl rfl
    rw [List.append_assoc, readLiteral?_templateChar single, ih later, Option.map_map, prepend]
    rfl

/-! ## Pieces side by side -/

/-- Some text of the list ends in a dollar sign, and what stands behind it starts with a brace. -/
def SpellsSubstitution : List Text → Prop
  | [] => False
  | text :: rest =>
    text.getLast? = some '$' ∧ rest.flatten.head? = some '\x7b' ∨ SpellsSubstitution rest

instance SpellsSubstitution.decidable : DecidablePred SpellsSubstitution
  | [] => instDecidableFalse
  | text :: rest =>
    have := SpellsSubstitution.decidable rest
    inferInstanceAs (Decidable
      (text.getLast? = some '$' ∧ rest.flatten.head? = some '\x7b' ∨ SpellsSubstitution rest))

lemma templateLiteral_append_dollar (text : Text) :
    templateLiteral (text ++ ['$']) = templateLiteral text ++ ['$'] := by
  fun_induction templateLiteral text with
  | case1 => rfl
  | case2 rest ih => exact congrArg (['\\', '$', '\x7b'] ++ ·) ih
  | case3 c rest notDollar ih =>
    rw [List.append_assoc, ← ih, List.cons_append, templateLiteral]
    rintro more rfl brace
    cases rest with
    | nil => exact nomatch brace
    | cons d later => exact notDollar later rfl (congrArg (· :: later) (List.cons.inj brace).1)

lemma head?_pieces {tail : Text} (noBrace : tail.head? ≠ some '\x7b') (texts : List Text) :
    (texts.flatMap templateLiteral ++ tail).head? = some '\x7b' ↔
      texts.flatten.head? = some '\x7b' := by
  induction texts with
  | nil => exact iff_of_false noBrace (nomatch ·)
  | cons text rest ih =>
    rw [List.flatMap_cons, List.append_assoc, head?_templateLiteral_append, List.flatten_cons]
    cases text with
    | nil => exact ih
    | cons c more => rfl

/-- Texts that do not spell a substitution are read as they are up to the end. -/
theorem readLiteral?_pieces {tail : Text} (stops : StopsLiteral tail) {texts : List Text}
    (apart : ¬ SpellsSubstitution texts) :
    readLiteral? (texts.flatMap templateLiteral ++ tail) = some (texts.flatten, tail) := by
  induction texts with
  | nil => exact stops
  | cons text rest ih =>
    obtain ⟨here, later⟩ := not_or.1 apart
    rw [List.flatMap_cons, List.append_assoc, readLiteral?_templateLiteral, ih later]
    · rfl
    · rwa [head?_pieces stops.head?_ne]

/-- Texts that spell a substitution open it before their end. -/
theorem readLiteral?_pieces_of_spells {tail : Text} (stops : StopsLiteral tail) {texts : List Text}
    (spells : SpellsSubstitution texts) :
    ∃ value inside, readLiteral? (texts.flatMap templateLiteral ++ tail) =
      some (value, '$' :: '\x7b' :: inside) ∧ tail <:+ inside := by
  induction texts with
  | nil => exact spells.elim
  | cons text rest ih =>
    rw [List.flatMap_cons, List.append_assoc]
    by_cases here : text.getLast? = some '$' ∧ rest.flatten.head? = some '\x7b'
    · obtain ⟨dollar, brace⟩ := here
      obtain ⟨start, rfl⟩ := List.getLast?_eq_some_iff.1 dollar
      obtain ⟨inside, behind⟩ :=
        List.head?_eq_some_iff.1 ((head?_pieces stops.head?_ne rest).2 brace)
      refine ⟨start, inside, ?_, ?_⟩
      · rw [templateLiteral_append_dollar, behind, List.append_assoc, List.singleton_append,
          readLiteral?_templateLiteral (by simp), stopsLiteral_dollar]
        simp [prependValue]
      · have suffix : tail <:+ '\x7b' :: inside := behind ▸ List.suffix_append _ _
        refine (List.suffix_cons_iff.1 suffix).resolve_left fun whole => ?_
        exact stops.head?_ne (congrArg List.head? whole)
    · have later : SpellsSubstitution rest := spells.resolve_left here
      obtain ⟨value, inside, read, length⟩ := ih later
      refine ⟨text ++ value, inside, ?_, length⟩
      rw [readLiteral?_templateLiteral, read]
      · rfl
      · rwa [head?_pieces stops.head?_ne]

/-! ## The body of a loop -/

/-- How a part of a template is written inside a template literal. -/
def Part.inTemplate : Part → Text
  | .literal text => templateLiteral text
  | .slot occurrence => substitution (Entry.value ⟨0, occurrence⟩)

mutual

lemma Block.inTemplate_eq : ∀ block : Block, block.inTemplate = block.parts.flatMap Part.inTemplate
  | .text _ _ => (List.flatMap_singleton _ _).symm
  | .interpolation _ _ => (List.flatMap_singleton _ _).symm
  | .code _ _ => (List.flatMap_singleton _ _).symm
  | .hoisted _ _ => rfl
  | .request _ _ _ => rfl
  | .role _ openTag closeTag children _ => by
    rw [Block.inTemplate, Block.parts, List.flatMap_cons, List.flatMap_append,
      List.flatMap_singleton, loopBody_eq children, List.append_assoc]
    rfl
  | .loop _ _ _ _ _ _ => (List.flatMap_singleton _ _).symm

/-- **The body of a loop is its parts**, written one after the other. -/
theorem loopBody_eq : ∀ blocks : List Block,
    loopBody blocks = (partsOf blocks).flatMap Part.inTemplate
  | [] => rfl
  | block :: rest => by
    rw [loopBody, partsOf, List.flatMap_append, Block.inTemplate_eq block, loopBody_eq rest]

end

/-- The texts are a stretch of the parts: they stand side by side, with a slot or an end of the list
on both sides. -/
structure Stretch (parts before : List Part) (texts : List Text) (after : List Part) : Prop where
  parts_eq : parts = before ++ texts.map .literal ++ after
  starts : ∀ text, before.getLast? ≠ some (.literal text)
  stops : ∀ text, after.head? ≠ some (.literal text)

/-- What is written behind a stretch ends it. -/
lemma Stretch.stopsLiteral {parts before after : List Part} {texts : List Text}
    (stretch : Stretch parts before texts after) (rest : Text) :
    StopsLiteral (after.flatMap Part.inTemplate ++ '`' :: rest) := by
  cases after with
  | nil => exact stopsLiteral_backtick rest
  | cons part later =>
    cases part with
    | literal text => exact absurd rfl (stretch.stops text)
    | slot occurrence => exact stopsLiteral_dollar _

/-- **What a script reads of the text in a loop.**  The body of a loop is a row of stretches of literal
text, with substitutions between them.  A stretch is read as its texts, up to the substitution or the
backtick behind it, exactly if no two of its pieces spell the start of a substitution together; if they
do, a substitution starts inside the stretch. -/
theorem loopBody_read_iff {blocks : List Block} {before after : List Part} {texts : List Text}
    (stretch : Stretch (partsOf blocks) before texts after) (rest : Text) :
    let written := texts.flatMap templateLiteral
    let behind := after.flatMap Part.inTemplate ++ '`' :: rest
    loopBody blocks ++ '`' :: rest = before.flatMap Part.inTemplate ++ (written ++ behind) ∧
      (readLiteral? (written ++ behind) = some (texts.flatten, behind) ↔
        ¬ SpellsSubstitution texts) ∧
      (SpellsSubstitution texts → ∃ value inside,
        readLiteral? (written ++ behind) = some (value, '$' :: '\x7b' :: inside) ∧
          behind <:+ inside) := by
  intro written behind
  have stops : StopsLiteral behind := stretch.stopsLiteral rest
  have body : loopBody blocks = before.flatMap Part.inTemplate ++ written ++
      after.flatMap Part.inTemplate := by
    rw [loopBody_eq, stretch.parts_eq, List.flatMap_append, List.flatMap_append, List.flatMap_map]
    rfl
  refine ⟨by simp [body, behind], ⟨fun read spells => ?_, readLiteral?_pieces stops⟩,
    readLiteral?_pieces_of_spells stops⟩
  obtain ⟨value, inside, opened, suffix⟩ := readLiteral?_pieces_of_spells stops spells
  rw [read, Option.some_inj, Prod.mk.injEq] at opened
  have shorter := suffix.length_le
  rw [opened.2, List.length_cons, List.length_cons] at shorter
  omega

/-- A backtick and a dollar sign before an expression in braces. -/
theorem loopBody_read_dollar :
    Stretch (partsOf [.text "`$".toList ⟨0, 2⟩, .interpolation ['x'] ⟨2, 5⟩]) [] ["`$".toList]
        [.slot (.interpolation ['x'])] ∧
      readLiteral? "\\`$$\x7bx\x7d`".toList = some ("`$".toList, "$\x7bx\x7d`".toList) := by
  have stretch : Stretch (partsOf [.text "`$".toList ⟨0, 2⟩, .interpolation ['x'] ⟨2, 5⟩]) []
      ["`$".toList] [.slot (.interpolation ['x'])] :=
    ⟨rfl, fun _ => nofun, fun _ => nofun⟩
  exact ⟨stretch, (loopBody_read_iff stretch []).2.1.2 (by decide)⟩

lemma eq_literals {parts : List Part} {texts : List Text}
    (same : (parts.map fun part => match part with
      | .literal text => some text
      | .slot _ => none) = texts.map some) : parts = texts.map .literal := by
  induction parts generalizing texts with
  | nil =>
    obtain rfl : texts = [] := List.map_eq_nil_iff.1 same.symm
    rfl
  | cons part rest ih =>
    obtain ⟨text, more, rfl, first, later⟩ := List.map_eq_cons_iff.1 same.symm
    cases part with
    | literal text => rw [ih later.symm, ← Option.some.inj first, List.map_cons]
    | slot => exact nomatch first

/-- A request between a dollar sign and a brace: the two spell a substitution. -/
theorem not_literalText_request : ¬ ∀ source document, Document.parse source = .ok document →
    ∀ each item openTag closeTag children span,
      .loop each item openTag closeTag children span ∈ walkBlocks document.blocks →
      ∀ before texts after, Stretch (partsOf children) before texts after → ∀ rest,
        readLiteral? (texts.flatMap templateLiteral ++
            (after.flatMap Part.inTemplate ++ '`' :: rest)) =
          some (texts.flatten, after.flatMap Part.inTemplate ++ '`' :: rest) := by
  intro literal
  have computed : (Document.parse
      "<For each=\x7bxs\x7d as='x'>$<Request/>\\\x7bx\\\x7d</For>".toList).map (fun document =>
        (walkBlocks document.blocks).map fun block =>
          (block.element?, (partsOf block.children).map fun part => match part with
            | .literal text => some text
            | .slot _ => none)) =
      .ok [(some .loop, [some ['$'], some "\x7bx\x7d".toList]), (none, []), (none, []),
        (none, [])] := by
    decide +kernel
  obtain ⟨document, parsed, found⟩ := exists_parse computed
  obtain ⟨block, member, both⟩ := List.mem_map.1 (found ▸ List.mem_cons_self)
  obtain ⟨isLoop, texts⟩ := Prod.mk.inj both
  cases block with
  | loop each item openTag closeTag children span =>
    have parts : partsOf children = [['$'], "\x7bx\x7d".toList].map .literal := eq_literals texts
    have stretch : Stretch (partsOf children) [] [['$'], "\x7bx\x7d".toList] [] :=
      ⟨by rw [parts]; rfl, fun _ => nofun, fun _ => nofun⟩
    have read := literal _ document parsed each item openTag closeTag children span member
      _ _ _ stretch []
    exact absurd read (by decide +kernel)
  | text | interpolation | code | hoisted | request | role => exact nomatch isLoop

end GlassPrompt
