import GlassPrompt.Proofs.Import.BoundNames
import GlassPrompt.Proofs.Import.NormalForm

/-!
# The grammar of static imports

A static import is the word `import`, a clause with `from` or neither, and a quoted specifier.  A
statement is read where blanks stand around the `from` of a static import and its line ends with it.

* `IsImportHead`, `IsSpacedHead`, `IsStaticImport` — the grammar, whatever follows.
* `readClause?_isSome_iff`, `readImport?_isSome_iff` — what is read of it.
* `IsStaticImport.append`, `IsStaticImport.of_append`, `readStatementEnd?_append` — a static import in
  front of more text.
-/

namespace GlassPrompt

open Text

/-! ## The grammar of static imports -/

/-- What stands between the word `import` and a specifier: blanks, or a clause and the word `from`. -/
inductive IsImportHead : Text → Prop
  | bare {gap : Text} (isGap : IsGap gap) : IsImportHead gap
  | clause {gap clause behind : Text} (isGap : IsGap gap) (nonempty : clause ≠ [])
    (isBehind : IsGap behind) : IsImportHead (gap ++ clause ++ "from".toList ++ behind)

/-- There are blanks on both sides of the word `from`. -/
inductive IsSpacedHead : Text → Prop
  | bare {gap : Text} (isGap : IsGap gap) : IsSpacedHead gap
  | clause {gap clause before behind : Text} (isGap : IsGap gap) (nonempty : clause ≠ [])
    (isBefore : IsGap before) (isBehind : IsGap behind) :
    IsSpacedHead (gap ++ clause ++ before ++ "from".toList ++ behind)

lemma IsSpacedHead.isImportHead {head : Text} (spaced : IsSpacedHead head) : IsImportHead head := by
  cases spaced with
  | bare isGap => exact .bare isGap
  | @clause gap clause before behind isGap nonempty isBefore isBehind =>
    rw [List.append_assoc gap]
    exact .clause isGap (List.append_ne_nil_of_left_ne_nil nonempty before) isBehind

/-- The text opens with a static import that has `head` before its specifier and `after` behind it. -/
structure IsStaticImport (head after text : Text) : Prop where
  isHead : IsImportHead head
  noQuotes : ∀ c ∈ head, isSpecifierQuote c = false
  quoted : ∃ quote specifier, isSpecifierQuote quote = true ∧ specifier ≠ [] ∧
    (∀ c ∈ specifier, isSpecifierQuote c = false) ∧
    text = "import".toList ++ head ++ quote :: specifier ++ [quote] ++ after

/-! ## Reading a clause -/

/-- Blanks at both ends leave a clause between them, unless they are all that there is. -/
lemma exists_clause_iff (part : Text) :
    (∃ gap clause before, IsGap gap ∧ clause ≠ [] ∧ IsGap before ∧ part = gap ++ clause ++ before) ↔
      part.head?.any isBlank = true ∧ part.getLast?.any isBlank = true ∧
        (isBlankText part = true → 3 ≤ part.length) := by
  constructor
  · rintro ⟨gap, clause, before, isGap, nonempty, isBefore, rfl⟩
    obtain ⟨c, rest, rfl⟩ := List.exists_cons_of_ne_nil isGap.nonempty
    obtain ⟨start, d, rfl⟩ := (List.eq_nil_or_concat' before).resolve_left isBefore.nonempty
    refine ⟨isBlankText_iff.1 isGap.blank c List.mem_cons_self, ?_, fun _ => ?_⟩
    · rw [← List.append_assoc, List.getLast?_concat]
      exact isBlankText_iff.1 isBefore.blank d (List.mem_append_right _ List.mem_cons_self)
    · have long := List.length_pos_of_ne_nil nonempty
      simp only [List.length_append, List.length_cons]
      omega
  · rintro ⟨first, last, long⟩
    have single {c : Char} (blank : isBlank c = true) : IsGap [c] :=
      ⟨List.cons_ne_nil _ _, isBlankText_iff.2 (List.forall_mem_singleton.2 blank)⟩
    cases part with
    | nil => exact nomatch first
    | cons c rest =>
      have firstBlank : isBlank c = true := first
      rcases List.eq_nil_or_concat' rest with rfl | ⟨clause, d, rfl⟩
      · exact absurd (long (single firstBlank).blank) (by simp)
      · have lastBlank : isBlank d = true := by
          rwa [← List.cons_append, List.getLast?_concat] at last
        refine ⟨[c], clause, [d], single firstBlank, ?_, single lastBlank, rfl⟩
        rintro rfl
        exact absurd (long (isBlankText_iff.2 (by simp [firstBlank, lastBlank]))) (by simp)

/-- What is read before a `from` with blanks behind it. -/
lemma readClause?_from {part behind : Text} (isBehind : IsGap behind) :
    (readClause? (part ++ "from".toList ++ behind)).isSome = true ↔
      part.head?.any isBlank = true ∧ part.getLast?.any isBlank = true ∧
        (isBlankText part = true → 3 ≤ part.length) := by
  have body : trimEnd (part ++ "from".toList ++ behind) = part ++ "from".toList := by
    have split : part ++ "from".toList = (part ++ "fro".toList) ++ ['m'] := by simp
    rw [trimEnd_of_blank isBehind.blank, split, trimEnd_concat rfl]
  have count : (part ++ "from".toList).length - 4 = part.length := by simp
  have longer : (part ++ "from".toList).length ≠ (part ++ "from".toList ++ behind).length := by
    have more := List.length_pos_of_ne_nil isBehind.nonempty
    simp only [List.length_append]
    omega
  have nonempty : (part ++ "from".toList ++ behind).isEmpty = false := by simp
  have noBlank : isBlankText (part ++ "from".toList ++ behind) = false := by
    simp [isBlankText, isBlank]
  unfold readClause?
  dsimp only
  rw [body, count, List.take_left, List.drop_left, nonempty, noBlank, if_neg Bool.false_ne_true,
    if_neg Bool.false_ne_true, if_neg (not_or.2 ⟨longer, not_not.2 rfl⟩)]
  cases blank : isBlankText part with
  | true =>
    have blanks := isBlankText_iff.1 blank
    have ends (long : 3 ≤ part.length) :
        part.head?.any isBlank = true ∧ part.getLast?.any isBlank = true := by
      have content : part ≠ [] := List.ne_nil_of_length_pos (Nat.lt_of_lt_of_le (by decide) long)
      rw [List.head?_eq_some_head content, List.getLast?_eq_some_getLast content]
      exact ⟨blanks _ (List.head_mem content), blanks _ (List.getLast_mem content)⟩
    rw [if_pos rfl]
    split
    · next long => exact iff_of_true rfl ⟨(ends long).1, (ends long).2, fun _ => long⟩
    · next short => exact iff_of_false Bool.false_ne_true fun all => short (all.2.2 rfl)
  | false =>
    rw [if_neg Bool.false_ne_true]
    split
    · next both => exact iff_of_true rfl ⟨both.1, both.2, fun all => absurd all Bool.false_ne_true⟩
    · next notBoth => exact iff_of_false Bool.false_ne_true fun all => notBoth ⟨all.1, all.2.1⟩

/-- What is read is blank, or there is a `from` with blanks behind it. -/
lemma exists_from {head : Text} (read : (readClause? head).isSome = true) :
    IsGap head ∨ ∃ part behind, IsGap behind ∧ head = part ++ "from".toList ++ behind := by
  obtain ⟨behind, blankBehind, whole⟩ := exists_trimEnd head
  unfold readClause? at read
  dsimp only at read
  split at read
  · exact nomatch read
  · next nonempty =>
    split at read
    · next blank => exact .inl ⟨fun empty => nonempty (List.isEmpty_iff.2 empty), blank⟩
    · split at read
      · exact nomatch read
      · next written =>
        rw [not_or, not_not] at written
        obtain ⟨longer, word⟩ := written
        refine .inr ⟨(trimEnd head).take ((trimEnd head).length - 4), behind, ⟨?_, blankBehind⟩, ?_⟩
        · rintro rfl
          rw [List.append_nil] at whole
          exact longer (congrArg List.length whole).symm
        · rw [← word, List.take_append_drop, ← whole]

/-- **A clause is read exactly off a head with blanks around its `from`.** -/
theorem readClause?_isSome_iff (head : Text) :
    (readClause? head).isSome = true ↔ IsSpacedHead head := by
  constructor
  · intro read
    rcases exists_from read with isGap | ⟨part, behind, isBehind, rfl⟩
    · exact .bare isGap
    · obtain ⟨gap, clause, before, isGap, nonempty, isBefore, rfl⟩ :=
        (exists_clause_iff part).2 ((readClause?_from isBehind).1 read)
      exact .clause isGap nonempty isBefore isBehind
  · intro spaced
    cases spaced with
    | bare isGap =>
      unfold readClause?
      dsimp only
      rw [if_neg (mt List.isEmpty_iff.1 isGap.nonempty), if_pos isGap.blank]
      rfl
    | clause isGap nonempty isBefore isBehind =>
      exact (readClause?_from isBehind).2
        ((exists_clause_iff _).1 ⟨_, _, _, isGap, nonempty, isBefore, rfl⟩)

/-! ## Reading a statement -/

/-- A text, read up to its first quote. -/
lemma upToQuote_iff {text before after : Text} {quote : Char} :
    text.takeWhile (!isSpecifierQuote ·) = before ∧
        text.dropWhile (!isSpecifierQuote ·) = quote :: after ↔
      (∀ c ∈ before, isSpecifierQuote c = false) ∧ isSpecifierQuote quote = true ∧
        text = before ++ quote :: after := by
  constructor
  · rintro ⟨rfl, eq⟩
    have isQuote := stops_dropWhile (p := (!isSpecifierQuote ·)) text quote (by rw [eq]; rfl)
    refine ⟨fun c member => by simpa using List.mem_takeWhile_imp member, by simpa using isQuote, ?_⟩
    rw [← eq, List.takeWhile_append_dropWhile]
  · rintro ⟨noQuotes, isQuote, rfl⟩
    have all : before.all (!isSpecifierQuote ·) = true :=
      List.all_eq_true.2 fun c member => by simp [noQuotes c member]
    have stops : ∀ c ∈ (quote :: after).head?, (!isSpecifierQuote c) = false := by
      rintro _ ⟨⟩
      simp [isQuote]
    exact ⟨takeWhile_of_stop all stops, dropWhile_of_stop all stops⟩

lemma readSpecifier?_eq_some_iff {quote : Char} {text specifier after : Text} :
    readSpecifier? quote text = some (specifier, after) ↔
      specifier ≠ [] ∧ (∀ c ∈ specifier, isSpecifierQuote c = false) ∧ isSpecifierQuote quote = true ∧
        text = specifier ++ quote :: after := by
  rw [← upToQuote_iff]
  unfold readSpecifier?
  dsimp only
  split
  · next eq => simp [eq]
  · next c rest eq =>
    rw [eq, Option.ite_none_right_eq_some, Option.some.injEq, Prod.mk.injEq, List.cons.injEq]
    constructor
    · rintro ⟨⟨rfl, nonempty⟩, rfl, rfl⟩
      exact ⟨nonempty, rfl, rfl, rfl⟩
    · rintro ⟨nonempty, rfl, rfl, rfl⟩
      exact ⟨⟨rfl, nonempty⟩, rfl, rfl⟩

lemma readImportTail?_isSome_iff (text : Text) : (readImportTail? text).isSome = true ↔
    ∃ head quote specifier after, (readClause? head).isSome = true ∧
      (∀ c ∈ head, isSpecifierQuote c = false) ∧ isSpecifierQuote quote = true ∧
      readSpecifier? quote (specifier ++ quote :: after) = some (specifier, after) ∧
      (readStatementEnd? after).isSome = true ∧
      text = head ++ quote :: (specifier ++ quote :: after) := by
  constructor
  · intro read
    unfold readImportTail? at read
    split at read
    · exact nomatch read
    · next quote rest eq =>
      obtain ⟨noQuotes, isQuote, whole⟩ := upToQuote_iff.1 ⟨rfl, eq⟩
      split at read
      · next clause specifier after readClause readSpecifier =>
        rw [Option.isSome_map] at read
        obtain ⟨-, -, -, rfl⟩ := readSpecifier?_eq_some_iff.1 readSpecifier
        exact ⟨_, quote, specifier, after, Option.isSome_of_eq_some readClause, noQuotes, isQuote,
          readSpecifier, read, whole⟩
      · exact nomatch read
  · rintro ⟨head, quote, specifier, after, readClause, noQuotes, isQuote, readSpecifier, ends, rfl⟩
    obtain ⟨clause, readClause⟩ := Option.isSome_iff_exists.1 readClause
    obtain ⟨before, behind⟩ := upToQuote_iff.2 ⟨noQuotes, isQuote, rfl⟩
    unfold readImportTail?
    rw [behind, before]
    dsimp only
    rw [readClause, readSpecifier, Option.isSome_map]
    exact ends

/-- **A statement is read exactly where a static import with blanks around its `from` ends its line.** -/
theorem readImport?_isSome_iff (text : Text) : (readImport? text).isSome = true ↔
    ∃ head after, IsStaticImport head after text ∧ IsSpacedHead head ∧
      (readStatementEnd? after).isSome = true := by
  constructor
  · intro read
    unfold readImport? at read
    split at read
    · exact nomatch read
    · next tail word =>
      rw [readImportTail?_isSome_iff] at read
      obtain ⟨head, quote, specifier, after, readClause, noQuotes, isQuote, readSpecifier, ends, rfl⟩ :=
        read
      have spaced := (readClause?_isSome_iff head).1 readClause
      obtain ⟨nonempty, inside, -, -⟩ := readSpecifier?_eq_some_iff.1 readSpecifier
      refine ⟨head, after, ⟨spaced.isImportHead, noQuotes, quote, specifier, isQuote, nonempty, inside,
        ?_⟩, spaced, ends⟩
      rw [← isPrefixOf?_eq_some_iff.1 word]
      simp
  · rintro ⟨head, after, ⟨-, noQuotes, quote, specifier, isQuote, nonempty, inside, rfl⟩, spaced, ends⟩
    have split : "import".toList ++ head ++ quote :: specifier ++ [quote] ++ after =
        "import".toList ++ (head ++ quote :: (specifier ++ quote :: after)) := by simp
    rw [readImport?, isPrefixOf?_eq_some_iff.2 split.symm]
    exact (readImportTail?_isSome_iff _).2 ⟨head, quote, specifier, after,
      (readClause?_isSome_iff head).2 spaced, noQuotes, isQuote,
      readSpecifier?_eq_some_iff.2 ⟨nonempty, inside, isQuote, rfl⟩, ends, rfl⟩

/-! ## What stands behind a static import -/

section

variable {head after text : Text}

lemma IsStaticImport.append (opens : IsStaticImport head after text) (more : Text) :
    IsStaticImport head (after ++ more) (text ++ more) := by
  obtain ⟨isHead, noQuotes, quote, specifier, isQuote, nonempty, inside, rfl⟩ := opens
  exact ⟨isHead, noQuotes, quote, specifier, isQuote, nonempty, inside, by rw [← List.append_assoc]⟩

/-- A static import that ends before `more` is one without it. -/
lemma IsStaticImport.of_append {more : Text} (opens : IsStaticImport head after (text ++ more))
    (within : more.length ≤ after.length) :
    ∃ rest, after = rest ++ more ∧ IsStaticImport head rest text := by
  obtain ⟨isHead, noQuotes, quote, specifier, isQuote, nonempty, inside, whole⟩ := opens
  obtain ⟨rest, rfl⟩ : more <:+ after :=
    List.suffix_of_suffix_length_le (List.suffix_append text more)
      (whole ▸ List.suffix_append _ after) within
  refine ⟨rest, rfl, isHead, noQuotes, quote, specifier, isQuote, nonempty, inside, ?_⟩
  rw [← List.append_assoc] at whole
  exact List.append_cancel_right whole

/-- A static import does not end in a newline. -/
lemma IsStaticImport.newline (opens : IsStaticImport head after text)
    (ends : text.getLast? = some '\n') : '\n' ∈ after := by
  obtain ⟨-, -, quote, specifier, isQuote, -, -, rfl⟩ := opens
  cases after with
  | nil =>
    rw [List.append_nil, List.getLast?_concat, Option.some.injEq] at ends
    rw [ends] at isQuote
    exact nomatch isQuote
  | cons c rest =>
    rw [List.getLast?_append_of_ne_nil _ (List.cons_ne_nil c rest)] at ends
    exact List.mem_of_getLast? ends

end

/-- A statement without a semicolon ends its line with the newline that is next. -/
lemma readStatementEnd?_plain {text rest : Text} {c : Char} (next : text.dropWhile isIndent = c :: rest)
    (other : c ≠ ';') : readStatementEnd? text = if c = '\n' then some rest else none := by
  unfold readStatementEnd?
  dsimp only
  rw [next]
  split
  · next eq =>
    split at eq
    · next semicolon => exact absurd (List.cons.inj semicolon).1 other
    · exact nomatch eq
  · next eq =>
    split at eq
    · next semicolon => exact absurd (List.cons.inj semicolon).1 other
    · obtain ⟨rfl, rfl⟩ := List.cons.inj eq
      exact (if_pos rfl).symm
  · next noBreak =>
    split at noBreak
    · next semicolon => exact absurd (List.cons.inj semicolon).1 other
    · rw [if_neg]
      rintro rfl
      exact noBreak rest rfl

lemma readStatementEnd?_semicolon {text rest behind : Text} {c : Char}
    (semicolon : text.dropWhile isIndent = ';' :: behind) (next : behind.dropWhile isIndent = c :: rest) :
    readStatementEnd? text = if c = '\n' then some rest else none := by
  unfold readStatementEnd?
  dsimp only
  simp only [semicolon, next]
  split
  · next eq => exact nomatch eq
  · next eq =>
    obtain ⟨rfl, rfl⟩ := List.cons.inj eq
    exact (if_pos rfl).symm
  · next noBreak =>
    rw [if_neg]
    rintro rfl
    exact noBreak rest rfl

section

variable {text : Text} (newline : '\n' ∈ text) (more : Text)

include newline

/-- Behind its indentation, a line with its newline reads the same whatever follows. -/
lemma dropWhile_isIndent_append :
    (text ++ more).dropWhile isIndent = text.dropWhile isIndent ++ more ∧
      '\n' ∈ text.dropWhile isIndent := by
  have rest : '\n' ∈ text.dropWhile isIndent := by
    rw [← List.takeWhile_append_dropWhile (p := isIndent) (l := text), List.mem_append] at newline
    exact newline.resolve_left fun member => nomatch List.mem_takeWhile_imp member
  rw [List.dropWhile_append, if_neg (mt List.isEmpty_iff.1 (List.ne_nil_of_mem rest))]
  exact ⟨rfl, rest⟩

/-- Whether a statement ends its line does not depend on the lines that follow. -/
lemma readStatementEnd?_append :
    (readStatementEnd? (text ++ more)).isSome = (readStatementEnd? text).isSome := by
  obtain ⟨indent, member⟩ := dropWhile_isIndent_append newline more
  obtain ⟨c, rest, next⟩ := List.exists_cons_of_ne_nil (List.ne_nil_of_mem member)
  rw [next] at indent member
  by_cases semicolon : c = ';'
  · subst semicolon
    have later : '\n' ∈ rest := (List.mem_cons.1 member).resolve_left (by decide)
    obtain ⟨indentBehind, member⟩ := dropWhile_isIndent_append later more
    obtain ⟨d, tail, nextBehind⟩ := List.exists_cons_of_ne_nil (List.ne_nil_of_mem member)
    rw [nextBehind] at indentBehind
    rw [readStatementEnd?_semicolon next nextBehind, readStatementEnd?_semicolon indent indentBehind]
    split <;> rfl
  · rw [readStatementEnd?_plain next semicolon, readStatementEnd?_plain indent semicolon]
    split <;> rfl

end

end GlassPrompt
