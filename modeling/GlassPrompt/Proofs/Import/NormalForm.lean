import GlassPrompt.Import.Statement
import GlassPrompt.Proofs.Import.ClauseParts

/-!
# Import statements in standard form

The standard form of a clause is a normal form: writing it in standard form once more changes nothing.
A statement in standard form is an import statement again, and reading it gives back what was written.

* `normaliseClause_idem` — the standard form is a normal form.
* `ImportStatement.Readable` — what is read of a statement, `readable_of_readImport?`.
* `readImport?_render` — a statement in standard form, read.
* `standardForm_readAgain` — both together.
-/

namespace GlassPrompt

open Text

/-! ## Clauses -/

/-- The standard form comes from squeezing the runs of blanks and then rewriting the lists of names. -/
lemma normaliseClause_eq (clause : Text) :
    normaliseClause clause = spaceBraces (squeeze (trim clause)) := by
  rw [normaliseClause, intercalate_words]

/-- The standard form has no blanks at its ends. -/
lemma trim_normaliseClause (clause : Text) : trim (normaliseClause clause) = normaliseClause clause := by
  have trimmed : trim (squeeze (trim clause)) = squeeze (trim clause) := by
    obtain ⟨-, -, -, -, -, trimmed⟩ := squeeze_around_trim clause
    exact trimmed
  rw [normaliseClause_eq]
  refine trim_of_noBlank ?_ ?_
  · rw [head?_spaceBraces]
    intro c first
    obtain ⟨rest, eq⟩ := List.head?_eq_some_iff.1 first
    exact isBlank_of_trim_cons (trimmed.trans eq)
  · rw [getLast?_spaceBraces]
    intro c last
    obtain ⟨start, eq⟩ := List.getLast?_eq_some_iff.1 last
    exact isBlank_of_trim (trimmed.trans eq)

/-- **The standard form of a clause is a normal form.** -/
lemma normaliseClause_idem (clause : Text) :
    normaliseClause (normaliseClause clause) = normaliseClause clause := by
  rw [normaliseClause_eq (normaliseClause clause), trim_normaliseClause, normaliseClause_eq,
    spaceBraces_squeeze_spaceBraces, squeeze_squeeze]

lemma normaliseClause_nil : normaliseClause [] = [] := by
  rw [normaliseClause_eq]
  exact spaceBraces_of_none rfl

lemma normaliseClause_ne_nil {clause : Text} (trimmed : trim clause = clause)
    (nonempty : clause ≠ []) : normaliseClause clause ≠ [] := by
  have squeezed := squeeze_ne_nil nonempty
  rw [normaliseClause_eq, trimmed]
  intro empty
  have head := head?_spaceBraces (squeeze clause)
  rw [empty] at head
  exact squeezed (List.head?_eq_none_iff.1 head.symm)

lemma mem_normaliseClause {clause : Text} {c : Char} (member : c ∈ normaliseClause clause) :
    c ∈ clause ∨ c = ' ' ∨ c = ',' := by
  rw [normaliseClause_eq] at member
  rcases mem_spaceBraces member with inside | added
  · rcases mem_squeeze inside with trimmed | space
    · exact .inl (mem_of_mem_trim trimmed)
    · exact .inr (.inl space)
  · exact .inr added

/-! ## What is read of a statement -/

/-- The clause has no blanks at its ends, there is a specifier, and neither holds a quote. -/
structure ImportStatement.Readable (statement : ImportStatement) : Prop where
  trimmed : trim statement.clause = statement.clause
  clause_quotes : ∀ c ∈ statement.clause, isSpecifierQuote c = false
  nonempty : statement.specifier ≠ []
  specifier_quotes : ∀ c ∈ statement.specifier, isSpecifierQuote c = false

lemma readable_clause {head clause : Text} (h : readClause? head = some clause) :
    trim clause = clause ∧ ∀ c ∈ clause, c ∈ head := by
  have nothing : trim [] = [] ∧ ∀ c ∈ ([] : Text), c ∈ head := ⟨rfl, nofun⟩
  unfold readClause? at h
  dsimp only at h
  split at h
  · exact nomatch h
  · split at h
    · exact Option.some.inj h ▸ nothing
    · split at h
      · exact nomatch h
      · split at h
        · split at h
          · exact Option.some.inj h ▸ nothing
          · exact nomatch h
        · split at h
          · obtain rfl := Option.some.inj h
            refine ⟨trim_trim _, fun c member => ?_⟩
            obtain ⟨trail, -, eq⟩ := exists_trimEnd head
            rw [eq]
            exact List.mem_append_left _ (List.mem_of_mem_take (mem_of_mem_trim member))
          · exact nomatch h

lemma readable_specifier {quote : Char} {text specifier rest : Text}
    (h : readSpecifier? quote text = some (specifier, rest)) :
    specifier ≠ [] ∧ ∀ c ∈ specifier, isSpecifierQuote c = false := by
  unfold readSpecifier? at h
  dsimp only at h
  split at h
  · exact nomatch h
  · split at h
    · next both =>
      obtain ⟨rfl, -⟩ := Prod.mk.inj (Option.some.inj h)
      exact ⟨both.2, fun c member => by simpa using List.mem_takeWhile_imp member⟩
    · exact nomatch h

theorem readable_of_readImport? {text rest : Text} {statement : ImportStatement}
    (h : readImport? text = some (statement, rest)) : statement.Readable := by
  unfold readImport? at h
  split at h
  · exact nomatch h
  · next tail _ =>
    unfold readImportTail? at h
    split at h
    · exact nomatch h
    · split at h
      · next clause specifier _ readClause readSpecifier =>
        obtain ⟨_, -, pair⟩ := Option.map_eq_some_iff.1 h
        obtain ⟨rfl, -⟩ := Prod.mk.inj pair
        obtain ⟨trimmed, inside⟩ := readable_clause readClause
        obtain ⟨nonempty, noQuotes⟩ := readable_specifier readSpecifier
        refine ⟨trimmed, fun c member => ?_, nonempty, noQuotes⟩
        simpa using List.mem_takeWhile_imp (inside c member)
      · exact nomatch h

/-! ## Reading what is written -/

/-- A clause between blanks, before a `from` that has blanks behind it. -/
lemma readClause?_of_from {head part : Text} (body : trimEnd head = part ++ "from".toList)
    (behind : (trimEnd head).length ≠ head.length) (content : isBlankText part = false)
    (first : part.head?.any isBlank = true) (last : part.getLast?.any isBlank = true) :
    readClause? head = some (trim part) := by
  have count : (part ++ "from".toList).length - 4 = part.length := by simp
  have nonempty : head.isEmpty = false := by
    cases head with
    | nil => exact absurd rfl behind
    | cons c rest => rfl
  have noBlank : isBlankText head = false := by
    obtain ⟨trail, -, eq⟩ := exists_trimEnd head
    rw [eq, body, isBlankText, List.all_append, List.all_append, ← isBlankText, content]
    rfl
  rw [body] at behind
  unfold readClause?
  dsimp only
  rw [body, count, List.take_left, List.drop_left, nonempty, noBlank, content,
    if_neg Bool.false_ne_true, if_neg Bool.false_ne_true, if_neg (not_or.2 ⟨behind, not_not.2 rfl⟩),
    if_neg Bool.false_ne_true, if_pos ⟨first, last⟩]

/-- The clause of a statement in standard form. -/
lemma readClause?_between {clause : Text} (trimmed : trim clause = clause) (nonempty : clause ≠ []) :
    readClause? ([' '] ++ clause ++ " from ".toList) = some clause := by
  obtain ⟨c, rest, eq⟩ := List.exists_cons_of_ne_nil nonempty
  have noBlank := isBlank_of_trim_cons (trimmed.trans eq)
  have space : isBlankText [' '] = true := rfl
  have body : trimEnd ([' '] ++ clause ++ " from ".toList) =
      ([' '] ++ clause ++ [' ']) ++ "from".toList := by
    have split : [' '] ++ clause ++ " from ".toList =
        (([' '] ++ clause ++ " fro".toList) ++ ['m']) ++ [' '] := by simp
    rw [split, trimEnd_of_blank space, trimEnd_concat rfl]
    simp
  have read := readClause?_of_from body (by rw [body]; simp)
    (by rw [eq]; simp [isBlankText, noBlank]) rfl (by rw [List.getLast?_concat]; rfl)
  rwa [trim_of_blanks space space, trimmed] at read

/-- A specifier up to its closing quote. -/
lemma readSpecifier?_quoted {specifier : Text} (nonempty : specifier ≠ [])
    (noQuotes : ∀ c ∈ specifier, isSpecifierQuote c = false) :
    readSpecifier? '\'' (specifier ++ ['\'']) = some (specifier, []) := by
  have all : specifier.all (!isSpecifierQuote ·) = true :=
    List.all_eq_true.2 fun c member => by simp [noQuotes c member]
  have stops : ∀ c ∈ ['\''].head?, (!isSpecifierQuote c) = false := by
    rintro _ ⟨⟩
    rfl
  unfold readSpecifier?
  dsimp only
  rw [takeWhile_of_stop all stops, dropWhile_of_stop all stops]
  simp [nonempty]

/-- What follows `import`, read with its clause and its specifier at the end of a text. -/
lemma readImportTail?_quoted {head clause specifier : Text}
    (noQuotesHead : ∀ c ∈ head, isSpecifierQuote c = false)
    (readClause : readClause? head = some clause) (nonempty : specifier ≠ [])
    (noQuotes : ∀ c ∈ specifier, isSpecifierQuote c = false) :
    readImportTail? (head ++ '\'' :: (specifier ++ ['\''])) = some (⟨clause, specifier⟩, []) := by
  have all : head.all (!isSpecifierQuote ·) = true :=
    List.all_eq_true.2 fun c member => by simp [noQuotesHead c member]
  have stops : ∀ c ∈ ('\'' :: (specifier ++ ['\''])).head?, (!isSpecifierQuote c) = false := by
    rintro _ ⟨⟩
    rfl
  unfold readImportTail?
  rw [dropWhile_of_stop all stops, takeWhile_of_stop all stops]
  dsimp only
  rw [readClause, readSpecifier?_quoted nonempty noQuotes]
  rfl

lemma specifierFromChild_ne_nil {specifier : Text} (nonempty : specifier ≠ []) :
    specifierFromChild specifier ≠ [] := by
  unfold specifierFromChild
  split
  · exact List.cons_ne_nil _ _
  · exact List.cons_ne_nil _ _
  · exact nonempty

lemma mem_specifierFromChild {specifier : Text} {c : Char}
    (member : c ∈ specifierFromChild specifier) : c ∈ specifier ∨ c = '.' ∨ c = '/' := by
  unfold specifierFromChild at member
  split at member
  · simp only [List.mem_cons] at member ⊢
    tauto
  · simp only [List.mem_cons] at member ⊢
    tauto
  · exact .inl member

section

variable {statement : ImportStatement} (readable : statement.Readable)

include readable

/-- **A statement in standard form is read as what it was written from.** -/
theorem readImport?_render : readImport? statement.render =
    some (⟨normaliseClause statement.clause, specifierFromChild statement.specifier⟩, []) := by
  have nonempty := specifierFromChild_ne_nil readable.nonempty
  have noQuotes (c : Char) (member : c ∈ specifierFromChild statement.specifier) :
      isSpecifierQuote c = false := by
    rcases mem_specifierFromChild member with inside | rfl | rfl
    · exact readable.specifier_quotes c inside
    · rfl
    · rfl
  have word (tail : Text) : readImport? ("import".toList ++ tail) = readImportTail? tail := by
    rw [readImport?, isPrefixOf?_eq_some_iff.2 rfl]
  cases clause : statement.clause with
  | nil =>
    have text : statement.render = "import".toList ++
        ([' '] ++ '\'' :: (specifierFromChild statement.specifier ++ ['\''])) := by
      simp [ImportStatement.render, clause]
    rw [text, word, normaliseClause_nil]
    exact readImportTail?_quoted (List.forall_mem_singleton.2 rfl) rfl nonempty noQuotes
  | cons c rest =>
    have content : statement.clause ≠ [] := by rw [clause]; exact List.cons_ne_nil c rest
    rw [← clause]
    have text : statement.render = "import".toList ++
        (([' '] ++ normaliseClause statement.clause ++ " from ".toList) ++
          '\'' :: (specifierFromChild statement.specifier ++ ['\''])) := by
      simp [ImportStatement.render, content]
    rw [text, word]
    refine readImportTail?_quoted (fun d member => ?_)
      (readClause?_between (trim_normaliseClause _)
        (normaliseClause_ne_nil readable.trimmed content)) nonempty noQuotes
    rw [List.mem_append, List.mem_append] at member
    rcases member with (space | inside) | word
    · rw [List.mem_singleton.1 space]
      rfl
    · rcases mem_normaliseClause inside with old | rfl | rfl
      · exact readable.clause_quotes d old
      · rfl
      · rfl
    · have from_ : " from ".toList.all (!isSpecifierQuote ·) = true := rfl
      simpa using List.all_eq_true.1 from_ d word

end

lemma liftImports_whole {text : Text} {statement : ImportStatement}
    (h : readImport? ('i' :: text) = some (statement, [])) :
    liftImports ('i' :: text) = ([statement], []) := by
  have start : skipEmptyLines ('i' :: text) = 'i' :: text := by
    rw [skipEmptyLines]
    rfl
  have next : readNextImport? ('i' :: text) = some (statement, []) := by
    rw [readNextImport?, start]
    exact h
  have nothing : liftImports [] = ([], []) := by decide +kernel
  rw [liftImports]
  split
  · next none => exact absurd (next.symm.trans none) (Option.some_ne_none _)
  · next some =>
    rw [next] at some
    obtain ⟨rfl, rfl⟩ := Prod.mk.inj (Option.some.inj some)
    rw [nothing]

/-! ## Both together -/

/-- **Import statements are written in a normal form and can be read again.**  The standard form of a
clause is its own standard form.  A statement that is read anywhere and then written in standard form
is one leading statement without anything behind it; its clause, its specifier and its names are those
that were written. -/
theorem standardForm_readAgain :
    (∀ clause, normaliseClause (normaliseClause clause) = normaliseClause clause) ∧
      ∀ text statement rest, readImport? text = some (statement, rest) →
        liftImports statement.render =
            ([⟨normaliseClause statement.clause, specifierFromChild statement.specifier⟩], []) ∧
          ((liftImports statement.render).1.flatMap ImportStatement.names =
            importedNames (normaliseClause statement.clause)) := by
  refine ⟨normaliseClause_idem, fun text statement rest read => ?_⟩
  have lifted : liftImports statement.render =
      ([⟨normaliseClause statement.clause, specifierFromChild statement.specifier⟩], []) := by
    have again := readImport?_render (readable_of_readImport? read)
    obtain ⟨tail, eq⟩ : ∃ tail, statement.render = 'i' :: tail := by
      rw [ImportStatement.render]
      split <;> exact ⟨_, rfl⟩
    rw [eq] at again ⊢
    exact liftImports_whole again
  refine ⟨lifted, ?_⟩
  rw [lifted]
  exact List.append_nil _

/-- A statement with empty braces, a line break in its clause and a relative specifier. -/
theorem standardForm_readAgain_crossing :
    readImport? "import a ,\n\x7b\x7d from \"./b\" ;\nc".toList =
        some (⟨"a ,\n\x7b\x7d".toList, "./b".toList⟩, ['c']) ∧
      liftImports "import a , \x7b  \x7d from '../b'".toList =
        ([⟨"a , \x7b  \x7d".toList, "../b".toList⟩], []) := by
  have read : readImport? "import a ,\n\x7b\x7d from \"./b\" ;\nc".toList =
      some (⟨"a ,\n\x7b\x7d".toList, "./b".toList⟩, ['c']) := by decide +kernel
  have clause : normaliseClause "a ,\n\x7b\x7d".toList = "a , \x7b  \x7d".toList := by decide +kernel
  have again := (standardForm_readAgain.2 _ _ _ read).1
  rw [ImportStatement.render, clause] at again
  exact ⟨read, again⟩

end GlassPrompt
