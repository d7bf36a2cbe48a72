import GlassPrompt.Import.Specifier
import GlassPrompt.Import.Clause

/-!
# Import statements

An import statement stands at the start of a line: the word `import`, a clause and `from` or neither,
and a quoted specifier, which ends the line.

* `ImportStatement` — a clause and a specifier, with `ImportStatement.render` the statement that the
  generated module gets and `ImportStatement.names` the names that it binds.
* `readImport?` — the statement at the head of a text.
* `liftImports` — the statements that open a document.
* `extractImports` — the statements anywhere in a piece of code, and the code without them.
-/

namespace GlassPrompt

/-- A clause, empty if there is none, and the specifier of a module. -/
structure ImportStatement where
  clause : Text
  specifier : Text
  deriving DecidableEq, Repr

namespace ImportStatement

/-- The statement in standard form, as it is written in the generated module. -/
def render (statement : ImportStatement) : Text :=
  let specifier := '\'' :: specifierFromChild statement.specifier ++ ['\'']
  if statement.clause.isEmpty then "import ".toList ++ specifier
  else "import ".toList ++ normaliseClause statement.clause ++ " from ".toList ++ specifier

/-- The local names that the statement binds. -/
def names (statement : ImportStatement) : List Text :=
  importedNames statement.clause

end ImportStatement

/-! ## Reading one statement -/

/-- The characters that delimit a specifier. -/
def isSpecifierQuote (c : Char) : Bool :=
  c == '\'' || c == '"'

/-- The clause in the text between `import` and the specifier, which holds no quote: it is empty, or
it stands before a final `from`, with blanks around each word. -/
def readClause? (head : Text) : Option Text :=
  if head.isEmpty then none
  else if Text.isBlankText head then some []
  else
    let body := Text.trimEnd head
    let clause := body.take (body.length - 4)
    if body.length = head.length ∨ body.drop (body.length - 4) ≠ "from".toList then none
    else if Text.isBlankText clause then if 3 ≤ clause.length then some [] else none
    else if clause.head?.any isBlank ∧ clause.getLast?.any isBlank then some (Text.trim clause)
    else none

/-- What follows the end of a statement: a semicolon may stand there, with spaces and tabs around it,
and then the line ends. -/
def readStatementEnd? (text : Text) : Option Text :=
  let text := text.dropWhile isIndent
  let text := match text with
    | ';' :: rest => rest.dropWhile isIndent
    | other => other
  match text with
  | [] => some []
  | '\n' :: rest => some rest
  | _ => none

/-- The specifier in `quote` at the head of a text, and what follows its closing quote. -/
def readSpecifier? (quote : Char) (text : Text) : Option (Text × Text) :=
  let specifier := text.takeWhile (!isSpecifierQuote ·)
  match text.dropWhile (!isSpecifierQuote ·) with
  | [] => none
  | c :: rest => if c = quote ∧ specifier ≠ [] then some (specifier, rest) else none

/-- What follows the word `import`: the statement, and what follows its line. -/
def readImportTail? (text : Text) : Option (ImportStatement × Text) :=
  match text.dropWhile (!isSpecifierQuote ·) with
  | [] => none
  | quote :: rest =>
    match readClause? (text.takeWhile (!isSpecifierQuote ·)), readSpecifier? quote rest with
    | some clause, some (specifier, after) =>
      (readStatementEnd? after).map fun rest => (⟨clause, specifier⟩, rest)
    | _, _ => none

/-- The import statement at the head of a text, and what follows its line. -/
def readImport? (text : Text) : Option (ImportStatement × Text) :=
  match "import".toList.isPrefixOf? text with
  | none => none
  | some tail => readImportTail? tail

theorem length_of_readStatementEnd? {text rest : Text}
    (h : readStatementEnd? text = some rest) : rest.length ≤ text.length := by
  have first := (List.dropWhile_suffix (l := text) isIndent).length_le
  simp only [readStatementEnd?] at h
  generalize text.dropWhile isIndent = body at first h
  split at h
  · simp_all
  · next heq =>
    obtain rfl := Option.some.inj h
    split at heq
    · next tail =>
      have second := (List.dropWhile_suffix (l := tail) isIndent).length_le
      rw [heq] at second
      simp only [List.length_cons] at first second ⊢
      omega
    · subst heq
      simp only [List.length_cons] at first ⊢
      omega
  · simp at h

theorem length_of_readSpecifier? {quote : Char} {text specifier rest : Text}
    (h : readSpecifier? quote text = some (specifier, rest)) : rest.length ≤ text.length := by
  have drop := (List.dropWhile_suffix (l := text) (!isSpecifierQuote ·)).length_le
  simp only [readSpecifier?] at h
  split at h
  · simp at h
  · next heq =>
    split at h
    · simp only [Option.some.injEq, Prod.mk.injEq] at h
      obtain ⟨_, rfl⟩ := h
      rw [heq, List.length_cons] at drop
      omega
    · simp at h

theorem length_of_readImportTail? {text rest : Text} {statement : ImportStatement}
    (h : readImportTail? text = some (statement, rest)) : rest.length ≤ text.length := by
  have drop := (List.dropWhile_suffix (l := text) (!isSpecifierQuote ·)).length_le
  simp only [readImportTail?] at h
  split at h
  · simp at h
  · next heq =>
    split at h
    · next hspecifier =>
      obtain ⟨_, hend, hpair⟩ := Option.map_eq_some_iff.1 h
      simp only [Prod.mk.injEq] at hpair
      obtain ⟨_, rfl⟩ := hpair
      have := length_of_readStatementEnd? hend
      have := length_of_readSpecifier? hspecifier
      rw [heq, List.length_cons] at drop
      omega
    · simp at h

theorem length_of_readImport? {text rest : Text} {statement : ImportStatement}
    (h : readImport? text = some (statement, rest)) : rest.length < text.length := by
  simp only [readImport?] at h
  split at h
  · simp at h
  · next tail heq =>
    have := length_of_readImportTail? h
    have : text.length = 6 + tail.length := by
      rw [← Text.isPrefixOf?_eq_some_iff.1 heq, List.length_append]
      rfl
    omega

/-! ## The statements that open a text -/

/-- A text without the lines of spaces and tabs at its start. -/
def skipEmptyLines (text : Text) : Text :=
  match _h : text.dropWhile isIndent with
  | '\n' :: rest => skipEmptyLines rest
  | _ => text
termination_by text.length
decreasing_by
  have := (List.dropWhile_suffix (l := text) isIndent).length_le
  rw [_h, List.length_cons] at this
  omega

theorem length_skipEmptyLines_le (text : Text) : (skipEmptyLines text).length ≤ text.length := by
  fun_induction skipEmptyLines text with
  | case1 text rest h ih =>
    have := (List.dropWhile_suffix (l := text) isIndent).length_le
    rw [h, List.length_cons] at this
    omega
  | case2 => exact Nat.le_refl _

/-- The import statement on the first line that is not empty, indented or not. -/
def readNextImport? (text : Text) : Option (ImportStatement × Text) :=
  readImport? ((skipEmptyLines text).dropWhile isIndent)

theorem length_of_readNextImport? {text rest : Text} {statement : ImportStatement}
    (h : readNextImport? text = some (statement, rest)) : rest.length < text.length := by
  have := length_of_readImport? h
  have := (List.dropWhile_suffix (l := skipEmptyLines text) isIndent).length_le
  have := length_skipEmptyLines_le text
  omega

/-- The import statements that open a text, and what follows the last of them. -/
def liftImports (text : Text) : List ImportStatement × Text :=
  match _h : readNextImport? text with
  | none => ([], text)
  | some (statement, rest) =>
    let (statements, content) := liftImports rest
    (statement :: statements, content)
termination_by text.length
decreasing_by exact length_of_readNextImport? _h

/-! ## The statements anywhere in code -/

/-- The import statements of a piece of code that starts at the start of a line, and the code without
their lines. -/
def extractImports (code : Text) : List ImportStatement × Text :=
  match _h : readImport? (code.dropWhile isIndent) with
  | some (statement, rest) =>
    let (statements, kept) := extractImports rest
    (statement :: statements, kept)
  | none =>
    match _h' : code.dropWhile (· != '\n') with
    | [] => ([], code)
    | newline :: rest =>
      let (statements, kept) := extractImports rest
      (statements, code.takeWhile (· != '\n') ++ newline :: kept)
termination_by code.length
decreasing_by
  · have := length_of_readImport? _h
    have := (List.dropWhile_suffix (l := code) isIndent).length_le
    omega
  · have := (List.dropWhile_suffix (l := code) (· != '\n')).length_le
    rw [_h', List.length_cons] at this
    omega

end GlassPrompt
