import GlassPrompt.Proofs.Document.RegionBlocks
import GlassPrompt.Proofs.Markup.Continuation
import GlassPrompt.Proofs.Text.Lines

/-!
# What a document opens with

The content of a document stands behind its frontmatter and its leading import statements.  Frontmatter
is plain text, and import statements are whole lines.  So a scan of the whole document goes through the
content as a scan of the content does, if the import statements leave nothing open.

* `isPlain_frontmatter` — the frontmatter is plain.
* `BehindLines`, `behindLines_liftImports` — import statements are whole lines.
* `scan_of_parse` — the scan of a document that is read.
-/

namespace GlassPrompt

/-! ## Plain text -/

section

variable {text first second : Text}

lemma IsPlain.append (isFirst : IsPlain first) (isSecond : IsPlain second) :
    IsPlain (first ++ second) :=
  List.forall_mem_append.2 ⟨isFirst, isSecond⟩

lemma isPlain_of_all {p : Char → Bool}
    (excluded : p '\\' = false ∧ p '\x7b' = false ∧ p '<' = false) (all : text.all p = true) :
    IsPlain text := by
  intro c member
  have holds := List.all_eq_true.1 all c member
  simp only [startsMarkup, Bool.or_eq_false_iff, beq_eq_false_iff_ne]
  refine ⟨⟨?_, ?_⟩, ?_⟩
  · rintro rfl
    exact Bool.noConfusion (excluded.1.symm.trans holds)
  · rintro rfl
    exact Bool.noConfusion (excluded.2.1.symm.trans holds)
  · rintro rfl
    exact Bool.noConfusion (excluded.2.2.symm.trans holds)

lemma isPlain_of_blank (blank : Text.isBlankText text = true) : IsPlain text :=
  isPlain_of_all (by decide) blank

lemma isPlain_of_trim (plain : IsPlain (Text.trim text)) : IsPlain text := by
  obtain ⟨lead, trail, blankLead, blankTrail, eq⟩ := Text.exists_trim text
  rw [eq]
  exact ((isPlain_of_blank blankLead).append plain).append (isPlain_of_blank blankTrail)

lemma isPlain_of_skipIndent (plain : IsPlain (skipIndent text)) : IsPlain text := by
  rw [← List.takeWhile_append_dropWhile (p := isIndent) (l := text)]
  exact (isPlain_of_all (by decide) List.all_takeWhile).append plain

end

/-! ## Frontmatter -/

lemma isPlain_of_readDeclaredName? {text name rest : Text}
    (h : readDeclaredName? text = some (name, rest)) (plain : IsPlain rest) : IsPlain text := by
  cases text with
  | nil => exact nomatch h
  | cons c cs =>
    rw [readDeclaredName?] at h
    split at h
    · next start =>
      obtain ⟨-, rfl⟩ := Prod.mk.inj (Option.some.inj h)
      have first : IsPlain [c] :=
        isPlain_of_all (p := fun c => c.isAlpha || c == '_') (by decide) (by simp [start])
      rw [← List.takeWhile_append_dropWhile (p := isDeclaredRest) (l := cs)]
      exact first.append ((isPlain_of_all (by decide) List.all_takeWhile).append plain)
    · simp at h

lemma isPlain_of_readType? {text type : Text} (h : readType? text = some type) : IsPlain text := by
  unfold readType? at h
  split at h
  · exact nomatch h
  · next base rest name =>
    refine isPlain_of_readDeclaredName? name (isPlain_of_skipIndent ?_)
    split at h
    · next none => exact none ▸ nofun
    · next mark => exact mark ▸ by decide
    · exact nomatch h

lemma isPlain_of_readDeclaration? {line : Text} {declaration : Declaration}
    (h : readDeclaration? line = some declaration) : IsPlain line := by
  unfold readDeclaration? at h
  split at h
  · exact nomatch h
  · next name rest declared =>
    refine isPlain_of_readDeclaredName? declared (isPlain_of_skipIndent ?_)
    split at h
    · next type colon =>
      obtain ⟨_, read, -⟩ := Option.map_eq_some_iff.1 h
      have mark : IsPlain [':'] := by decide
      rw [colon]
      exact mark.append (isPlain_of_skipIndent (isPlain_of_readType? read))
    · exact nomatch h

/-- The lines of a block that can be read are declarations or blank. -/
lemma isPlain_of_readDeclarationsFrom {names : List Text} {number : Int} {lines : List Text}
    {declarations : List Declaration}
    (h : readDeclarationsFrom names number lines = .ok declarations) :
    ∀ line ∈ lines, IsPlain line := by
  induction lines generalizing names number declarations with
  | nil => exact nofun
  | cons line rest ih =>
    rw [readDeclarationsFrom] at h
    split at h
    · next blank => exact List.forall_mem_cons.2 ⟨isPlain_of_blank blank, ih h⟩
    · split at h
      · exact nomatch h
      · next declaration checked =>
        refine List.forall_mem_cons.2 ⟨isPlain_of_trim ?_, ?_⟩
        · unfold checkDeclaration at checked
          split at checked
          · exact nomatch checked
          · next read => exact isPlain_of_readDeclaration? read
        · cases later : readDeclarationsFrom (declaration.name :: names) (number + 1) rest with
          | error e =>
            rw [later] at h
            exact nomatch h
          | ok others => exact ih later

lemma isPlain_of_isDelimiter {line : Text} (delimiter : isDelimiter line = true) :
    IsPlain line := by
  obtain ⟨trail, blank, eq⟩ := Text.exists_trimEnd line
  have mark : IsPlain ['-', '-', '-'] := by decide
  rw [eq, beq_iff_eq.1 delimiter]
  exact mark.append (isPlain_of_blank blank)

/-! ### The lines of the block -/

lemma spanOfLines_cons (line : Text) (rest : List Text) :
    spanOfLines (line :: rest) = line.length + 1 + spanOfLines rest := by
  have start (count : Nat) (lines : List Text) :
      lines.foldl (fun count line => count + line.length + 1) count = count + spanOfLines lines := by
    induction lines generalizing count with
    | nil => rfl
    | cons line rest ih =>
      rw [spanOfLines, List.foldl_cons, List.foldl_cons, ih, ih]
      omega
  rw [spanOfLines, List.foldl_cons, start, Nat.zero_add]

/-- A text is plain as far as its lines are. -/
lemma isPlain_take_spanOfLines {lines : List Text} {count : Nat}
    (plain : ∀ line ∈ lines.take count, IsPlain line) :
    IsPlain ((Text.unlines lines).take (spanOfLines (lines.take count))) := by
  induction lines generalizing count with
  | nil => rw [List.take_nil]; exact nofun
  | cons line rest ih =>
    cases count with
    | zero => exact nofun
    | succ count =>
      rw [List.take_succ_cons] at plain ⊢
      obtain ⟨first, later⟩ := List.forall_mem_cons.1 plain
      rw [spanOfLines_cons]
      cases rest with
      | nil =>
        rw [Text.unlines_singleton]
        exact fun c member => first c (List.mem_of_mem_take member)
      | cons second others =>
        have newline : IsPlain ['\n'] := by decide
        rw [Text.unlines_cons_cons, List.take_append, Nat.add_assoc, Nat.add_sub_cancel_left,
          Nat.add_comm 1, List.take_succ_cons, List.take_of_length_le (by omega)]
        exact first.append (newline.append (ih later))

lemma takeWhile_eq_of_lines {text first : Text} {rest : List Text}
    (h : Text.lines text = first :: rest) : text.takeWhile (· != '\n') = first := by
  induction text generalizing first rest with
  | nil => exact (List.cons.inj h).1
  | cons c cs ih =>
    by_cases newline : c = '\n'
    · subst newline
      rw [Text.lines_newline] at h
      exact (List.cons.inj h).1
    · obtain ⟨line, others, split⟩ := Text.exists_lines cs
      rw [Text.lines_cons newline, split] at h
      rw [List.takeWhile_cons, if_pos (bne_iff_ne.2 newline), ih split]
      exact (List.cons.inj h).1

/-- **Frontmatter is plain text.** -/
theorem isPlain_frontmatter {source : Text} {frontmatter : Frontmatter}
    (h : splitFrontmatter source = .ok frontmatter) :
    IsPlain (source.take frontmatter.bodyOffset) := by
  unfold splitFrontmatter at h
  split at h
  · obtain rfl := Except.ok.inj h
    exact nofun
  · next opens =>
    split at h
    · obtain rfl := Except.ok.inj h
      exact nofun
    · next first lines split =>
      split at h
      · exact nomatch h
      · next count closes =>
        cases declared : readDeclarations 2 (lines.take count) with
        | error e =>
          rw [declared] at h
          exact nomatch h
        | ok declarations =>
          rw [declared] at h
          obtain rfl := Except.ok.inj h
          have opening : isDelimiter first = true := by
            rw [← takeWhile_eq_of_lines split]
            simpa [hasFrontmatter] using opens
          obtain ⟨within, closing, -⟩ := List.findIdx?_eq_some_iff_getElem.1 closes
          -- The block is the opening delimiter, the declarations and the closing delimiter.
          have plain : ∀ line ∈ (first :: lines).take (count + 2), IsPlain line := by
            rw [List.take_succ_cons, List.take_succ_eq_append_getElem within]
            refine List.forall_mem_cons.2 ⟨isPlain_of_isDelimiter opening, ?_⟩
            exact List.forall_mem_append.2 ⟨isPlain_of_readDeclarationsFrom declared,
              List.forall_mem_singleton.2 (isPlain_of_isDelimiter closing)⟩
          have block := isPlain_take_spanOfLines plain
          rw [← split, Text.unlines_lines, split, List.take_succ_cons] at block
          exact fun c member => block c ((List.take_prefix_take_left
            (Nat.min_le_left _ _)).subset member)

/-! ## Import statements -/

/-- The second text stands in the first one behind whole lines, unless it is empty. -/
def BehindLines (text rest : Text) : Prop :=
  ∃ lead, text = lead ++ rest ∧ (rest ≠ [] → lead ≠ [] → EndsLine lead)

lemma BehindLines.refl (text : Text) : BehindLines text text :=
  ⟨[], rfl, fun _ nonempty => absurd rfl nonempty⟩

lemma EndsLine.append {part : Text} (ends : EndsLine part) (lead : Text) :
    EndsLine (lead ++ part) := by
  rwa [EndsLine, List.getLast?_append_of_ne_nil _ ends.ne_nil]

lemma BehindLines.of_append {text rest : Text} (behind : BehindLines text rest) (lead : Text)
    (ends : text ≠ [] → lead ≠ [] → EndsLine lead) : BehindLines (lead ++ text) rest := by
  obtain ⟨part, rfl, partEnds⟩ := behind
  refine ⟨lead ++ part, (List.append_assoc _ _ _).symm, fun nonempty leadPart => ?_⟩
  by_cases none : part = []
  · subst none
    rw [List.append_nil] at leadPart ⊢
    exact ends nonempty leadPart
  · exact (partEnds nonempty none).append lead

/-- A statement goes to the end of its line. -/
lemma endsLine_of_readStatementEnd? {text rest : Text} (h : readStatementEnd? text = some rest) :
    ∃ lead, text = lead ++ rest ∧ (rest ≠ [] → EndsLine lead) := by
  have newline (lead : Text) : EndsLine (lead ++ ['\n']) := List.getLast?_concat
  have indent := List.takeWhile_append_dropWhile (p := isIndent) (l := text)
  generalize text.takeWhile isIndent = blanks at indent
  unfold readStatementEnd? at h
  dsimp only at h
  split at h
  · obtain rfl := Option.some.inj h
    exact ⟨text, (List.append_nil _).symm, fun nonempty => absurd rfl nonempty⟩
  · next after behind =>
    obtain rfl := Option.some.inj h
    split at behind
    · next later semicolon =>
      have gap := List.takeWhile_append_dropWhile (p := isIndent) (l := later)
      generalize later.takeWhile isIndent = moreBlanks at gap
      refine ⟨blanks ++ ';' :: moreBlanks ++ ['\n'], ?_, fun _ => newline _⟩
      rw [behind] at gap
      rw [semicolon, ← gap] at indent
      rw [← indent]
      simp
    · refine ⟨blanks ++ ['\n'], ?_, fun _ => newline _⟩
      rw [behind] at indent
      rw [← indent]
      simp
  · exact nomatch h

lemma suffix_of_readSpecifier? {quote : Char} {text specifier rest : Text}
    (h : readSpecifier? quote text = some (specifier, rest)) : rest <:+ text := by
  have drop := List.dropWhile_suffix (l := text) (!isSpecifierQuote ·)
  unfold readSpecifier? at h
  dsimp only at h
  split at h
  · exact nomatch h
  · next c after eq =>
    split at h
    · obtain ⟨-, rfl⟩ := Prod.mk.inj (Option.some.inj h)
      rw [eq] at drop
      exact (List.suffix_cons c after).trans drop
    · exact nomatch h

lemma readStatementEnd?_of_readImportTail? {text rest : Text} {statement : ImportStatement}
    (h : readImportTail? text = some (statement, rest)) :
    ∃ after, after <:+ text ∧ readStatementEnd? after = some rest := by
  have drop := List.dropWhile_suffix (l := text) (!isSpecifierQuote ·)
  unfold readImportTail? at h
  split at h
  · exact nomatch h
  · next quote behind eq =>
    split at h
    · next read =>
      obtain ⟨_, found, pair⟩ := Option.map_eq_some_iff.1 h
      obtain ⟨-, rfl⟩ := Prod.mk.inj pair
      rw [eq] at drop
      exact ⟨_, (suffix_of_readSpecifier? read).trans ((List.suffix_cons quote behind).trans drop),
        found⟩
    · exact nomatch h

lemma suffix_skipEmptyLines (text : Text) : skipEmptyLines text <:+ text := by
  fun_induction skipEmptyLines text with
  | case1 text rest eq ih =>
    have drop := List.dropWhile_suffix (l := text) isIndent
    rw [eq] at drop
    exact ih.trans ((List.suffix_cons '\n' rest).trans drop)
  | case2 => exact List.suffix_rfl

lemma endsLine_of_readNextImport? {text rest : Text} {statement : ImportStatement}
    (h : readNextImport? text = some (statement, rest)) :
    ∃ lead, text = lead ++ rest ∧ (rest ≠ [] → EndsLine lead) := by
  unfold readNextImport? readImport? at h
  split at h
  · exact nomatch h
  · next tail word =>
    obtain ⟨after, within, ended⟩ := readStatementEnd?_of_readImportTail? h
    have statementText : tail <:+ (skipEmptyLines text).dropWhile isIndent :=
      ⟨_, Text.isPrefixOf?_eq_some_iff.1 word⟩
    obtain ⟨before, rfl⟩ := within.trans (statementText.trans
      ((List.dropWhile_suffix isIndent).trans (suffix_skipEmptyLines text)))
    obtain ⟨lead, rfl, ends⟩ := endsLine_of_readStatementEnd? ended
    exact ⟨before ++ lead, (List.append_assoc _ _ _).symm,
      fun nonempty => (ends nonempty).append before⟩

/-- **Leading import statements are whole lines.** -/
theorem behindLines_liftImports (text : Text) : BehindLines text (liftImports text).2 := by
  fun_induction liftImports text with
  | case1 text => exact .refl text
  | case2 text statement rest found statements content lifted ih =>
    rw [lifted] at ih
    obtain ⟨lead, rfl, ends⟩ := endsLine_of_readNextImport? found
    exact ih.of_append lead fun nonempty _ => ends nonempty

/-! ## The scan of a document -/

/-- The import statements that a document opens with, as they are written. -/
def Document.importText (document : Document) : Text :=
  document.source.slice document.bodyOffset document.contentStart

/-- A document that is read is its frontmatter, its import statements and its content. -/
lemma opening_of_parse {source : Text} {document : Document}
    (parsed : Document.parse source = .ok document) :
    IsPlain (source.take document.bodyOffset) ∧ document.bodyOffset ≤ source.length ∧
      source.drop document.bodyOffset =
        document.importText ++ source.drop document.contentStart ∧
      document.contentStart = document.bodyOffset + document.importText.length ∧
      (source.drop document.contentStart ≠ [] → document.importText ≠ [] →
        EndsLine document.importText) := by
  obtain ⟨frontmatter, split, eq⟩ := eq_of_parse parsed
  have whole : document.source = source := by rw [eq]
  have offset : frontmatter.bodyOffset = document.bodyOffset := by rw [eq]
  have start : document.contentStart =
      frontmatter.bodyOffset + ((source.drop frontmatter.bodyOffset).length -
        (liftImports (source.drop frontmatter.bodyOffset)).2.length) := by rw [eq]
  have plain := isPlain_frontmatter split
  have inside := bodyOffset_le split
  obtain ⟨lead, body, ends⟩ := behindLines_liftImports (source.drop frontmatter.bodyOffset)
  generalize (liftImports (source.drop frontmatter.bodyOffset)).2 = content at start body ends
  rw [body, List.length_append, Nat.add_sub_cancel] at start
  rw [offset] at start plain inside body
  have lines : document.importText = lead := by
    rw [Document.importText, whole, start]
    exact Text.slice_of_drop body
  have rest : source.drop document.contentStart = content := by
    rw [start, ← List.drop_drop, body, List.drop_left]
  rw [lines, rest]
  exact ⟨plain, inside, body, start, ends⟩

/-- **A scan of the whole document goes through its content** as a scan of the content does: nothing is
found in the frontmatter, and what is found in import statements that leave nothing open is found before
the rest. -/
theorem scan_of_parse {source : Text} {document : Document}
    (parsed : Document.parse source = .ok document) :
    scan source 0 = scan source document.bodyOffset ∧
      ((∀ token ∈ scan document.importText 0, token.Closed) →
        scan source document.bodyOffset =
          (scan document.importText 0).map (Token.shift document.bodyOffset) ++
            scan source document.contentStart) := by
  obtain ⟨plain, inside, body, start, ends⟩ := opening_of_parse parsed
  constructor
  · have passed := scanFrom_plain 0 plain (source.drop document.bodyOffset)
    rwa [List.take_append_drop, List.length_take_of_le inside, Nat.zero_add] at passed
  · intro closed
    have imports := scanFrom_shift document.bodyOffset 0 document.importText
    rw [Nat.add_zero] at imports
    have importsClosed : ∀ token ∈ scanFrom document.bodyOffset document.importText,
        token.Closed := by
      rw [imports]
      intro token member
      obtain ⟨before, known, rfl⟩ := List.mem_map.1 member
      exact (closed_shift _ before).2 (closed before known)
    show scanFrom document.bodyOffset (source.drop document.bodyOffset) =
      (scanFrom 0 document.importText).map (Token.shift document.bodyOffset) ++
        scanFrom document.contentStart (source.drop document.contentStart)
    generalize source.drop document.contentStart = content at body ends ⊢
    rw [← imports, body, start]
    -- An import statement at the end of the document needs no newline; then there is no content.
    by_cases empty : content = []
    · simp [empty, scanFrom]
    · exact scanFrom_append (ends empty) importsClosed content

end GlassPrompt
