import GlassPrompt.Proofs.Document.IssueNames
import GlassPrompt.Proofs.Import.BoundNames
import GlassPrompt.Proofs.Markup.RegionGrammar
import GlassPrompt.Proofs.Script.Scope
import GlassPrompt.Proofs.Text.LineStarts

/-!
# Where hoisted code declares its names

The names of hoisted code are those that a line declares at its start.  A line may be indented, and what
stands around it does not matter: the body of a function has lines of its own, and so have literals and
comments.  So a name that is not in the scope of the code may be taken for one that is.

* `IsDeclarator`, `OpensDeclaration`, `IsDeclarationLead` — the grammar of declarations on a line.
* `readDeclaredAt?_eq_some_iff` — a line is read by that grammar.
* `SearchedFrom`, `DeclaresBehind` — the lines that are read, and the declarations that are found.
* `TopLevel`, `topLevel_iff_isScript` — places outside braces, literals and comments.
* `declaredNames_places` — which names are found, and when all of them are declared at the top level;
  `not_declaredNames_topLevel` is code where one is not.
-/

namespace GlassPrompt

open Text

/-! ## The grammar of declarations -/

/-- The words in front of a name that is declared. -/
inductive IsDeclarator : Text → Prop
  | word {word : Text} (member : word ∈ declaringWords) : IsDeclarator word
  | asyncFunction {gap : Text} (isGap : IsGap gap) :
    IsDeclarator ("async".toList ++ gap ++ "function".toList)

/-- The text opens with a declaration of the name, and goes on with `after`. -/
structure OpensDeclaration (name after text : Text) : Prop where
  isName : isIdentifier name = true
  ends : ∀ c ∈ after.head?, isNameRest c = false
  written : ∃ declarator gap, IsDeclarator declarator ∧ IsGap gap ∧
    text = declarator ++ gap ++ (name ++ after)

/-- What may stand before a declaration on its line: spaces and tabs, and then the word `export`. -/
inductive IsDeclarationLead : Text → Prop
  | plain {indent : Text} (isIndented : indent.all isIndent = true) : IsDeclarationLead indent
  | exported {indent gap : Text} (isIndented : indent.all isIndent = true) (isGap : IsGap gap) :
    IsDeclarationLead (indent ++ ("export".toList ++ gap))

/-! ## Reading a declaration -/

/-- The words that a declaration may start with. -/
def lineWords : List Text :=
  "export".toList :: "async".toList :: declaringWords

/-- No two of them start in the same way. -/
lemma lineWord_unique {first second text : Text} (isFirst : first ∈ lineWords)
    (isSecond : second ∈ lineWords) (startsFirst : first <+: text) (startsSecond : second <+: text) :
    first = second := by
  have apart : ∀ first ∈ lineWords, ∀ second ∈ lineWords, first <+: second → first = second := by
    decide
  rcases List.prefix_or_prefix_of_prefix startsFirst startsSecond with within | within
  · exact apart first isFirst second isSecond within
  · exact (apart second isSecond first isFirst within).symm

lemma skipWord?_eq_some_iff {word text rest : Text} : skipWord? word text = some rest ↔
    (∀ c ∈ rest.head?, isBlank c = false) ∧ ∃ gap, IsGap gap ∧ text = word ++ gap ++ rest := by
  unfold skipWord?
  constructor
  · intro read
    split at read
    · exact nomatch read
    · next behind starts =>
      split at read
      · next blank =>
        obtain rfl := Option.some.inj read
        refine ⟨stops_dropWhile behind, behind.takeWhile isBlank, ⟨fun none => ?_, List.all_takeWhile⟩, ?_⟩
        · cases behind with
          | nil => exact nomatch blank
          | cons c more =>
            have first : isBlank c = true := blank
            rw [List.takeWhile_cons_of_pos first] at none
            exact nomatch none
        · rw [← isPrefixOf?_eq_some_iff.1 starts, List.append_assoc, trimStart,
            List.takeWhile_append_dropWhile]
      · exact nomatch read
  · rintro ⟨noBlank, gap, isGap, rfl⟩
    have blank : (gap ++ rest).head?.any isBlank = true := by
      obtain ⟨c, more, rfl⟩ := List.exists_cons_of_ne_nil isGap.nonempty
      exact isBlankText_iff.1 isGap.blank c List.mem_cons_self
    rw [isPrefixOf?_eq_some_iff.2 (List.append_assoc word gap rest).symm]
    dsimp only
    rw [if_pos blank, trimStart, dropWhile_of_stop isGap.blank noBlank]

lemma prefix_of_skipWord? {word text rest : Text} (read : skipWord? word text = some rest) :
    word <+: text := by
  obtain ⟨-, gap, -, rfl⟩ := skipWord?_eq_some_iff.1 read
  exact ⟨gap ++ rest, (List.append_assoc _ _ _).symm⟩

/-- Only one of the words can be read. -/
lemma findSome?_skipWord? {word text rest : Text} (member : word ∈ declaringWords)
    (read : skipWord? word text = some rest) :
    declaringWords.findSome? (skipWord? · text) = some rest := by
  cases found : declaringWords.findSome? (skipWord? · text) with
  | none => exact nomatch (List.findSome?_eq_none_iff.1 found word member).symm.trans read
  | some other =>
    obtain ⟨known, isKnown, again⟩ := List.exists_of_findSome?_eq_some found
    have member_lineWords {word : Text} (member : word ∈ declaringWords) : word ∈ lineWords :=
      List.mem_cons_of_mem _ (List.mem_cons_of_mem _ member)
    obtain rfl := lineWord_unique (member_lineWords isKnown) (member_lineWords member)
      (prefix_of_skipWord? again) (prefix_of_skipWord? read)
    exact again.symm.trans read

/-- **What stands behind a declarator and a gap.** -/
lemma skipDeclaringWord?_eq_some_iff {text rest : Text} : skipDeclaringWord? text = some rest ↔
    (∀ c ∈ rest.head?, isBlank c = false) ∧
      ∃ declarator gap, IsDeclarator declarator ∧ IsGap gap ∧ text = declarator ++ gap ++ rest := by
  unfold skipDeclaringWord?
  rw [Option.or_eq_some_iff]
  constructor
  · rintro (read | ⟨-, read⟩)
    · obtain ⟨word, member, read⟩ := List.exists_of_findSome?_eq_some read
      obtain ⟨noBlank, gap, isGap, rfl⟩ := skipWord?_eq_some_iff.1 read
      exact ⟨noBlank, word, gap, .word member, isGap, rfl⟩
    · obtain ⟨behind, read, again⟩ := Option.bind_eq_some_iff.1 read
      obtain ⟨-, first, isFirst, rfl⟩ := skipWord?_eq_some_iff.1 read
      obtain ⟨noBlank, gap, isGap, rfl⟩ := skipWord?_eq_some_iff.1 again
      exact ⟨noBlank, _, gap, .asyncFunction isFirst, isGap, by simp⟩
  · rintro ⟨noBlank, declarator, gap, isDeclarator, isGap, rfl⟩
    cases isDeclarator with
    | word member =>
      exact .inl (findSome?_skipWord? member (skipWord?_eq_some_iff.2 ⟨noBlank, gap, isGap, rfl⟩))
    | @asyncFunction between isBetween =>
      have function : skipWord? "function".toList ("function".toList ++ gap ++ rest) = some rest :=
        skipWord?_eq_some_iff.2 ⟨noBlank, gap, isGap, rfl⟩
      have async : skipWord? "async".toList ("async".toList ++ between ++ "function".toList ++ gap ++ rest) =
          some ("function".toList ++ gap ++ rest) :=
        skipWord?_eq_some_iff.2 ⟨by rintro _ ⟨⟩; rfl, between, isBetween, by simp⟩
      refine .inr ⟨List.findSome?_eq_none_iff.2 fun word member => ?_, ?_⟩
      · refine Option.eq_none_iff_forall_ne_some.2 fun other read => ?_
        obtain rfl := lineWord_unique (List.mem_cons_of_mem _ (List.mem_cons_of_mem _ member))
          (List.mem_cons_of_mem _ List.mem_cons_self) (prefix_of_skipWord? read) (prefix_of_skipWord? async)
        exact absurd member (by decide)
      · rw [async]
        exact function

lemma readIdentifier?_eq_some_iff {text name rest : Text} : readIdentifier? text = some (name, rest) ↔
    isIdentifier name = true ∧ (∀ c ∈ rest.head?, isNameRest c = false) ∧ text = name ++ rest := by
  constructor
  · intro read
    have whole := append_of_readIdentifier? read
    cases text with
    | nil => exact absurd read.symm (Option.some_ne_none _)
    | cons c more =>
      rw [readIdentifier?] at read
      split at read
      · next start =>
        obtain ⟨rfl, rfl⟩ := Prod.mk.inj (Option.some.inj read)
        exact ⟨Bool.and_eq_true_iff.2 ⟨start, List.all_takeWhile⟩, stops_dropWhile more, whole.symm⟩
      · exact absurd read.symm (Option.some_ne_none _)
  · rintro ⟨isName, ends, rfl⟩
    cases name with
    | nil => exact absurd isName Bool.false_ne_true
    | cons c more =>
      obtain ⟨start, all⟩ := Bool.and_eq_true_iff.1 isName
      rw [List.cons_append, readIdentifier?, if_pos start, takeWhile_of_stop all ends,
        dropWhile_of_stop all ends]

/-- An identifier starts with a character that is not blank. -/
lemma noBlank_identifier {name : Text} (isName : isIdentifier name = true) (after : Text) :
    ∀ c ∈ (name ++ after).head?, isBlank c = false := by
  cases name with
  | nil => exact nomatch isName
  | cons c more =>
    rintro _ ⟨⟩
    exact noBlank_of_isIdentifier isName c List.mem_cons_self

/-- A declaration, read from its declarator on. -/
lemma opensDeclaration_iff {name after text : Text} : OpensDeclaration name after text ↔
    (skipDeclaringWord? text).bind readIdentifier? = some (name, after) := by
  rw [Option.bind_eq_some_iff]
  constructor
  · rintro ⟨isName, ends, declarator, gap, isDeclarator, isGap, rfl⟩
    exact ⟨name ++ after, skipDeclaringWord?_eq_some_iff.2 ⟨noBlank_identifier isName after, declarator,
      gap, isDeclarator, isGap, rfl⟩, readIdentifier?_eq_some_iff.2 ⟨isName, ends, rfl⟩⟩
  · rintro ⟨rest, skips, reads⟩
    obtain ⟨isName, ends, rfl⟩ := readIdentifier?_eq_some_iff.1 reads
    obtain ⟨-, declarator, gap, isDeclarator, isGap, rfl⟩ := skipDeclaringWord?_eq_some_iff.1 skips
    exact ⟨isName, ends, declarator, gap, isDeclarator, isGap, rfl⟩

/-- A declaration starts with one of the words. -/
lemma OpensDeclaration.word {name after text : Text} (opens : OpensDeclaration name after text) :
    ∃ word ∈ lineWords.tail, word <+: text := by
  obtain ⟨-, -, declarator, gap, isDeclarator, -, rfl⟩ := opens
  cases isDeclarator with
  | word member => exact ⟨_, List.mem_cons_of_mem _ member, by simp⟩
  | asyncFunction _ => exact ⟨_, List.mem_cons_self, by simp⟩

/-- **A line is read as a declaration exactly if it is one**: behind its indentation, and behind the
word `export` if it stands there. -/
theorem readDeclaredAt?_eq_some_iff {line name rest : Text} :
    readDeclaredAt? line = some (name, rest) ↔
      ∃ lead text, line = lead ++ text ∧ IsDeclarationLead lead ∧ OpensDeclaration name rest text := by
  unfold readDeclaredAt?
  dsimp only
  constructor
  · intro read
    have whole := List.takeWhile_append_dropWhile (p := isIndent) (l := line)
    have isIndented : (line.takeWhile isIndent).all isIndent = true := List.all_takeWhile
    cases exported : skipWord? "export".toList (line.dropWhile isIndent) with
    | none =>
      rw [exported] at read
      exact ⟨_, _, whole.symm, .plain isIndented, opensDeclaration_iff.2 read⟩
    | some text =>
      rw [exported] at read
      obtain ⟨-, gap, isGap, eq⟩ := skipWord?_eq_some_iff.1 exported
      refine ⟨_, text, ?_, .exported isIndented isGap, opensDeclaration_iff.2 read⟩
      rw [List.append_assoc, ← eq, whole]
  · rintro ⟨lead, text, rfl, isLead, opens⟩
    obtain ⟨word, member, starts⟩ := opens.word
    have letters : ∀ word ∈ lineWords,
        word.head?.all (fun c => !isIndent c && !isBlank c) = true := by decide
    have first : ∀ c ∈ text.head?, isIndent c = false ∧ isBlank c = false := by
      obtain ⟨behind, rfl⟩ := starts
      have nonempty : word ≠ [] := by
        rintro rfl
        exact absurd member (by decide)
      rw [List.head?_append_of_ne_nil _ nonempty]
      intro c head
      have letter := letters word (List.mem_of_mem_tail member)
      rw [Option.mem_def.1 head] at letter
      simpa using letter
    have read := opensDeclaration_iff.1 opens
    cases isLead with
    | plain isIndented =>
      have notExported : skipWord? "export".toList text = none :=
        Option.eq_none_iff_forall_ne_some.2 fun other read => by
          obtain rfl := lineWord_unique List.mem_cons_self (List.mem_of_mem_tail member)
            (prefix_of_skipWord? read) starts
          exact absurd member (by decide)
      rw [dropWhile_of_stop isIndented fun c head => (first c head).1, notExported]
      exact read
    | @exported indent gap isIndented isGap =>
      have exported : skipWord? "export".toList ("export".toList ++ gap ++ text) = some text :=
        skipWord?_eq_some_iff.2 ⟨fun c head => (first c head).2, gap, isGap, rfl⟩
      rw [List.append_assoc, dropWhile_of_stop isIndented (by rintro _ ⟨⟩; rfl), exported]
      exact read

/-! ## The lines that are read -/

lemma nextLine?_cases (text : Text) : ('\n' ∉ text ∧ nextLine? text = none) ∨
    ∃ line rest, text = line ++ '\n' :: rest ∧ '\n' ∉ line ∧ nextLine? text = some rest := by
  unfold nextLine?
  rcases dropWhile_ne_cases '\n' text with ⟨oneLine, nothing⟩ | ⟨line, rest, eq, oneLine, -, behind⟩
  · rw [nothing]
    exact .inl ⟨oneLine, rfl⟩
  · rw [behind]
    exact .inr ⟨line, rest, eq, oneLine, rfl⟩

lemma exists_of_nextLine? {text rest : Text} (next : nextLine? text = some rest) :
    ∃ line, text = line ++ '\n' :: rest := by
  rcases nextLine?_cases text with ⟨-, none⟩ | ⟨line, rest', eq, -, some⟩
  · exact nomatch next.symm.trans none
  · obtain rfl := Option.some.inj (next.symm.trans some)
    exact ⟨line, eq⟩

/-- The code from the start of a line on that is read: the lines follow each other, and behind a
declaration comes the line after its name. -/
inductive SearchedFrom : Text → Text → Prop
  | here {code : Text} : SearchedFrom code code
  | behindDeclaration {code name rest lines line : Text}
    (read : readDeclaredAt? code = some (name, rest)) (next : nextLine? rest = some lines)
    (later : SearchedFrom lines line) : SearchedFrom code line
  | behindLine {code lines line : Text} (none : readDeclaredAt? code = none)
    (next : nextLine? code = some lines) (later : SearchedFrom lines line) : SearchedFrom code line

section

variable {code name line rest : Text}

lemma append_of_readDeclaredAt? (read : readDeclaredAt? code = some (name, rest)) :
    ∃ start c, code = start ++ [c] ++ rest ∧ c ≠ '\n' := by
  obtain ⟨lead, text, rfl, -, isName, -, declarator, gap, -, -, rfl⟩ := readDeclaredAt?_eq_some_iff.1 read
  rcases List.eq_nil_or_concat' name with rfl | ⟨start, c, rfl⟩
  · exact nomatch isName
  · refine ⟨lead ++ (declarator ++ gap ++ start), c, by simp, ?_⟩
    rintro rfl
    exact nomatch noBlank_of_isIdentifier isName '\n' (List.mem_append_right _ List.mem_cons_self)

/-- What is read starts a line. -/
lemma SearchedFrom.startsLine (searched : SearchedFrom code line) : StartsLine code line := by
  induction searched with
  | here => exact startsLine_self _
  | behindDeclaration read next _ ih =>
    obtain ⟨start, c, rfl, -⟩ := append_of_readDeclaredAt? read
    obtain ⟨first, rfl⟩ := exists_of_nextLine? next
    rw [← List.append_assoc]
    exact ih.behind _
  | behindLine _ next _ ih =>
    obtain ⟨first, rfl⟩ := exists_of_nextLine? next
    exact ih.behind first

/-- The names are those that are declared at the start of what is read. -/
lemma mem_declaredNames_iff_searched : name ∈ declaredNames code ↔
    ∃ line rest, SearchedFrom code line ∧ readDeclaredAt? line = some (name, rest) := by
  constructor
  · intro member
    fun_induction declaredNames code with
    | case1 code found rest read none =>
      obtain rfl := List.mem_singleton.1 member
      exact ⟨code, rest, .here, read⟩
    | case2 code found rest read lines next ih =>
      rcases List.mem_cons.1 member with rfl | later
      · exact ⟨code, rest, .here, read⟩
      · obtain ⟨line, behind, searched, again⟩ := ih later
        exact ⟨line, behind, .behindDeclaration read next searched, again⟩
    | case3 => exact nomatch member
    | case4 code none lines next ih =>
      obtain ⟨line, behind, searched, again⟩ := ih member
      exact ⟨line, behind, .behindLine none next searched, again⟩
  · rintro ⟨line, rest, searched, read⟩
    induction searched with
    | here =>
      rw [declaredNames, read]
      dsimp only
      split <;> exact List.mem_cons_self
    | behindDeclaration first next _ ih =>
      rw [declaredNames, first]
      dsimp only
      split
      · next none => exact nomatch next.symm.trans none
      · next some =>
        obtain rfl := Option.some.inj (next.symm.trans some)
        exact List.mem_cons_of_mem _ (ih read)
    | behindLine none next _ ih =>
      rw [declaredNames, none]
      dsimp only
      split
      · next nothing => exact nomatch next.symm.trans nothing
      · next some =>
        obtain rfl := Option.some.inj (next.symm.trans some)
        exact ih read

/-- Lines that start behind a declaration are those behind its last line. -/
lemma startsLine_behindDeclaration (read : readDeclaredAt? code = some (name, rest))
    (starts : StartsLine code line) (behind : line.length ≤ rest.length) :
    ∃ lines, nextLine? rest = some lines ∧ StartsLine lines line := by
  obtain ⟨start, c, rfl, notNewline⟩ := append_of_readDeclaredAt? read
  obtain ⟨before, split, ends⟩ := starts
  obtain ⟨gap, rfl⟩ : line <:+ rest :=
    List.suffix_of_suffix_length_le (split ▸ List.suffix_append before line)
      (List.suffix_append _ rest) behind
  rw [← List.append_assoc] at split
  obtain rfl := List.append_cancel_right split
  rcases List.eq_nil_or_concat' gap with rfl | ⟨more, d, rfl⟩
  · rw [List.append_nil, List.getLast?_concat, Option.some.injEq] at ends
    exact absurd ends (by simp [notNewline])
  · rw [← List.append_assoc, List.getLast?_concat, Option.some.injEq] at ends
    obtain rfl := ends.resolve_left (by simp)
    have starts : StartsLine (more ++ ['\n'] ++ line) line := ⟨more ++ ['\n'], rfl, .inr List.getLast?_concat⟩
    rcases nextLine?_cases (more ++ ['\n'] ++ line) with ⟨oneLine, -⟩ | ⟨first, lines, eq, oneLine, next⟩
    · exact absurd (List.mem_append_left _ (List.mem_append_right _ List.mem_cons_self)) oneLine
    · refine ⟨lines, next, ?_⟩
      rw [eq, startsLine_line oneLine, ← eq] at starts
      refine starts.resolve_left fun same => ?_
      have length := congrArg List.length same
      simp only [List.length_append, List.length_singleton] at length
      omega

/-- **Every line is read, unless it starts inside a declaration.** -/
lemma searched_or_inside (starts : StartsLine code line) : SearchedFrom code line ∨
    ∃ earlier name rest, SearchedFrom code earlier ∧ readDeclaredAt? earlier = some (name, rest) ∧
      rest.length < line.length ∧ line.length < earlier.length := by
  fun_induction declaredNames code with
  | case1 code found rest read none =>
    rcases starts.eq_or_lt with rfl | within
    · exact .inl .here
    · refine .inr ⟨code, found, rest, .here, read, ?_, within⟩
      by_contra behind
      obtain ⟨lines, some, -⟩ := startsLine_behindDeclaration read starts (not_lt.1 behind)
      exact nomatch some.symm.trans none
  | case2 code found rest read lines next ih =>
    rcases starts.eq_or_lt with rfl | within
    · exact .inl .here
    · by_cases inside : rest.length < line.length
      · exact .inr ⟨code, found, rest, .here, read, inside, within⟩
      · obtain ⟨lines', again, later⟩ := startsLine_behindDeclaration read starts (not_lt.1 inside)
        obtain rfl := Option.some.inj (next.symm.trans again)
        rcases ih later with searched | ⟨earlier, name, after, searched, found⟩
        · exact .inl (.behindDeclaration read next searched)
        · exact .inr ⟨earlier, name, after, .behindDeclaration read next searched, found⟩
  | case3 code none nothing =>
    rcases nextLine?_cases code with ⟨oneLine, -⟩ | ⟨first, lines, -, -, next⟩
    · exact .inl ((startsLine_lastLine oneLine).1 starts ▸ .here)
    · exact nomatch next.symm.trans nothing
  | case4 code none lines next ih =>
    rcases nextLine?_cases code with ⟨-, nothing⟩ | ⟨first, lines', eq, oneLine, again⟩
    · exact nomatch next.symm.trans nothing
    · obtain rfl := Option.some.inj (next.symm.trans again)
      rw [eq, startsLine_line oneLine, ← eq] at starts
      rcases starts with rfl | later
      · exact .inl .here
      · rcases ih later with searched | ⟨earlier, name, after, searched, found⟩
        · exact .inl (.behindLine none next searched)
        · exact .inr ⟨earlier, name, after, .behindLine none next searched, found⟩

end

/-! ## Top level -/

/-- Behind the text, code goes on outside braces, literals and comments: depth and mode are those that
find the end of a region, and the place is no part of the mark of a comment. -/
structure TopLevel (before : Text) : Prop where
  code : ScriptMode.code.behind none before = .code
  depth : ScriptMode.code.depthBehind 0 before = 0

instance : DecidablePred TopLevel :=
  fun before => decidable_of_iff
    (ScriptMode.code.behind none before = .code ∧ ScriptMode.code.depthBehind 0 before = 0)
    ⟨fun both => ⟨both.1, both.2⟩, fun top => ⟨top.code, top.depth⟩⟩

namespace ScriptMode

lemma depthAfter_add (mode : ScriptMode) (depth more : Int) (c : Char) :
    mode.depthAfter (depth + more) c = mode.depthAfter depth c + more := by
  cases mode with
  | code =>
    simp only [depthAfter]
    split_ifs <;> omega
  | quoted | escaped | commentStart | comment | commentEnd => rfl

/-- Depths are counted from where reading starts. -/
lemma depthBehind_add (mode : ScriptMode) (depth more : Int) (text : Text) :
    mode.depthBehind (depth + more) text = mode.depthBehind depth text + more := by
  induction text generalizing mode depth with
  | nil => rfl
  | cons c rest ih => rw [depthBehind, depthBehind, depthAfter_add, ih]

end ScriptMode

/-- **At the top level, what stands before is a whole script**, unless it has a closing brace too many. -/
theorem topLevel_iff_isScript {before : Text} (notEarly : braceLength? .code 1 before = none) :
    TopLevel before ↔ IsScript before := by
  have shift := ScriptMode.code.depthBehind_add 0 1 before
  rw [zero_add] at shift
  rw [← closesInBraces_iff_isScript, closesInBraces_iff, shift,
    ScriptMode.behind_ahead (by decide) (by decide)]
  constructor
  · rintro ⟨code, depth⟩
    exact ⟨notEarly, code, by rw [depth]; rfl⟩
  · rintro ⟨-, code, depth⟩
    exact ⟨code, by omega⟩

/-! ## The declarations that are found -/

/-- A declaration of the name is found, with its declarator directly behind `before`. -/
def DeclaresBehind (code name before : Text) : Prop :=
  ∃ line lead text after, SearchedFrom code line ∧ line = lead ++ text ∧ IsDeclarationLead lead ∧
    OpensDeclaration name after text ∧ code = before ++ text

lemma mem_declaredNames_iff {code name : Text} :
    name ∈ declaredNames code ↔ ∃ before, DeclaresBehind code name before := by
  rw [mem_declaredNames_iff_searched]
  constructor
  · rintro ⟨line, after, searched, read⟩
    obtain ⟨lead, text, rfl, isLead, opens⟩ := readDeclaredAt?_eq_some_iff.1 read
    obtain ⟨start, split, -⟩ := searched.startsLine
    refine ⟨start ++ lead, _, lead, text, after, searched, rfl, isLead, opens, ?_⟩
    rw [split, List.append_assoc]
  · rintro ⟨before, line, lead, text, after, searched, eq, isLead, opens, -⟩
    exact ⟨line, after, searched, readDeclaredAt?_eq_some_iff.2 ⟨lead, text, eq, isLead, opens⟩⟩

/-- A name that is declared in hoisted code is no argument. -/
lemma bound_of_declaresBehind {document : Document} {code name before : Text}
    (isHoisted : code ∈ document.hoisted) (declares : DeclaresBehind code name before) :
    ∀ reference ∈ document.references, reference.name ≠ name := by
  rintro reference member rfl
  have isBound : reference.name ∈ document.boundNames :=
    List.mem_append_right _ (List.mem_flatMap.2 ⟨code, isHoisted, mem_declaredNames_iff.2 ⟨before, declares⟩⟩)
  exact unbound_of_blocks _ _ reference member isBound

/-- **Which names are found in hoisted code, and when all of them are declared at the top level.**  A name
is found exactly if a line that is read declares it at its start, wherever that line stands; and every
line is read, unless it starts inside a declaration.  So all names are declared at the top level if each
one that is declared elsewhere is declared there as well.  No name that is found is an argument or
reported as undeclared. -/
theorem declaredNames_places (code : Text) :
    (∀ name, name ∈ declaredNames code ↔ ∃ before, DeclaresBehind code name before) ∧
    (∀ line, StartsLine code line → SearchedFrom code line ∨
      ∃ lead text name after, SearchedFrom code (lead ++ text) ∧ IsDeclarationLead lead ∧
        OpensDeclaration name after text ∧ after.length < line.length ∧
        line.length < (lead ++ text).length) ∧
    ((∀ name ∈ declaredNames code, ∃ before, DeclaresBehind code name before ∧ TopLevel before) ↔
      ∀ name before, DeclaresBehind code name before → ¬ TopLevel before →
        ∃ other, DeclaresBehind code name other ∧ TopLevel other) ∧
    (∀ document : Document, code ∈ document.hoisted → ∀ name before, DeclaresBehind code name before →
      name ∉ document.inferredArguments.map Declaration.name ∧
        ∀ issue ∈ document.undeclared, issue.problem ≠ .undeclared name) := by
  refine ⟨fun name => mem_declaredNames_iff, fun line starts => ?_, ⟨?_, ?_⟩, ?_⟩
  · rcases searched_or_inside starts with searched | ⟨earlier, name, rest, searched, read, inside⟩
    · exact .inl searched
    · obtain ⟨lead, text, rfl, isLead, opens⟩ := readDeclaredAt?_eq_some_iff.1 read
      exact .inr ⟨lead, text, name, rest, searched, isLead, opens, inside⟩
  · intro all name before declares _
    exact all name (mem_declaredNames_iff.2 ⟨before, declares⟩)
  · intro nested name member
    obtain ⟨before, declares⟩ := mem_declaredNames_iff.1 member
    by_cases top : TopLevel before
    · exact ⟨before, declares, top⟩
    · exact nested name before declares top
  · intro document isHoisted name before declares
    have free := bound_of_declaresBehind isHoisted declares
    constructor
    · rw [names_inferredArguments, List.mem_eraseDups, List.mem_map]
      rintro ⟨reference, member, same⟩
      exact free reference member same
    · intro issue member
      unfold Document.undeclared at member
      split at member
      · exact nomatch member
      · obtain ⟨reference, first, rfl⟩ := List.mem_map.1 member
        intro same
        exact free reference (firstReferences_subset _ _ first) (Problem.undeclared.inj same)

/-- A function with a declaration in its body. -/
def functionWithConstant : Text :=
  "\nfunction f() \x7b\n  const x = 1\n\x7d\n".toList

/-- Every declaration of `x` in it stands inside the braces of the function. -/
lemma declaresBehind_functionWithConstant {before : Text}
    (declares : DeclaresBehind functionWithConstant ['x'] before) :
    before = "\nfunction f() \x7b\n  ".toList := by
  obtain ⟨-, -, text, after, -, -, -, opens, split⟩ := declares
  have read := opensDeclaration_iff.1 opens
  have places : ∀ n ∈ List.range (functionWithConstant.length + 1),
      ((skipDeclaringWord? (functionWithConstant.drop n)).bind readIdentifier?).map Prod.fst = some ['x'] →
        functionWithConstant.take n = "\nfunction f() \x7b\n  ".toList := by decide +kernel
  have within : before.length ∈ List.range (functionWithConstant.length + 1) := by
    rw [List.mem_range, split, List.length_append]
    omega
  have here := places before.length within
  rw [split, List.drop_left, List.take_left, read] at here
  exact here rfl

/-- A template that refers to a name, which is declared inside a function only: it is no argument. -/
theorem declaredNames_places_function : ∃ document,
    Document.parse "<Code>\nfunction f() \x7b\n  const x = 1\n\x7d\n</Code>\x7bx\x7d".toList =
        .ok document ∧
      ['x'] ∈ declaredNames functionWithConstant ∧
      (∀ before, DeclaresBehind functionWithConstant ['x'] before → ¬ TopLevel before) ∧
      ['x'] ∉ document.inferredArguments.map Declaration.name := by
  have computed : (Document.parse
      "<Code>\nfunction f() \x7b\n  const x = 1\n\x7d\n</Code>\x7bx\x7d".toList).map
      Document.hoisted = .ok [functionWithConstant] := by decide +kernel
  obtain ⟨document, parsed, hoisted⟩ := exists_parse computed
  have member : ['x'] ∈ declaredNames functionWithConstant := by decide +kernel
  obtain ⟨before, declares⟩ := ((declaredNames_places functionWithConstant).1 ['x']).1 member
  have isHoisted : functionWithConstant ∈ document.hoisted := by
    rw [hoisted]
    exact List.mem_cons_self
  refine ⟨document, parsed, member, fun place found => ?_, ?_⟩
  · rw [declaresBehind_functionWithConstant found]
    decide +kernel
  · exact ((declaredNames_places functionWithConstant).2.2.2 document isHoisted ['x'] before declares).1

/-- A name may be found that is not declared at the top level. -/
theorem not_declaredNames_topLevel : ¬ ∀ code, ∀ name ∈ declaredNames code,
    ∃ before, DeclaresBehind code name before ∧ TopLevel before := by
  intro all
  have member : ['x'] ∈ declaredNames functionWithConstant := by decide +kernel
  obtain ⟨before, declares, top⟩ := all functionWithConstant ['x'] member
  rw [declaresBehind_functionWithConstant declares] at top
  exact absurd top (by decide +kernel)

end GlassPrompt
