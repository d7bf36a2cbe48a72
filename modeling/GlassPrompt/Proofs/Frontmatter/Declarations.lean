import GlassPrompt.Frontmatter.Declaration
import GlassPrompt.Proofs.Text.Trim

/-!
# What a frontmatter block declares

A line declares a name with a type if it is written as a name, a colon and a type, with spaces and tabs
between them and blanks around them.  A block is read if every line that is not blank declares a new
name with a known type; otherwise the first line that does not is reported, with the first reason
against it.

* `WritesType`, `Declares` — the grammar of a declaration.
* `readDeclaration?_trim_eq_some_iff` — a line is read as what it declares.
* `Wrong`, `WrongAt`, `FirstWrongAt` — what is wrong with a line, the first reason that applies.
* `wrong_iff_checkDeclaration` — one line is refused for what is wrong with it.
* `ReadUpTo`, `ReadUpTo.reading` — the state of reading before some line, and what comes of it.
* `readDeclarations_exact` — the whole block.
-/

namespace GlassPrompt

/-! ## The grammar of a declaration -/

/-- An ASCII letter or underscore, and then letters, digits and underscores. -/
def isDeclaredName : Text → Bool
  | [] => false
  | c :: rest => (c.isAlpha || c == '_') && rest.all isDeclaredRest

/-- How a type is written: a name, which a pair of brackets may follow. -/
inductive WritesType : Text → Text → Prop
  | base {name : Text} (isName : isDeclaredName name = true) : WritesType name name
  | array {name gap : Text} (isName : isDeclaredName name = true) (isGap : gap.all isIndent = true) :
    WritesType (name ++ (gap ++ arrayMark)) (name ++ arrayMark)

/-- A name, a colon and a type, with spaces and tabs between them. -/
inductive WritesDeclaration : Text → Declaration → Prop
  | intro {name before after written type : Text} (isName : isDeclaredName name = true)
    (gapBefore : before.all isIndent = true) (gapAfter : after.all isIndent = true)
    (writes : WritesType written type) :
    WritesDeclaration (name ++ (before ++ ':' :: (after ++ written))) ⟨name, type⟩

/-- A line that holds a declaration between blanks, and nothing else. -/
def Declares (line : Text) (declaration : Declaration) : Prop :=
  ∃ lead written trail, Text.isBlankText lead = true ∧ WritesDeclaration written declaration ∧
    Text.isBlankText trail = true ∧ line = lead ++ written ++ trail

/-! ## Characters of a declaration -/

lemma isDeclaredRest_of_isBlank {c : Char} (blank : isBlank c = true) : isDeclaredRest c = false := by
  have noWord := isWord_of_isBlank blank
  simp only [isWord, Bool.or_eq_false_iff] at noWord
  rw [isDeclaredRest, noWord.1.1, noWord.1.2]
  rfl

section

variable {name : Text} (isName : isDeclaredName name = true)

include isName

lemma isDeclaredRest_of_mem : ∀ c ∈ name, isDeclaredRest c = true := by
  cases name with
  | nil => exact nofun
  | cons c rest =>
    obtain ⟨start, isRest⟩ := Bool.and_eq_true_iff.1 isName
    refine List.forall_mem_cons.2 ⟨?_, List.all_eq_true.1 isRest⟩
    rcases Bool.or_eq_true_iff.1 start with letter | underscore
    · simp [isDeclaredRest, Char.isAlphanum, letter]
    · simp [isDeclaredRest, underscore]

lemma noBlank_of_mem : ∀ c ∈ name, isBlank c = false := by
  intro c member
  by_contra blank
  have rest := isDeclaredRest_of_mem isName c member
  rw [isDeclaredRest_of_isBlank (Bool.eq_true_of_not_eq_false blank)] at rest
  exact Bool.noConfusion rest

/-- What starts with a name does not start with a blank. -/
lemma noBlank_head?_name (rest : Text) : ∀ c ∈ (name ++ rest).head?, isBlank c = false := by
  cases name with
  | nil => exact nomatch isName
  | cons d more =>
    rintro c ⟨⟩
    exact noBlank_of_mem isName d List.mem_cons_self

end

section

variable {gap rest : Text} (isGap : gap.all isIndent = true)

include isGap

lemma isBlankText_gap : Text.isBlankText gap = true :=
  Text.isBlankText_iff.2 fun c member => isBlank_of_isIndent (List.all_eq_true.1 isGap c member)

/-- A name stops at a gap, and behind it. -/
lemma stopsName_gap (stops : ∀ c ∈ rest.head?, isDeclaredRest c = false) :
    ∀ c ∈ (gap ++ rest).head?, isDeclaredRest c = false := by
  cases gap with
  | nil => exact stops
  | cons d more =>
    rintro c ⟨⟩
    have blank := Text.isBlankText_iff.1 (isBlankText_gap isGap)
    exact isDeclaredRest_of_isBlank (blank d List.mem_cons_self)

lemma skipIndent_append (noBlank : ∀ c ∈ rest.head?, isBlank c = false) :
    skipIndent (gap ++ rest) = rest := by
  refine dropWhile_of_stop isGap fun c first => ?_
  by_contra indent
  have blank := isBlank_of_isIndent (Bool.eq_true_of_not_eq_false indent)
  exact Bool.noConfusion (blank.symm.trans (noBlank c first))

end

lemma exists_skipIndent (text : Text) :
    ∃ gap, gap.all isIndent = true ∧ text = gap ++ skipIndent text :=
  ⟨text.takeWhile isIndent, List.all_takeWhile, List.takeWhile_append_dropWhile.symm⟩

lemma noBlank_head?_of_writesType {written type : Text} (writes : WritesType written type) :
    ∀ c ∈ written.head?, isBlank c = false := by
  cases writes with
  | base isName =>
    rw [← List.append_nil written]
    exact noBlank_head?_name isName []
  | array isName => exact noBlank_head?_name isName _

lemma exists_getLast?_of_writesType {written type : Text} (writes : WritesType written type) :
    ∃ last, written.getLast? = some last ∧ isBlank last = false := by
  cases writes with
  | base isName =>
    cases last : written.getLast? with
    | none =>
      obtain rfl := List.getLast?_eq_none_iff.1 last
      exact nomatch isName
    | some c => exact ⟨c, rfl, noBlank_of_mem isName c (List.mem_of_getLast? last)⟩
  | array =>
    refine ⟨']', ?_, rfl⟩
    rw [List.getLast?_append, List.getLast?_append]
    rfl

/-! ## Reading a declaration -/

lemma readDeclaredName?_eq_some_iff {text name rest : Text} :
    readDeclaredName? text = some (name, rest) ↔
      isDeclaredName name = true ∧ text = name ++ rest ∧
        ∀ c ∈ rest.head?, isDeclaredRest c = false := by
  constructor
  · intro read
    cases text with
    | nil => cases read
    | cons c more =>
      rw [readDeclaredName?] at read
      split_ifs at read with start
      obtain ⟨rfl, rfl⟩ := Prod.mk.inj (Option.some.inj read)
      refine ⟨?_, ?_, stops_dropWhile more⟩
      · rw [isDeclaredName, start, List.all_takeWhile]
        rfl
      · rw [List.cons_append, List.takeWhile_append_dropWhile]
  · rintro ⟨isName, rfl, stops⟩
    cases name with
    | nil => cases isName
    | cons c others =>
      obtain ⟨start, isRest⟩ := Bool.and_eq_true_iff.1 isName
      rw [List.cons_append, readDeclaredName?, if_pos start, takeWhile_of_stop isRest stops,
        dropWhile_of_stop isRest stops]

lemma readType?_of_writes {written type : Text} (writes : WritesType written type) :
    readType? written = some type := by
  cases writes with
  | base isName =>
    have named := readDeclaredName?_eq_some_iff.2 ⟨isName, (List.append_nil _).symm, nofun⟩
    rw [readType?, named]
    rfl
  | @array name gap isName isGap =>
    have bracket : ∀ c ∈ arrayMark.head?, isDeclaredRest c = false := by
      rintro c ⟨⟩
      rfl
    have named := readDeclaredName?_eq_some_iff.2 ⟨isName, rfl, stopsName_gap isGap bracket⟩
    have atMark : skipIndent (gap ++ arrayMark) = arrayMark := by
      refine skipIndent_append isGap ?_
      rintro c ⟨⟩
      rfl
    simp only [readType?, named, atMark]
    rfl

/-- A type is read from the text that writes it; gaps behind a plain name are read over. -/
lemma writes_of_readType? {text type : Text} (read : readType? text = some type) :
    ∃ written gap, WritesType written type ∧ gap.all isIndent = true ∧ text = written ++ gap := by
  unfold readType? at read
  split at read
  · exact nomatch read
  · next base rest named =>
    obtain ⟨isName, rfl, -⟩ := readDeclaredName?_eq_some_iff.1 named
    obtain ⟨gap, isGap, whole⟩ := exists_skipIndent rest
    split at read
    · next nothing =>
      obtain rfl := Option.some.inj read
      rw [nothing, List.append_nil] at whole
      exact ⟨base, rest, .base isName, whole ▸ isGap, rfl⟩
    · next mark =>
      obtain rfl := Option.some.inj read
      rw [mark] at whole
      exact ⟨base ++ rest, [], whole ▸ .array isName isGap, rfl, (List.append_nil _).symm⟩
    · exact nomatch read

lemma readDeclaration?_of_writes {written : Text} {declaration : Declaration}
    (writes : WritesDeclaration written declaration) :
    readDeclaration? written = some declaration := by
  cases writes with
  | @intro name before after typeText type isName gapBefore gapAfter writesType =>
    have colon : ∀ c ∈ (':' :: (after ++ typeText)).head?, isDeclaredRest c = false := by
      rintro c ⟨⟩
      rfl
    have named := readDeclaredName?_eq_some_iff.2 ⟨isName, rfl, stopsName_gap gapBefore colon⟩
    have atColon : skipIndent (before ++ ':' :: (after ++ typeText)) = ':' :: (after ++ typeText) := by
      refine skipIndent_append gapBefore ?_
      rintro c ⟨⟩
      rfl
    have atType : skipIndent (after ++ typeText) = typeText :=
      skipIndent_append gapAfter (noBlank_head?_of_writesType writesType)
    simp only [readDeclaration?, named, atColon, atType, readType?_of_writes writesType,
      Option.map_some]

lemma writes_of_readDeclaration? {text : Text} {declaration : Declaration}
    (read : readDeclaration? text = some declaration) :
    ∃ written gap, WritesDeclaration written declaration ∧ gap.all isIndent = true ∧
      text = written ++ gap := by
  unfold readDeclaration? at read
  split at read
  · exact nomatch read
  · next name rest named =>
    obtain ⟨isName, rfl, -⟩ := readDeclaredName?_eq_some_iff.1 named
    obtain ⟨before, gapBefore, whole⟩ := exists_skipIndent rest
    split at read
    · next behind colon =>
      obtain ⟨type, readType, rfl⟩ := Option.map_eq_some_iff.1 read
      obtain ⟨after, gapAfter, wholeBehind⟩ := exists_skipIndent behind
      obtain ⟨written, gap, writesType, isGap, typeText⟩ := writes_of_readType? readType
      refine ⟨_, gap, .intro isName gapBefore gapAfter writesType, isGap, ?_⟩
      rw [whole, colon, wholeBehind, typeText]
      simp
    · exact nomatch read

/-- Trimming leaves a declaration as it is. -/
lemma trim_of_writes {written : Text} {declaration : Declaration}
    (writes : WritesDeclaration written declaration) : Text.trim written = written := by
  obtain ⟨isName, -, -, writesType⟩ := writes
  obtain ⟨last, ends, noBlank⟩ := exists_getLast?_of_writesType writesType
  refine Text.trim_of_noBlank (noBlank_head?_name isName _) ?_
  simpa [List.getLast?_append, List.getLast?_cons, ends] using noBlank

/-- **A line is read as what it declares.** -/
theorem readDeclaration?_trim_eq_some_iff {line : Text} {declaration : Declaration} :
    readDeclaration? (Text.trim line) = some declaration ↔ Declares line declaration := by
  constructor
  · intro read
    obtain ⟨lead, trail, blankLead, blankTrail, whole⟩ := Text.exists_trim line
    obtain ⟨written, gap, writes, isGap, trimmed⟩ := writes_of_readDeclaration? read
    refine ⟨lead, written, gap ++ trail, blankLead, writes, ?_, ?_⟩
    · rw [Text.isBlankText, List.all_append]
      exact Bool.and_eq_true_iff.2 ⟨isBlankText_gap isGap, blankTrail⟩
    · rw [whole, trimmed]
      simp
  · rintro ⟨lead, written, trail, blankLead, writes, blankTrail, rfl⟩
    rw [Text.trim_of_blanks blankLead blankTrail, trim_of_writes writes]
    exact readDeclaration?_of_writes writes

lemma Declares.unique {line : Text} {first second : Declaration} (declares : Declares line first)
    (other : Declares line second) : first = second :=
  Option.some.inj ((readDeclaration?_trim_eq_some_iff.2 declares).symm.trans
    (readDeclaration?_trim_eq_some_iff.2 other))

/-- A blank line declares nothing. -/
lemma not_declares_of_blank {line : Text} (blank : Text.isBlankText line = true)
    (declaration : Declaration) : ¬ Declares line declaration := by
  intro declares
  have read := readDeclaration?_trim_eq_some_iff.2 declares
  have trimmed : Text.trim line = [] := by
    have whole : Text.trim (line ++ [] ++ []) = Text.trim [] := Text.trim_of_blanks blank rfl []
    rwa [List.append_nil, List.append_nil] at whole
  rw [trimmed] at read
  exact nomatch read

/-! ## What is wrong with a line -/

/-- One of the six primitive types, or an array of one. -/
def IsKnownType (type : Text) : Prop :=
  ∃ base ∈ primitiveTypes, type = base ∨ type = base ++ arrayMark

/-- Some line declares the name. -/
def DeclaredIn (lines : List Text) (name : Text) : Prop :=
  ∃ line ∈ lines, ∃ type, Declares line ⟨name, type⟩

/-- What is wrong with a line behind the `earlier` ones: the first of three reasons that applies. -/
inductive Wrong (earlier : List Text) (line : Text) : FrontmatterFault → Prop
  | notADeclaration (nothing : ∀ declaration, ¬ Declares line declaration) :
    Wrong earlier line .notADeclaration
  | unknownType {name type : Text} (declares : Declares line ⟨name, type⟩)
    (unknown : ¬ IsKnownType type) : Wrong earlier line (.unknownType type name)
  | repeatedName {name type : Text} (declares : Declares line ⟨name, type⟩)
    (known : IsKnownType type) (again : DeclaredIn earlier name) :
    Wrong earlier line (.repeatedName name)

/-- The line of this index is not blank, and this is wrong with it. -/
def WrongAt (lines : List Text) (index : Nat) (fault : FrontmatterFault) : Prop :=
  ∃ line, lines[index]? = some line ∧ Text.isBlankText line = false ∧
    Wrong (lines.take index) line fault

/-- This is wrong with the line of this index, and nothing with the lines before it. -/
structure FirstWrongAt (lines : List Text) (index : Nat) (fault : FrontmatterFault) : Prop where
  wrong : WrongAt lines index fault
  first : ∀ earlier < index, ∀ other, ¬ WrongAt lines earlier other

lemma isValidType_iff {type : Text} : isValidType type = true ↔ IsKnownType type := by
  simp [isValidType, IsKnownType, List.any_eq_true]

/-! ## One line -/

section

variable {earlier : List Text} {names : List Text} {line : Text}

lemma checkDeclaration_of_nothing (nothing : ∀ declaration, ¬ Declares line declaration) :
    checkDeclaration names line = .error .notADeclaration := by
  have unread : readDeclaration? (Text.trim line) = none :=
    Option.eq_none_iff_forall_ne_some.2 fun declaration read =>
      nothing declaration (readDeclaration?_trim_eq_some_iff.1 read)
  rw [checkDeclaration, unread]

lemma checkDeclaration_of_declares {declaration : Declaration}
    (declares : Declares line declaration) :
    checkDeclaration names line =
      if !isValidType declaration.type then
        .error (.unknownType declaration.type declaration.name)
      else if names.contains declaration.name then .error (.repeatedName declaration.name)
      else .ok declaration := by
  rw [checkDeclaration, readDeclaration?_trim_eq_some_iff.2 declares]

/-- **A line is refused for the first reason against it, and read if there is none.** -/
theorem wrong_iff_checkDeclaration (names_iff : ∀ name, name ∈ names ↔ DeclaredIn earlier name)
    {fault : FrontmatterFault} :
    Wrong earlier line fault ↔ checkDeclaration names line = .error fault := by
  constructor
  · rintro (nothing | ⟨declares, unknown⟩ | ⟨declares, known, again⟩)
    · exact checkDeclaration_of_nothing nothing
    · have invalid := Bool.eq_false_iff.2 (mt isValidType_iff.1 unknown)
      rw [checkDeclaration_of_declares declares, invalid]
      rfl
    · have contained := List.contains_iff_mem.2 ((names_iff _).2 again)
      rw [checkDeclaration_of_declares declares, isValidType_iff.2 known, contained]
      rfl
  · intro refused
    by_cases nothing : ∀ declaration, ¬ Declares line declaration
    · rw [checkDeclaration_of_nothing nothing] at refused
      obtain rfl := Except.error.inj refused
      exact .notADeclaration nothing
    · obtain ⟨⟨name, type⟩, declares⟩ := not_forall_not.1 nothing
      rw [checkDeclaration_of_declares declares] at refused
      cases valid : isValidType type with
      | false =>
        rw [valid] at refused
        obtain rfl := Except.error.inj refused
        exact .unknownType declares fun known =>
          Bool.noConfusion (valid.symm.trans (isValidType_iff.2 known))
      | true =>
        simp only [valid, Bool.not_true, Bool.false_eq_true, if_false] at refused
        split_ifs at refused with contained
        obtain rfl := Except.error.inj refused
        exact .repeatedName declares (isValidType_iff.1 valid)
          ((names_iff name).1 (List.contains_iff_mem.1 contained))

lemma declares_of_checkDeclaration {declaration : Declaration}
    (checked : checkDeclaration names line = .ok declaration) : Declares line declaration := by
  unfold checkDeclaration at checked
  split at checked
  · exact nomatch checked
  · next read =>
    split_ifs at checked
    obtain rfl := Except.ok.inj checked
    exact readDeclaration?_trim_eq_some_iff.1 read

end

/-! ## The whole block -/

/-- What reading the `rest` of the lines may end in: nothing is wrong with any line, and these are the
declarations of the rest; or the error is that of the first line with something wrong. -/
def Reading (first : Int) (lines rest : List Text) :
    Except FrontmatterError (List Declaration) → Prop
  | .ok declarations => (∀ index fault, ¬ WrongAt lines index fault) ∧
    List.Forall₂ Declares (rest.filter (!Text.isBlankText ·)) declarations
  | .error error => ∃ index : Nat, FirstWrongAt lines index error.fault ∧
    lines[index]? = some error.line ∧ error.lineNumber = first + index

/-- The state of reading when the `earlier` lines have been read: nothing is wrong with them, and
`names` are the names that they declare. -/
structure ReadUpTo (lines earlier : List Text) (names : List Text) : Prop where
  names_iff : ∀ name, name ∈ names ↔ DeclaredIn earlier name
  sound : ∀ index < earlier.length, ∀ fault, ¬ WrongAt lines index fault

section

variable {lines earlier rest : List Text} {names : List Text} {line : Text}

lemma wrongAt_length_iff (split : lines = earlier ++ line :: rest) {fault : FrontmatterFault} :
    WrongAt lines earlier.length fault ↔
      Text.isBlankText line = false ∧ Wrong earlier line fault := by
  subst split
  simp [WrongAt]

lemma declaredIn_concat {name : Text} :
    DeclaredIn (earlier ++ [line]) name ↔
      DeclaredIn earlier name ∨ ∃ type, Declares line ⟨name, type⟩ := by
  simp [DeclaredIn, or_and_right, exists_or]

namespace ReadUpTo

lemma concat (state : ReadUpTo lines earlier names) {more : List Text}
    (more_iff : ∀ name, name ∈ more ↔ DeclaredIn (earlier ++ [line]) name)
    (nothing : ∀ fault, ¬ WrongAt lines earlier.length fault) :
    ReadUpTo lines (earlier ++ [line]) more where
  names_iff := more_iff
  sound index within := by
    rw [List.length_append, List.length_singleton, Nat.lt_succ_iff] at within
    rcases within.lt_or_eq with before | rfl
    · exact state.sound index before
    · exact nothing

/-- A blank line is counted, and nothing else. -/
lemma blank (state : ReadUpTo lines earlier names) (split : lines = earlier ++ line :: rest)
    (isBlank : Text.isBlankText line = true) : ReadUpTo lines (earlier ++ [line]) names := by
  refine state.concat (fun name => ?_) fun fault wrong => ?_
  · rw [state.names_iff, declaredIn_concat]
    exact ⟨.inl, fun declared => declared.resolve_right fun ⟨_, declares⟩ =>
      not_declares_of_blank isBlank _ declares⟩
  · exact Bool.noConfusion (isBlank.symm.trans ((wrongAt_length_iff split).1 wrong).1)

/-- A line that is read adds the name that it declares. -/
lemma declares (state : ReadUpTo lines earlier names) (split : lines = earlier ++ line :: rest)
    {declaration : Declaration} (checked : checkDeclaration names line = .ok declaration) :
    ReadUpTo lines (earlier ++ [line]) (declaration.name :: names) := by
  refine state.concat (fun name => ?_) fun fault wrong => ?_
  · have here := declares_of_checkDeclaration checked
    rw [List.mem_cons, state.names_iff, declaredIn_concat, or_comm]
    refine or_congr_right ⟨?_, fun ⟨type, other⟩ => ?_⟩
    · rintro rfl
      exact ⟨_, here⟩
    · exact congrArg Declaration.name (other.unique here)
  · obtain ⟨-, here⟩ := (wrongAt_length_iff split).1 wrong
    have refused := (wrong_iff_checkDeclaration state.names_iff).1 here
    exact nomatch checked.symm.trans refused

/-- A line that is refused is the first with something wrong. -/
lemma refuses (state : ReadUpTo lines earlier names) (split : lines = earlier ++ line :: rest)
    (notBlank : Text.isBlankText line = false) {fault : FrontmatterFault}
    (checked : checkDeclaration names line = .error fault) :
    FirstWrongAt lines earlier.length fault where
  wrong := (wrongAt_length_iff split).2
    ⟨notBlank, (wrong_iff_checkDeclaration state.names_iff).2 checked⟩
  first := state.sound

/-- **Reading the rest of the lines**, from any state on. -/
theorem reading (state : ReadUpTo lines earlier names) (split : lines = earlier ++ rest)
    (first : Int) :
    Reading first lines rest (readDeclarationsFrom names (first + earlier.length) rest) := by
  induction rest generalizing earlier names with
  | nil =>
    refine ⟨fun index fault wrong => ?_, .nil⟩
    have within : index < earlier.length := by
      obtain ⟨line, here, -⟩ := wrong
      rw [split, List.append_nil] at here
      exact (List.getElem?_eq_some_iff.1 here).1
    exact state.sound index within fault wrong
  | cons line rest ih =>
    have later : lines = earlier ++ [line] ++ rest := by
      rw [split, List.append_assoc, List.singleton_append]
    have number : first + earlier.length + 1 = first + (earlier ++ [line]).length := by
      rw [List.length_append, List.length_singleton, Nat.cast_succ, add_assoc]
    rw [readDeclarationsFrom, number]
    split_ifs with isBlank
    · have read := ih (state.blank split isBlank) later
      generalize readDeclarationsFrom names _ rest = result at read
      cases result with
      | error => exact read
      | ok => rwa [Reading, List.filter_cons_of_neg (by simp [isBlank])]
    · have notBlank := Bool.eq_false_iff.2 isBlank
      cases checked : checkDeclaration names line with
      | error fault =>
        exact ⟨earlier.length, state.refuses split notBlank checked, by rw [split]; simp, rfl⟩
      | ok declaration =>
        have read := ih (state.declares split checked) later
        show Reading _ _ _ ((readDeclarationsFrom (declaration.name :: names) _ rest).map _)
        generalize readDeclarationsFrom _ _ rest = result at read ⊢
        cases result with
        | error => exact read
        | ok =>
          refine ⟨read.1, ?_⟩
          rw [List.filter_cons_of_pos (by simp [notBlank])]
          exact .cons (declares_of_checkDeclaration checked) read.2

end ReadUpTo

end

lemma reading_readDeclarations (first : Int) (lines : List Text) :
    Reading first lines lines (readDeclarations first lines) := by
  have state : ReadUpTo lines [] [] :=
    ⟨fun name => iff_of_false List.not_mem_nil fun ⟨_, member, _⟩ => List.not_mem_nil member,
      fun _ within => absurd within (Nat.not_lt_zero _)⟩
  have read := state.reading rfl first
  rwa [List.length_nil, Nat.cast_zero, add_zero] at read

/-! ## What determines the result -/

lemma Wrong.unique {earlier : List Text} {line : Text} {fault other : FrontmatterFault}
    (wrong : Wrong earlier line fault) (also : Wrong earlier line other) : fault = other := by
  cases wrong with
  | notADeclaration nothing =>
    cases also with
    | notADeclaration => rfl
    | unknownType declares => exact absurd declares (nothing _)
    | repeatedName declares => exact absurd declares (nothing _)
  | unknownType declares unknown =>
    cases also with
    | notADeclaration nothing => exact absurd declares (nothing _)
    | unknownType again =>
      obtain ⟨rfl, rfl⟩ := Declaration.mk.inj (declares.unique again)
      rfl
    | repeatedName again known =>
      obtain ⟨rfl, rfl⟩ := Declaration.mk.inj (declares.unique again)
      exact absurd known unknown
  | repeatedName declares known =>
    cases also with
    | notADeclaration nothing => exact absurd declares (nothing _)
    | unknownType again unknown =>
      obtain ⟨rfl, rfl⟩ := Declaration.mk.inj (declares.unique again)
      exact absurd known unknown
    | repeatedName again =>
      obtain ⟨rfl, rfl⟩ := Declaration.mk.inj (declares.unique again)
      rfl

lemma FirstWrongAt.unique {lines : List Text} {index other : Nat} {fault otherFault : FrontmatterFault}
    (first : FirstWrongAt lines index fault) (also : FirstWrongAt lines other otherFault) :
    index = other ∧ fault = otherFault := by
  have same : index = other := by
    rcases Nat.lt_trichotomy index other with before | same | behind
    · exact absurd first.wrong (also.first index before fault)
    · exact same
    · exact absurd also.wrong (first.first other behind otherFault)
  subst same
  obtain ⟨line, here, -, wrong⟩ := first.wrong
  obtain ⟨_, there, -, alsoWrong⟩ := also.wrong
  obtain rfl := Option.some.inj (here.symm.trans there)
  exact ⟨rfl, wrong.unique alsoWrong⟩

lemma declarations_unique {lines : List Text} {declarations others : List Declaration}
    (declares : List.Forall₂ Declares lines declarations)
    (also : List.Forall₂ Declares lines others) : declarations = others := by
  induction declares generalizing others with
  | nil => cases also with
    | nil => rfl
  | cons here _ ih => cases also with
    | cons there later => rw [here.unique there, ih later]

/-- **A block is read or refused, and one line decides.**  A block is read exactly if nothing is wrong
with any of its lines, and then as the declarations of the lines that are not blank, in order.
Otherwise the error is that of the first line with something wrong: it names the first reason against
the line, the number of the line, and the line as it is written. -/
theorem readDeclarations_exact (first : Int) (lines : List Text) :
    ((∃ error, readDeclarations first lines = .error error) ↔
        ∃ index fault, WrongAt lines index fault) ∧
      (∀ declarations, readDeclarations first lines = .ok declarations ↔
        (∀ index fault, ¬ WrongAt lines index fault) ∧
          List.Forall₂ Declares (lines.filter (!Text.isBlankText ·)) declarations) ∧
      ∀ error, readDeclarations first lines = .error error ↔
        ∃ index : Nat, FirstWrongAt lines index error.fault ∧
          lines[index]? = some error.line ∧ error.lineNumber = first + index := by
  have read := reading_readDeclarations first lines
  cases result : readDeclarations first lines with
  | ok declarations =>
    rw [result] at read
    obtain ⟨nothing, declares⟩ := read
    refine ⟨iff_of_false nofun fun ⟨index, fault, wrong⟩ => nothing index fault wrong,
      fun others => ?_, fun error => iff_of_false nofun fun ⟨index, wrong, _⟩ =>
        nothing index _ wrong.wrong⟩
    constructor
    · rintro ⟨⟩
      exact ⟨nothing, declares⟩
    · rintro ⟨-, also⟩
      rw [declarations_unique declares also]
  | error error =>
    rw [result] at read
    obtain ⟨index, wrong, here, number⟩ := read
    refine ⟨iff_of_true ⟨error, rfl⟩ ⟨index, error.fault, wrong.wrong⟩,
      fun others => iff_of_false nofun fun ⟨nothing, _⟩ => nothing index _ wrong.wrong,
      fun other => ?_⟩
    constructor
    · rintro ⟨⟩
      exact ⟨index, wrong, here, number⟩
    · rintro ⟨otherIndex, also, there, otherNumber⟩
      obtain ⟨rfl, same⟩ := wrong.unique also
      obtain ⟨fault, lineNumber, line⟩ := error
      obtain rfl : fault = other.fault := same
      obtain rfl : line = other.line := Option.some.inj (here.symm.trans there)
      rw [show lineNumber = other.lineNumber from number.trans otherNumber.symm]

/-- A name that is declared again, behind a blank line. -/
example : readDeclarations 2 ["a: string".toList, [' '], "\ta :any []".toList] =
    .error ⟨.repeatedName ['a'], 4, "\ta :any []".toList⟩ := by
  rfl

end GlassPrompt
