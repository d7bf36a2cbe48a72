import GlassPrompt.Proofs.Import.StatementGrammar
import GlassPrompt.Proofs.Text.LineStarts

/-!
# Static imports that are left in code

Statements are taken out of code line by line, and the lines around each of them come together.  So static
imports are left in three places: where `from` follows the clause directly, where more stands on the line,
and where an import only comes about because lines come together.  The last kind may be taken out when
the code is read again.

* `KeptFrom`, `startsLine_extractImports_iff` — the lines that are left.
* `upToImport`, `IsJoinedImport` — what stands before the next statement that is taken out, and the
  imports that reach beyond it.
* `importsLeft_iff` — which static imports are left, and what is taken out a second time;
  `not_importsAllTaken` is code that keeps some.
-/

namespace GlassPrompt

open Text

/-! ## The lines that are left -/

/-- The line at the start of the code is not taken out. -/
def KeepsLine (code : Text) : Prop :=
  readImport? (code.dropWhile isIndent) = none

section

variable {code line rest : Text} {statement : ImportStatement}

lemma extractImports_of_statement
    (read : readImport? (code.dropWhile isIndent) = some (statement, rest)) :
    extractImports code = (statement :: (extractImports rest).1, (extractImports rest).2) := by
  rw [extractImports]
  split
  · next again =>
    obtain ⟨rfl, rfl⟩ := Prod.mk.inj (Option.some.inj (read.symm.trans again))
    rfl
  · next none => exact absurd (read.symm.trans none) (Option.some_ne_none _)

lemma dropWhile_of_oneLine (oneLine : '\n' ∉ code) : code.dropWhile (· != '\n') = [] :=
  List.dropWhile_eq_nil_iff.2 fun _ member => bne_iff_ne.2 (ne_of_mem_of_not_mem member oneLine)

lemma extractImports_of_lastLine (keeps : KeepsLine code) (oneLine : '\n' ∉ code) :
    extractImports code = ([], code) := by
  have noBreak := dropWhile_of_oneLine oneLine
  rw [extractImports]
  split
  · next some => exact absurd (some.symm.trans keeps) (Option.some_ne_none _)
  · split
    · rfl
    · next newline => exact absurd (newline.symm.trans noBreak) (List.cons_ne_nil _ _)

/-- A text with a line and more behind it, read up to the end of the line. -/
lemma split_line (oneLine : '\n' ∉ line) (rest : Text) :
    (line ++ '\n' :: rest).takeWhile (· != '\n') = line ∧
      (line ++ '\n' :: rest).dropWhile (· != '\n') = '\n' :: rest := by
  have all : line.all (· != '\n') = true :=
    List.all_eq_true.2 fun c member => bne_iff_ne.2 (ne_of_mem_of_not_mem member oneLine)
  have stops : ∀ c ∈ ('\n' :: rest).head?, (c != '\n') = false := by
    rintro _ ⟨⟩
    rfl
  exact ⟨takeWhile_of_stop all stops, dropWhile_of_stop all stops⟩

lemma extractImports_of_line (keeps : KeepsLine (line ++ '\n' :: rest)) (oneLine : '\n' ∉ line) :
    extractImports (line ++ '\n' :: rest) =
      ((extractImports rest).1, line ++ '\n' :: (extractImports rest).2) := by
  obtain ⟨first, behind⟩ := split_line oneLine rest
  rw [extractImports]
  split
  · next some => exact absurd (some.symm.trans keeps) (Option.some_ne_none _)
  · split
    · next noBreak => exact absurd (behind.symm.trans noBreak) (List.cons_ne_nil _ _)
    · next newline =>
      obtain ⟨rfl, rfl⟩ := List.cons.inj (newline.symm.trans behind)
      rw [first]

end

/-- What the extraction goes through: statements that are taken out, and lines that are kept. -/
lemma extractImports_induction {motive : Text → Prop}
    (statement : ∀ code statement rest,
      readImport? (code.dropWhile isIndent) = some (statement, rest) → motive rest → motive code)
    (lastLine : ∀ code, KeepsLine code → '\n' ∉ code → motive code)
    (line : ∀ line rest, KeepsLine (line ++ '\n' :: rest) → '\n' ∉ line → motive rest →
      motive (line ++ '\n' :: rest)) (code : Text) : motive code := by
  fun_induction extractImports code with
  | case1 code found rest read _ _ _ ih => exact statement code found rest read ih
  | case2 code keeps noBreak =>
    rcases dropWhile_ne_cases '\n' code with ⟨oneLine, -⟩ | ⟨_, _, -, -, -, behind⟩
    · exact lastLine code keeps oneLine
    · exact nomatch noBreak.symm.trans behind
  | case3 code keeps newline rest behind _ _ _ ih =>
    rcases dropWhile_ne_cases '\n' code with ⟨-, noBreak⟩ | ⟨first, more, rfl, oneLine, -, split⟩
    · exact nomatch behind.symm.trans noBreak
    · obtain ⟨rfl, rfl⟩ := List.cons.inj (behind.symm.trans split)
      exact line first rest keeps oneLine ih

/-- The code from the start of one of its lines on that are not taken out. -/
inductive KeptFrom : Text → Text → Prop
  | here {code : Text} (keeps : KeepsLine code) : KeptFrom code code
  | behindStatement {code rest kept : Text} {statement : ImportStatement}
    (read : readImport? (code.dropWhile isIndent) = some (statement, rest))
    (later : KeptFrom rest kept) : KeptFrom code kept
  | behindLine {line rest kept : Text} (keeps : KeepsLine (line ++ '\n' :: rest))
    (oneLine : '\n' ∉ line) (later : KeptFrom rest kept) : KeptFrom (line ++ '\n' :: rest) kept

section

variable {code line rest kept : Text} {statement : ImportStatement}

lemma KeptFrom.keeps (from_ : KeptFrom code kept) : KeepsLine kept := by
  induction from_ with
  | here keeps => exact keeps
  | behindStatement _ _ ih => exact ih
  | behindLine _ _ _ ih => exact ih

lemma keptFrom_of_statement (read : readImport? (code.dropWhile isIndent) = some (statement, rest)) :
    KeptFrom code kept ↔ KeptFrom rest kept := by
  refine ⟨fun from_ => ?_, .behindStatement read⟩
  cases from_ with
  | here keeps => exact nomatch read.symm.trans keeps
  | behindStatement again later =>
    obtain ⟨-, rfl⟩ := Prod.mk.inj (Option.some.inj (read.symm.trans again))
    exact later
  | behindLine keeps _ _ => exact nomatch read.symm.trans keeps

lemma keptFrom_of_lastLine (keeps : KeepsLine code) (oneLine : '\n' ∉ code) :
    KeptFrom code kept ↔ kept = code := by
  constructor
  · intro from_
    cases from_ with
    | here _ => rfl
    | behindStatement read _ => exact nomatch read.symm.trans keeps
    | behindLine _ _ _ => exact absurd (List.mem_append_right _ List.mem_cons_self) oneLine
  · rintro rfl
    exact .here keeps

lemma keptFrom_of_line (keeps : KeepsLine (line ++ '\n' :: rest)) (oneLine : '\n' ∉ line) :
    KeptFrom (line ++ '\n' :: rest) kept ↔ kept = line ++ '\n' :: rest ∨ KeptFrom rest kept := by
  constructor
  · intro from_
    generalize whole : line ++ '\n' :: rest = code at from_ keeps
    cases from_ with
    | here _ => exact .inl rfl
    | behindStatement read _ => exact nomatch read.symm.trans keeps
    | behindLine _ again later =>
      have same := (split_line oneLine rest).2
      rw [whole, (split_line again _).2] at same
      obtain ⟨-, rfl⟩ := List.cons.inj same
      exact .inr later
  · rintro (rfl | later)
    · exact .here keeps
    · exact .behindLine keeps oneLine later

end

/-- **The lines of what is left are the lines that are kept, each with what is left behind it.** -/
theorem startsLine_extractImports_iff {code rest : Text} :
    StartsLine (extractImports code).2 rest ↔
      ∃ kept, KeptFrom code kept ∧ rest = (extractImports kept).2 := by
  induction code using extractImports_induction with
  | statement code statement behind read ih =>
    rw [extractImports_of_statement read, ih]
    simp only [keptFrom_of_statement read]
  | lastLine code keeps oneLine =>
    have whole := extractImports_of_lastLine keeps oneLine
    rw [whole, startsLine_lastLine oneLine]
    simp only [keptFrom_of_lastLine keeps oneLine, exists_eq_left, whole]
  | line line behind keeps oneLine ih =>
    rw [extractImports_of_line keeps oneLine, startsLine_line oneLine, ih]
    simp only [keptFrom_of_line keeps oneLine, or_and_right, exists_or, exists_eq_left,
      extractImports_of_line keeps oneLine]

/-! ## What stands before the next statement -/

/-- The code before the next statement that is taken out, and the code from that statement on. -/
def splitAtImport (code : Text) : Text × Text :=
  match readImport? (code.dropWhile isIndent) with
  | some _ => ([], code)
  | none =>
    match _h : code.dropWhile (· != '\n') with
    | [] => (code, [])
    | newline :: rest =>
      let (before, behind) := splitAtImport rest
      (code.takeWhile (· != '\n') ++ newline :: before, behind)
termination_by code.length
decreasing_by
  have := (List.dropWhile_suffix (l := code) (· != '\n')).length_le
  rw [_h, List.length_cons] at this
  omega

/-- The code up to the next statement that is taken out. -/
def upToImport (code : Text) : Text :=
  (splitAtImport code).1

/-- What is left of the code from the next statement on. -/
def leftFromImport (code : Text) : Text :=
  (extractImports (splitAtImport code).2).2

section

variable {code line rest : Text} {statement : ImportStatement}

lemma splitAtImport_of_statement
    (read : readImport? (code.dropWhile isIndent) = some (statement, rest)) :
    splitAtImport code = ([], code) := by
  rw [splitAtImport, read]

lemma splitAtImport_of_lastLine (keeps : KeepsLine code) (oneLine : '\n' ∉ code) :
    splitAtImport code = (code, []) := by
  have noBreak := dropWhile_of_oneLine oneLine
  have none : readImport? (code.dropWhile isIndent) = none := keeps
  rw [splitAtImport, none]
  dsimp only
  split
  · rfl
  · next newline => exact nomatch newline.symm.trans noBreak

lemma splitAtImport_of_line (keeps : KeepsLine (line ++ '\n' :: rest)) (oneLine : '\n' ∉ line) :
    splitAtImport (line ++ '\n' :: rest) =
      (line ++ '\n' :: (splitAtImport rest).1, (splitAtImport rest).2) := by
  obtain ⟨first, behind⟩ := split_line oneLine rest
  have none : readImport? ((line ++ '\n' :: rest).dropWhile isIndent) = none := keeps
  rw [splitAtImport, none]
  dsimp only
  split
  · next noBreak => exact nomatch noBreak.symm.trans behind
  · next newline =>
    obtain ⟨rfl, rfl⟩ := List.cons.inj (newline.symm.trans behind)
    rw [first]

end

/-- What is left of the code starts as the code does, up to the next statement that is taken out.
Only the last line of the code has no newline there. -/
lemma splitAtImport_spec (code : Text) :
    code = upToImport code ++ (splitAtImport code).2 ∧
      (extractImports code).2 = upToImport code ++ leftFromImport code ∧
      (upToImport code = [] ∨ (splitAtImport code).2 = [] ∨ (upToImport code).getLast? = some '\n') := by
  unfold leftFromImport upToImport
  induction code using extractImports_induction with
  | statement code statement rest read ih =>
    rw [splitAtImport_of_statement read]
    exact ⟨rfl, rfl, .inl rfl⟩
  | lastLine code keeps oneLine =>
    have nothing : extractImports [] = ([], []) := by decide +kernel
    rw [splitAtImport_of_lastLine keeps oneLine, extractImports_of_lastLine keeps oneLine, nothing,
      List.append_nil]
    exact ⟨rfl, rfl, .inr (.inl rfl)⟩
  | line line rest keeps oneLine ih =>
    obtain ⟨whole, left, ends⟩ := ih
    rw [splitAtImport_of_line keeps oneLine, extractImports_of_line keeps oneLine]
    dsimp only
    rw [List.append_assoc, List.append_assoc, List.cons_append, List.cons_append, ← whole, ← left]
    refine ⟨rfl, rfl, ?_⟩
    rcases ends with empty | lastLine | newline
    · rw [empty]
      exact .inr (.inr List.getLast?_concat)
    · exact .inr (.inl lastLine)
    · refine .inr (.inr ?_)
      have nonempty : (splitAtImport rest).1 ≠ [] := by
        intro empty
        rw [empty] at newline
        exact nomatch newline
      rw [List.append_cons, List.getLast?_append_of_ne_nil _ nonempty]
      exact newline

section

variable {line : Text} (keeps : KeepsLine line)

include keeps

/-- A kept line has its newline before the next statement, if there is one. -/
lemma upToImport_ends :
    (splitAtImport line).2 = [] ∨ (upToImport line).getLast? = some '\n' := by
  rcases dropWhile_ne_cases '\n' line with ⟨oneLine, -⟩ | ⟨first, rest, rfl, oneLine, -⟩
  · exact .inl (by rw [splitAtImport_of_lastLine keeps oneLine])
  · refine (splitAtImport_spec _).2.2.resolve_left ?_
    rw [upToImport, splitAtImport_of_line keeps oneLine]
    exact List.append_ne_nil_of_right_ne_nil _ (List.cons_ne_nil _ _)

/-- The code and what is left of it start with the same indentation. -/
lemma dropWhile_isIndent_kept :
    line.dropWhile isIndent = (upToImport line).dropWhile isIndent ++ (splitAtImport line).2 ∧
      (extractImports line).2.dropWhile isIndent =
        (upToImport line).dropWhile isIndent ++ leftFromImport line := by
  obtain ⟨whole, left, -⟩ := splitAtImport_spec line
  rw [left]
  rcases upToImport_ends keeps with lastLine | newline
  · have nothing : leftFromImport line = [] := by
      rw [leftFromImport, lastLine]
      decide +kernel
    rw [lastLine, List.append_nil] at whole
    rw [lastLine, nothing, List.append_nil, List.append_nil, ← whole]
    exact ⟨rfl, rfl⟩
  · have member := List.mem_of_getLast? newline
    refine ⟨?_, (dropWhile_isIndent_append member _).1⟩
    rw [← (dropWhile_isIndent_append member _).1, ← whole]

end

/-! ## The static imports that are left -/

lemma keepsLine_iff (code : Text) : KeepsLine code ↔
    ∀ head after, IsStaticImport head after (code.dropWhile isIndent) → IsSpacedHead head →
      readStatementEnd? after = none := by
  rw [KeepsLine, ← Option.not_isSome_iff_eq_none, readImport?_isSome_iff]
  push Not
  simp only [Option.not_isSome_iff_eq_none]

/-- Code is left as it is if all of its lines are kept. -/
lemma extractImports_eq_self_iff (code : Text) :
    extractImports code = ([], code) ↔ ∀ rest, StartsLine code rest → KeepsLine rest := by
  induction code using extractImports_induction with
  | statement code statement rest read ih =>
    rw [extractImports_of_statement read]
    refine iff_of_false (fun eq => List.cons_ne_nil _ _ (congrArg Prod.fst eq)) fun all => ?_
    exact nomatch read.symm.trans (all code (startsLine_self code))
  | lastLine code keeps oneLine =>
    refine iff_of_true (extractImports_of_lastLine keeps oneLine) fun rest starts => ?_
    rw [(startsLine_lastLine oneLine).1 starts]
    exact keeps
  | line line rest keeps oneLine ih =>
    have first : (extractImports rest = ([], rest)) ↔
        ((extractImports rest).1, line ++ '\n' :: (extractImports rest).2) =
          ([], line ++ '\n' :: rest) := by
      rw [Prod.ext_iff, Prod.mk.injEq, List.append_cancel_left_eq, List.cons.injEq]
      simp only [true_and]
    rw [extractImports_of_line keeps oneLine, ← first, ih]
    simp only [startsLine_line oneLine, or_imp, forall_and, forall_eq, keeps, true_and]

/-- In what is left, a static import goes on behind the place of the next statement: without that
statement, it comes together from the lines around it. -/
structure IsJoinedImport (head after line : Text) : Prop where
  opens : IsStaticImport head after ((extractImports line).2.dropWhile isIndent)
  beyond : after.length < (leftFromImport line).length

section

variable {head after line : Text} (keeps : KeepsLine line)

include keeps

/-- A static import that is left stands in the code, or it is joined. -/
lemma isStaticImport_left_iff :
    IsStaticImport head after ((extractImports line).2.dropWhile isIndent) ↔
      (∃ rest, after = rest ++ leftFromImport line ∧
        IsStaticImport head rest ((upToImport line).dropWhile isIndent)) ∨
      IsJoinedImport head after line := by
  have left := (dropWhile_isIndent_kept keeps).2
  constructor
  · intro opens
    by_cases beyond : after.length < (leftFromImport line).length
    · exact .inr ⟨opens, beyond⟩
    · exact .inl ((left ▸ opens).of_append (not_lt.1 beyond))
  · rintro (⟨rest, rfl, opens⟩ | joined)
    · rw [left]
      exact opens.append _
    · exact joined.opens

/-- What stands behind a static import of the code is left behind it, to the end of its line. -/
lemma readStatementEnd?_left {rest : Text}
    (opens : IsStaticImport head rest ((upToImport line).dropWhile isIndent)) :
    (readStatementEnd? (rest ++ leftFromImport line)).isSome =
      (readStatementEnd? (rest ++ (splitAtImport line).2)).isSome := by
  rcases upToImport_ends keeps with lastLine | newline
  · have nothing : (extractImports []).2 = [] := by decide +kernel
    rw [leftFromImport, lastLine, nothing]
  · have whole := List.takeWhile_append_dropWhile (p := isIndent) (l := upToImport line)
    have nonempty : (upToImport line).dropWhile isIndent ≠ [] := fun empty => by
      obtain ⟨-, -, quote, specifier, -, -, -, eq⟩ := opens
      rw [empty] at eq
      exact nomatch eq
    rw [← whole, List.getLast?_append_of_ne_nil _ nonempty] at newline
    have member := opens.newline newline
    rw [readStatementEnd?_append member, readStatementEnd?_append member]

end

/-- **Which static imports are left in code, and which are taken out a second time.**  A static import on
a line that is kept has no blanks before its `from`, or more follows it on its line.  A static import is
left on a line if it stands on a line that is kept, before the next statement that is taken out, or if it
comes together where statements are taken out.  What is left loses nothing more exactly if no import that
has come together ends its line. -/
theorem importsLeft_iff (code : Text) :
    (∀ line head after, KeptFrom code line → IsStaticImport head after (line.dropWhile isIndent) →
      IsSpacedHead head → readStatementEnd? after = none) ∧
    (∀ head, (∃ rest after, StartsLine (extractImports code).2 rest ∧
        IsStaticImport head after (rest.dropWhile isIndent)) ↔
      ∃ line after, KeptFrom code line ∧
        (IsStaticImport head after ((upToImport line).dropWhile isIndent) ∨
          IsJoinedImport head after line)) ∧
    (extractImports (extractImports code).2 = ([], (extractImports code).2) ↔
      ∀ line head after, KeptFrom code line → IsJoinedImport head after line → IsSpacedHead head →
        readStatementEnd? after = none) := by
  refine ⟨fun line head after from_ => (keepsLine_iff line).1 from_.keeps head after, fun head => ?_, ?_⟩
  · constructor
    · rintro ⟨rest, after, starts, opens⟩
      obtain ⟨line, from_, rfl⟩ := startsLine_extractImports_iff.1 starts
      rcases (isStaticImport_left_iff from_.keeps).1 opens with ⟨before, -, stands⟩ | joined
      · exact ⟨line, before, from_, .inl stands⟩
      · exact ⟨line, after, from_, .inr joined⟩
    · rintro ⟨line, after, from_, found⟩
      have starts := startsLine_extractImports_iff.2 ⟨line, from_, rfl⟩
      rcases found with stands | joined
      · exact ⟨_, _, starts, (isStaticImport_left_iff from_.keeps).2 (.inl ⟨after, rfl, stands⟩)⟩
      · exact ⟨_, _, starts, joined.opens⟩
  · rw [extractImports_eq_self_iff]
    constructor
    · intro keepsAll line head after from_ joined
      have starts := startsLine_extractImports_iff.2 ⟨line, from_, rfl⟩
      exact (keepsLine_iff _).1 (keepsAll _ starts) head after joined.opens
    · intro noneEnds rest starts
      obtain ⟨line, from_, rfl⟩ := startsLine_extractImports_iff.1 starts
      refine (keepsLine_iff _).2 fun head after opens spaced => ?_
      rcases (isStaticImport_left_iff from_.keeps).1 opens with ⟨before, rfl, stands⟩ | joined
      · rw [← Option.not_isSome_iff_eq_none, readStatementEnd?_left from_.keeps stands,
          Option.not_isSome_iff_eq_none]
        refine (keepsLine_iff line).1 from_.keeps head _ ?_ spaced
        rw [(dropWhile_isIndent_kept from_.keeps).1]
        exact stands.append _
      · exact noneEnds line head after from_ joined spaced

/-- A static import with a comment behind it. -/
def importWithComment : Text :=
  "import a from 'b' // c".toList

lemma isStaticImport_importWithComment :
    IsSpacedHead " a from ".toList ∧
      IsStaticImport " a from ".toList " // c".toList importWithComment := by
  have space : IsGap [' '] := ⟨by decide, rfl⟩
  have spaced : IsSpacedHead ([' '] ++ ['a'] ++ [' '] ++ "from".toList ++ [' ']) :=
    .clause space (by decide) space space
  have noQuotes : " a from ".toList.all (!isSpecifierQuote ·) = true := by decide +kernel
  refine ⟨spaced, spaced.isImportHead, fun c member => ?_, '\'', ['b'], rfl, List.cons_ne_nil _ _,
    List.forall_mem_singleton.2 rfl, rfl⟩
  simpa using List.all_eq_true.1 noQuotes c member

/-- An import whose parts stand around a statement. -/
def importAroundStatement : Text :=
  "import\nimport 'a'\n'b'".toList

lemma extractImports_twice :
    extractImports (extractImports importAroundStatement).2 = ([⟨[], ['b']⟩], []) := by
  decide +kernel

/-- A statement is left because of its comment, and another one comes together. -/
theorem importsLeft_iff_joined : readStatementEnd? " // c".toList = none ∧
    ∃ line head after, KeptFrom importAroundStatement line ∧ IsJoinedImport head after line ∧
      IsSpacedHead head ∧ readStatementEnd? after ≠ none := by
  obtain ⟨spaced, opens⟩ := isStaticImport_importWithComment
  have keeps : readImport? (importWithComment.dropWhile isIndent) = none := by decide +kernel
  refine ⟨(importsLeft_iff importWithComment).1 _ _ _ (.here keeps) opens spaced, ?_⟩
  by_contra none
  push Not at none
  have same := (importsLeft_iff importAroundStatement).2.2.2 none
  exact nomatch (congrArg Prod.fst extractImports_twice).symm.trans (congrArg Prod.fst same)

/-- Static imports are left in code: one has a comment behind it, and one comes together where a statement
is taken out and is then taken out a second time. -/
theorem not_importsAllTaken :
    ¬ (∀ code rest head after, StartsLine (extractImports code).2 rest →
      ¬ IsStaticImport head after (rest.dropWhile isIndent)) ∧
    ¬ ∀ code, extractImports (extractImports code).2 = ([], (extractImports code).2) := by
  constructor
  · intro noneLeft
    have left : (extractImports importWithComment).2 = importWithComment := by decide +kernel
    have starts := startsLine_self (extractImports importWithComment).2
    refine noneLeft importWithComment _ " a from ".toList " // c".toList starts ?_
    rw [left]
    exact isStaticImport_importWithComment.2
  · intro all
    have same := all importAroundStatement
    exact nomatch (congrArg Prod.fst extractImports_twice).symm.trans (congrArg Prod.fst same)

end GlassPrompt
