import GlassPrompt.Proofs.Markup.RegionGrammar
import GlassPrompt.Proofs.Script.Tidying

/-!
# Which fragments are invoked as they are

A fragment that is one function declaration is called itself; any other one becomes the body of a
function.  The decision is made about the tidied fragment.  Tidying changes indentation and blanks at
the ends only, and the indentation plays no part in the decision, but blanks at the ends do: a
declaration with a blank behind it, on its last line, is not called.

* `IsFunctionDeclaration` — the grammar of a declaration.
* `isFunctionDeclaration_iff` — the code that is taken for a declaration is what the grammar says.
* `isFunctionDeclaration_unindent` — the indentation of its lines plays no part.
* `SameButLayout`, `sameButLayout_tidyCode` — tidying changes the layout only.
* `isFunctionDeclaration_tidyCode_iff`, `invokeCode_exact` — which fragments are called as they are.
* `not_invoked_as_itself` — a declaration that is not.
-/

namespace GlassPrompt

/-! ## The grammar of a declaration -/

/-- The words that a declaration starts with: `function`, which `async` and blanks may stand before. -/
inductive IsFunctionStart : Text → Prop
  | plain : IsFunctionStart "function".toList
  | async {gap : Text} (nonempty : gap ≠ []) (blank : Text.isBlankText gap = true) :
    IsFunctionStart ("async".toList ++ gap ++ "function".toList)

/-- The start of a declaration, a head without a brace, and a brace region at the end. -/
inductive IsFunctionDeclaration : Text → Prop
  | intro {start head region : Text} (starts : IsFunctionStart start)
    (boundary : ∀ c ∈ head.head?, isWord c = false) (noBrace : '\x7b' ∉ head)
    (isRegion : IsRegion region) : IsFunctionDeclaration (start ++ head ++ region)

/-- A region starts with its brace. -/
lemma IsRegion.exists_cons {region : Text} (isRegion : IsRegion region) :
    ∃ rest, region = '\x7b' :: rest := by
  obtain ⟨script, -, rfl⟩ := isRegion
  exact ⟨_, rfl⟩

section

variable {code head behind : Text}

lemma skipFunctionWord?_eq_some_iff : skipFunctionWord? code = some behind ↔
    code = "function".toList ++ behind ∧ ∀ c ∈ behind.head?, isWord c = false := by
  constructor
  · intro skipped
    unfold skipFunctionWord? at skipped
    split_ifs at skipped with word
    obtain rfl := Option.some.inj skipped
    refine ⟨?_, stops_dropWhile code⟩
    rw [← word, List.takeWhile_append_dropWhile]
  · rintro ⟨rfl, boundary⟩
    have word : "function".toList.all isWord = true := by decide
    rw [skipFunctionWord?, takeWhile_of_stop word boundary, dropWhile_of_stop word boundary, if_pos rfl]

lemma skipFunctionStart?_eq_some_iff : skipFunctionStart? code = some behind ↔
    ∃ start, IsFunctionStart start ∧ code = start ++ behind ∧
      ∀ c ∈ behind.head?, isWord c = false := by
  constructor
  · intro skipped
    unfold skipFunctionStart? at skipped
    dsimp only at skipped
    split_ifs at skipped with isAsync
    · obtain ⟨word, blank⟩ := isAsync
      obtain ⟨rest, boundary⟩ := skipFunctionWord?_eq_some_iff.1 skipped
      obtain ⟨gap, blankGap, whole⟩ := Text.exists_trimStart (code.dropWhile isWord)
      rw [rest] at whole
      have nonempty : gap ≠ [] := by
        rintro rfl
        rw [whole] at blank
        exact absurd (show isBlank 'f' = true from blank) (by decide)
      refine ⟨_, .async nonempty blankGap, ?_, boundary⟩
      rw [← word, List.append_assoc, List.append_assoc, ← whole, List.takeWhile_append_dropWhile]
    · obtain ⟨rfl, boundary⟩ := skipFunctionWord?_eq_some_iff.1 skipped
      exact ⟨_, .plain, rfl, boundary⟩
  · rintro ⟨start, starts, rfl, boundary⟩
    have skipped : skipFunctionWord? ("function".toList ++ behind) = some behind :=
      skipFunctionWord?_eq_some_iff.2 ⟨rfl, boundary⟩
    cases starts with
    | plain =>
      have word : ("function".toList ++ behind).takeWhile isWord = "function".toList :=
        takeWhile_of_stop (by decide) boundary
      rw [skipFunctionStart?, if_neg fun isAsync => absurd (word.symm.trans isAsync.1) (by decide)]
      exact skipped
    | @async gap nonempty blank =>
      have stops : ∀ c ∈ (gap ++ ("function".toList ++ behind)).head?, isWord c = false := by
        obtain ⟨d, more, rfl⟩ := List.exists_cons_of_ne_nil nonempty
        rintro c ⟨⟩
        exact isWord_of_isBlank (Text.isBlankText_iff.1 blank d List.mem_cons_self)
      have isWord : "async".toList.all isWord = true := by decide
      have firstBlank : (gap ++ ("function".toList ++ behind)).head?.any isBlank = true := by
        obtain ⟨d, more, rfl⟩ := List.exists_cons_of_ne_nil nonempty
        exact Text.isBlankText_iff.1 blank d List.mem_cons_self
      rw [List.append_assoc, List.append_assoc, skipFunctionStart?, takeWhile_of_stop isWord stops,
        dropWhile_of_stop isWord stops, if_pos ⟨rfl, firstBlank⟩, Text.trimStart_of_blank blank]
      exact skipped

end

/-- **The code that is taken for a declaration** is what the grammar says. -/
theorem isFunctionDeclaration_iff {code : Text} :
    isFunctionDeclaration code = true ↔ IsFunctionDeclaration code := by
  constructor
  · intro declaration
    unfold isFunctionDeclaration at declaration
    split at declaration
    · exact nomatch declaration
    · next behind skipped =>
      obtain ⟨start, starts, rfl, boundary⟩ := skipFunctionStart?_eq_some_iff.1 skipped
      obtain ⟨nonempty, length⟩ := Bool.and_eq_true_iff.1 declaration
      have parts := List.takeWhile_append_dropWhile (p := (· != '\x7b')) (l := behind)
      have brace := stops_dropWhile (p := (· != '\x7b')) behind
      generalize behind.dropWhile (· != '\x7b') = body at nonempty length parts brace
      cases body with
      | nil => exact nomatch nonempty
      | cons c rest =>
        obtain rfl : c = '\x7b' := by simpa using brace c rfl
        obtain ⟨region, trail, whole, isRegion, same⟩ :=
          isRegion_of_braceLength? (beq_iff_eq.1 length)
        obtain rfl : trail = [] := by
          rw [whole, List.length_append] at same
          exact List.length_eq_zero_iff.1 (by omega)
        rw [List.append_nil] at whole
        rw [← parts, whole, ← List.append_assoc]
        refine .intro starts (fun d first => ?_) (fun inside => ?_) isRegion
        · refine boundary d ?_
          rw [← parts, List.head?_append_of_ne_nil _ (List.ne_nil_of_mem (List.mem_of_mem_head? first))]
          exact first
        · exact absurd (List.mem_takeWhile_imp inside) (by decide)
  · rintro ⟨starts, boundary, noBrace, isRegion⟩
    rename_i start head region
    obtain ⟨rest, brace⟩ := isRegion.exists_cons
    have skipped : skipFunctionStart? (start ++ head ++ region) = some (head ++ region) := by
      refine skipFunctionStart?_eq_some_iff.2 ⟨start, starts, List.append_assoc _ _ _, ?_⟩
      cases head with
      | nil =>
        rw [brace]
        rintro c ⟨⟩
        rfl
      | cons d more => exact boundary
    have body : (head ++ region).dropWhile (· != '\x7b') = region := by
      refine dropWhile_of_stop (List.all_eq_true.2 fun c member => ?_) fun c first => ?_
      · exact bne_iff_ne.2 fun same => noBrace (same ▸ member)
      · rw [brace] at first
        obtain rfl := Option.some.inj first
        rfl
    have length := braceLength?_region isRegion []
    rw [List.append_nil] at length
    rw [isFunctionDeclaration, skipped]
    dsimp only
    rw [body, length, brace]
    simp

/-! ## Indentation plays no part -/

section

variable {ends : Char → Bool} (rows : EndsRows ends)

/-- The first character of what is left is kept. -/
lemma dropWhile_unindentFrom {p : Char → Bool} (dropped : ∀ c, isIndent c = true → p c = true)
    (fresh : Bool) (text : Text) :
    (unindentFrom ends fresh text).dropWhile p = unindent ends (text.dropWhile p) := by
  induction text generalizing fresh with
  | nil => rfl
  | cons c rest ih =>
    cases isDropped : p c with
    | true =>
      rw [List.dropWhile_cons_of_pos isDropped, ← ih (fresh && isIndent c || ends c), unindentFrom]
      cases fresh && isIndent c with
      | true => rfl
      | false => exact List.dropWhile_cons_of_pos isDropped
    | false =>
      have kept : isIndent c = false := by
        by_contra indent
        exact Bool.noConfusion (isDropped.symm.trans (dropped c (Bool.eq_true_of_not_eq_false indent)))
      rw [unindentFrom_keep (by rw [kept, Bool.and_false]),
        List.dropWhile_cons_of_neg (by simp [isDropped]),
        List.dropWhile_cons_of_neg (by simp [isDropped])]
      rfl

lemma trimStart_unindentFrom (fresh : Bool) (text : Text) :
    Text.trimStart (unindentFrom ends fresh text) = unindent ends (Text.trimStart text) :=
  dropWhile_unindentFrom (fun _ => isBlank_of_isIndent) fresh text

lemma unindent_eq_nil_iff {text : Text} : unindent ends text = [] ↔ text = [] := by
  cases text with
  | nil => exact Iff.rfl
  | cons c rest => exact iff_of_false (List.cons_ne_nil _ _) (List.cons_ne_nil _ _)

include rows

lemma ends_of_isWord {c : Char} (word : isWord c = true) : ends c = false := by
  by_contra isEnd
  have noWord := isWord_of_isBlank (isBlank_of_isRowEnd
    (rows.boundary c (Bool.eq_true_of_not_eq_false isEnd)))
  exact Bool.noConfusion (noWord.symm.trans word)

/-- A word is on one row. -/
lemma word_unindent (text : Text) :
    (unindent ends text).takeWhile isWord = text.takeWhile isWord ∧
      (unindent ends text).dropWhile isWord = unindent ends (text.dropWhile isWord) := by
  induction text with
  | nil => exact ⟨rfl, rfl⟩
  | cons c rest ih =>
    rw [unindent, unindentFrom_keep (Bool.false_and _)]
    cases word : isWord c with
    | true =>
      rw [ends_of_isWord rows word, List.takeWhile_cons_of_pos word, List.takeWhile_cons_of_pos word,
        List.dropWhile_cons_of_pos word, List.dropWhile_cons_of_pos word]
      exact ⟨congrArg (c :: ·) ih.1, ih.2⟩
    | false =>
      rw [List.takeWhile_cons_of_neg (by simp [word]), List.takeWhile_cons_of_neg (by simp [word]),
        List.dropWhile_cons_of_neg (by simp [word]), List.dropWhile_cons_of_neg (by simp [word])]
      exact ⟨rfl, rfl⟩

lemma skipFunctionWord?_unindent (code : Text) :
    skipFunctionWord? (unindent ends code) = (skipFunctionWord? code).map (unindent ends) := by
  obtain ⟨word, behind⟩ := word_unindent rows code
  rw [skipFunctionWord?, skipFunctionWord?, word, behind]
  split_ifs <;> rfl

lemma skipFunctionStart?_unindent (code : Text) :
    skipFunctionStart? (unindent ends code) = (skipFunctionStart? code).map (unindent ends) := by
  obtain ⟨word, behind⟩ := word_unindent rows code
  have next : (unindent ends (code.dropWhile isWord)).head? = (code.dropWhile isWord).head? :=
    head?_unindentFrom_false ends _
  have gap : Text.trimStart (unindent ends (code.dropWhile isWord)) =
      unindent ends (Text.trimStart (code.dropWhile isWord)) := trimStart_unindentFrom false _
  rw [skipFunctionStart?, skipFunctionStart?, word, behind, next, gap,
    skipFunctionWord?_unindent rows, skipFunctionWord?_unindent rows]
  split_ifs <;> rfl

/-- **A region ends where its text ends, with indentation or without.** -/
theorem braceLength?_unindentFrom {mode : ScriptMode} (valid : mode.Valid) {fresh : Bool}
    (settled : fresh = true → mode.Settled) (depth : Int) (text : Text) :
    braceLength? mode depth (unindentFrom ends fresh text) =
        some (unindentFrom ends fresh text).length ↔
      braceLength? mode depth text = some text.length := by
  induction text generalizing mode fresh depth with
  | nil => exact Iff.rfl
  | cons c rest ih =>
    have next := ScriptMode.valid_next valid c rest.head?
    cases dropped : fresh && isIndent c with
    | true =>
      -- Indentation moves the end, and changes neither the mode nor the depth.
      obtain ⟨isFresh, indent⟩ := Bool.and_eq_true_iff.1 dropped
      have same := ScriptMode.next_of_isIndent valid (settled isFresh) indent rest.head?
      have noOpen : c ≠ '\x7b' := ne_of_class indent rfl
      have noClose : c ≠ '\x7d' := ne_of_class indent rfl
      have level : mode.depthAfter depth c = depth := by
        cases mode with
        | code => simp [ScriptMode.depthAfter, noOpen, noClose]
        | quoted | escaped | commentStart | comment | commentEnd => rfl
      rw [unindentFrom_drop dropped, ih valid (fun _ => settled isFresh), braceLength?, same, level,
        if_neg fun closes => noClose closes.2.1, List.length_cons, Option.map_eq_some_iff]
      simp
    | false =>
      have after := next_unindentFrom rows (c := c) valid rest
      rw [unindentFrom_keep dropped, braceLength?, braceLength?, after, List.length_cons,
        List.length_cons]
      split_ifs with closes
      · have oneRow : ends c = false := by
          rw [closes.2.1]
          by_contra isEnd
          exact absurd (rows.boundary _ (Bool.eq_true_of_not_eq_false isEnd)) (by decide)
        rw [oneRow, ← unindent]
        simp [unindent_eq_nil_iff]
      · have nextSettled (isEnd : ends c = true) : (mode.next c rest.head?).Settled :=
          (ScriptMode.settled_next valid (rows.boundary c isEnd) _).1
        simpa [Option.map_eq_some_iff] using ih next nextSettled (mode.depthAfter depth c)

/-- **Whether code is a declaration does not depend on its indentation.** -/
theorem isFunctionDeclaration_unindent (code : Text) :
    isFunctionDeclaration (unindent ends code) = isFunctionDeclaration code := by
  unfold isFunctionDeclaration
  rw [skipFunctionStart?_unindent rows]
  cases skipFunctionStart? code with
  | none => rfl
  | some behind =>
    have body : (unindent ends behind).dropWhile (· != '\x7b') =
        unindent ends (behind.dropWhile (· != '\x7b')) :=
      dropWhile_unindentFrom (fun c indent => bne_iff_ne.2 (ne_of_class indent rfl)) false behind
    have midRow : false = true → ScriptMode.code.Settled := nofun
    have ends_iff := braceLength?_unindentFrom rows (show ScriptMode.code.Valid from trivial) midRow 0
      (behind.dropWhile (· != '\x7b'))
    rw [Option.map_some]
    dsimp only
    rw [body, Bool.eq_iff_iff, Bool.and_eq_true, Bool.and_eq_true, beq_iff_eq, beq_iff_eq]
    refine and_congr ?_ ends_iff
    simp [unindent_eq_nil_iff]

end

/-! ## Tidying -/

lemma isBlankText_unindentFrom {ends : Char → Bool} {fresh : Bool} {text : Text}
    (blank : Text.isBlankText text = true) :
    Text.isBlankText (unindentFrom ends fresh text) = true := by
  induction text generalizing fresh with
  | nil => rfl
  | cons c rest ih =>
    obtain ⟨first, others⟩ := Bool.and_eq_true_iff.1 blank
    rw [unindentFrom]
    split_ifs
    · exact ih others
    · exact Bool.and_eq_true_iff.2 ⟨first, ih others⟩

/-- What ends in no blank does so without its indentation. -/
lemma trimEnd_unindent_of_noBlank {ends : Char → Bool} {text : Text}
    (last : ∀ c ∈ text.getLast?, isBlank c = false) :
    Text.trimEnd (unindent ends text) = unindent ends text := by
  obtain rfl | ⟨start, c, rfl⟩ := List.eq_nil_or_concat text
  · rfl
  · rw [List.concat_eq_append] at last ⊢
    have noBlank : isBlank c = false := last c List.getLast?_concat
    have kept (fresh : Bool) : (fresh && isIndent c) = false := by
      cases indent : isIndent c with
      | false => exact Bool.and_false _
      | true => exact Bool.noConfusion (noBlank.symm.trans (isBlank_of_isIndent indent))
    rw [unindent, unindentFrom_append, unindentFrom_keep (kept _), Text.trimEnd, List.reverse_append]
    show (List.dropWhile isBlank (c :: _)).reverse = _
    rw [List.dropWhile_cons_of_neg (by simp [noBlank])]
    simp [unindentFrom]

lemma noBlank_getLast?_trimEnd (text : Text) :
    ∀ c ∈ (Text.trimEnd text).getLast?, isBlank c = false := by
  rw [Text.trimEnd, List.getLast?_reverse]
  exact stops_dropWhile text.reverse

/-- **Trimming and unindenting** can be done in any order. -/
theorem trim_unindentFrom (ends : Char → Bool) (fresh : Bool) (text : Text) :
    Text.trim (unindentFrom ends fresh text) = unindent ends (Text.trim text) := by
  rw [Text.trim, trimStart_unindentFrom, Text.trim]
  generalize Text.trimStart text = rest
  obtain ⟨trail, blank, whole⟩ := Text.exists_trimEnd rest
  conv_lhs => rw [whole, unindent, unindentFrom_append]
  rw [Text.trimEnd_of_blank (isBlankText_unindentFrom blank)]
  exact trimEnd_unindent_of_noBlank (noBlank_getLast?_trimEnd rest)

/-- The two texts are the same up to the indentation of their lines and the blanks at their ends. -/
def SameButLayout (first second : Text) : Prop :=
  unindent (· == '\n') (Text.trim first) = unindent (· == '\n') (Text.trim second)

/-- **Tidying changes the layout only.** -/
theorem sameButLayout_tidyCode (source : Text) : SameButLayout (tidyCode source) source := by
  obtain ⟨lead, trail, blankLead, blankTrail, whole, same⟩ := unindentFrom_tidyCode source
  have trimmed := congrArg Text.trim same
  rw [trim_unindentFrom, trim_unindentFrom] at trimmed
  rw [SameButLayout, trimmed]
  conv_rhs => rw [whole, Text.trim_of_blanks blankLead blankTrail]

/-! ## Invoking a fragment -/

/-- A declaration has no blanks at its ends. -/
lemma IsFunctionDeclaration.trim_eq {code : Text} (declaration : IsFunctionDeclaration code) :
    Text.trim code = code := by
  obtain ⟨starts, -, -, script, -, rfl⟩ := declaration
  rename_i start head
  have first : ∀ c ∈ start.head?, isBlank c = false := by
    cases starts <;> (rintro c ⟨⟩; rfl)
  refine Text.trim_of_noBlank (fun c opens => first c ?_) fun c closes => ?_
  · have nonempty : start ≠ [] := by
      cases starts <;> exact List.cons_ne_nil _ _
    rw [List.append_assoc, List.head?_append_of_ne_nil _ nonempty] at opens
    exact opens
  · rw [← List.append_assoc, List.getLast?_concat] at closes
    obtain rfl := Option.some.inj closes
    rfl

/-- **When the tidied fragment is taken for a declaration**: if the fragment is one, up to blanks at
its ends, and tidying has left no blank at an end. -/
theorem isFunctionDeclaration_tidyCode_iff (source : Text) :
    isFunctionDeclaration (tidyCode source) = true ↔
      IsFunctionDeclaration (Text.trim source) ∧ Text.trim (tidyCode source) = tidyCode source := by
  have same : isFunctionDeclaration (Text.trim (tidyCode source)) =
      isFunctionDeclaration (Text.trim source) := by
    rw [← isFunctionDeclaration_unindent endsRows_newline, sameButLayout_tidyCode source,
      isFunctionDeclaration_unindent endsRows_newline]
  rw [← isFunctionDeclaration_iff, ← same]
  constructor
  · intro declaration
    have trimmed := (isFunctionDeclaration_iff.1 declaration).trim_eq
    exact ⟨by rw [trimmed, declaration], trimmed⟩
  · rintro ⟨declaration, trimmed⟩
    rwa [trimmed] at declaration

/-- **How a fragment is invoked.**  A function declaration, up to blanks at its ends, is called itself
if tidying leaves no blank at its ends.  Every other fragment is wrapped in a function, indented, with
all characters that are no blanks in order.  What is called or wrapped is the fragment, up to
indentation and blanks at its ends. -/
theorem invokeCode_exact (source : Text) : SameButLayout (tidyCode source) source ∧
    (IsFunctionDeclaration (Text.trim source) → Text.trim (tidyCode source) = tidyCode source →
      invokeCode source = '(' :: tidyCode source ++ ")()".toList) ∧
    (¬ (IsFunctionDeclaration (Text.trim source) ∧
        Text.trim (tidyCode source) = tidyCode source) →
      ∃ body, invokeCode source = "(() => \x7b".toList ++ body ++ "\x7d)()".toList ∧
        body = '\n' :: Text.indent [' ', ' '] (tidyCode source) ++ ['\n'] ∧
        inked body = inked source) := by
  refine ⟨sameButLayout_tidyCode source, fun declaration trimmed => ?_, fun other => ?_⟩
  · have taken := (isFunctionDeclaration_tidyCode_iff source).2 ⟨declaration, trimmed⟩
    rw [invokeCode, if_pos taken]
  · have notTaken := mt (isFunctionDeclaration_tidyCode_iff source).1 other
    refine ⟨_, ?_, rfl, ?_⟩
    · rw [invokeCode, if_neg notTaken]
      simp
    · have margin : [' ', ' '].all isIndent = true := by decide
      rw [inked_append, ← List.singleton_append, inked_append, inked_indent margin, inked_tidyCode]
      exact List.append_nil _

/-- A declaration with a margin and a brace in a literal, and a fragment with more than a declaration. -/
theorem invokeCode_exact_async :
    invokeCode "\n  async\n  function f() \x7b\n    return \"\x7d\"\n  \x7d\n  ".toList =
        "(async\nfunction f() \x7b\n  return \"\x7d\"\n\x7d)()".toList ∧
      ∃ body, invokeCode "function f() \x7b\x7d f()".toList =
          "(() => \x7b".toList ++ body ++ "\x7d)()".toList ∧
        body = "\n  function f() \x7b\x7d f()\n".toList ∧
        inked body = inked "function f() \x7b\x7d f()".toList := by
  constructor
  · exact (invokeCode_exact _).2.1 (isFunctionDeclaration_iff.1 (by decide)) (by decide)
  · refine (invokeCode_exact _).2.2 ?_
    rw [← isFunctionDeclaration_tidyCode_iff]
    decide

/-- A declaration on one line, with a blank behind it, is not called: the fragment is wrapped in a
function that declares it and returns nothing. -/
theorem not_invoked_as_itself : ¬ ∀ source, IsFunctionDeclaration (Text.trim source) →
    ∃ declaration, SameButLayout declaration source ∧
      invokeCode source = '(' :: declaration ++ ")()".toList := by
  intro invoked
  obtain ⟨declaration, same, called⟩ := invoked " function f() \x7b return 1 \x7d ".toList
    (isFunctionDeclaration_iff.1 (by decide))
  have wrapped : invokeCode " function f() \x7b return 1 \x7d ".toList =
      '(' :: "() => \x7b\n  function f() \x7b return 1 \x7d \n\x7d".toList ++ ")()".toList := by
    decide
  obtain rfl := (List.cons.inj (List.append_inj_left' (wrapped.symm.trans called) rfl)).2
  exact absurd same (by unfold SameButLayout; decide)

end GlassPrompt
