import GlassPrompt.Markup.Region
import GlassPrompt.Proofs.Text.Unindent

/-!
# The string literals of a script

The literals of a script are found by the same reading that finds the brace at which a region ends.
That reading does not see how the rows of a script are indented; so a script that is indented in
another way has the same literals, but for the indentation of the rows inside them.

* `literalsFrom`, `literals` — the contents of the literals.
* `ScriptMode.next_of_isIndent`, `ScriptMode.settled_next` — indentation is read over at the start of a
  row.
* `map_unindent_literalsFrom` — the literals of a script without its indentation.
* `literals_append_of_plain`, `literals_append_of_noQuote` — what stands around a script without
  opening a literal.
-/

namespace GlassPrompt

/-! ## Literals -/

/-- The modes inside a string literal. -/
def ScriptMode.inLiteral : ScriptMode → Bool
  | .quoted _ => true
  | .escaped _ => true
  | _ => false

/-- The contents of the literals that end in a script, read from `mode` on, where `content` has been
read of the one that is open. -/
def literalsFrom (mode : ScriptMode) (content : Text) : Text → List Text
  | [] => []
  | c :: rest =>
    let after := mode.next c rest.head?
    if mode.inLiteral then
      if after.inLiteral then literalsFrom after (content ++ [c]) rest
      else content :: literalsFrom after [] rest
    else literalsFrom after [] rest

/-- The contents of the string literals of a script. -/
def literals (script : Text) : List Text :=
  literalsFrom .code [] script

section

variable {mode : ScriptMode} {content : Text} {c : Char} {rest : Text}

lemma literalsFrom_outside (outside : mode.inLiteral = false) :
    literalsFrom mode content (c :: rest) = literalsFrom (mode.next c rest.head?) [] rest := by
  simp only [literalsFrom, outside, Bool.false_eq_true, if_false]

lemma literalsFrom_stays (inside : mode.inLiteral = true)
    (stays : (mode.next c rest.head?).inLiteral = true) :
    literalsFrom mode content (c :: rest) =
      literalsFrom (mode.next c rest.head?) (content ++ [c]) rest := by
  simp only [literalsFrom, inside, stays, if_true]

lemma literalsFrom_closes (inside : mode.inLiteral = true)
    (closes : (mode.next c rest.head?).inLiteral = false) :
    literalsFrom mode content (c :: rest) =
      content :: literalsFrom (mode.next c rest.head?) [] rest := by
  simp only [literalsFrom, inside, closes, if_true, Bool.false_eq_true, if_false]

lemma literalsFrom_content (outside : mode.inLiteral = false) (content script : Text) :
    literalsFrom mode content script = literalsFrom mode [] script := by
  cases script with
  | nil => rfl
  | cons c rest => rw [literalsFrom_outside outside, literalsFrom_outside outside]

end

/-! ## Reading over indentation -/

namespace ScriptMode

/-- Literals are open between quotes only. -/
def Valid : ScriptMode → Prop
  | .quoted quote => isQuote quote = true
  | .escaped quote => isQuote quote = true
  | _ => True

/-- The modes in which the start of a row is read. -/
def Settled : ScriptMode → Prop
  | .code => True
  | .quoted _ => True
  | .comment _ => True
  | _ => False

variable {mode : ScriptMode} {c : Char}

lemma valid_next (valid : mode.Valid) (c : Char) (ahead : Option Char) :
    (mode.next c ahead).Valid := by
  cases mode with
  | code =>
    simp only [next]
    split_ifs with quote
    · exact quote
    all_goals trivial
  | quoted quote =>
    simp only [next]
    split_ifs
    · exact valid
    · trivial
    · exact valid
  | escaped quote => exact valid
  | commentStart block => trivial
  | comment block =>
    cases block <;> (simp only [next]; split_ifs <;> trivial)
  | commentEnd => trivial

/-- **Indentation at the start of a row is read over.** -/
lemma next_of_isIndent (valid : mode.Valid) (settled : mode.Settled) (indent : isIndent c = true)
    (ahead : Option Char) : mode.next c ahead = mode := by
  have notQuote : isQuote c = false := by
    rcases Bool.or_eq_true_iff.1 indent with h | h <;> (rw [beq_iff_eq.1 h]; rfl)
  cases mode with
  | code => simp [next, notQuote, ne_of_class indent (d := '/') rfl]
  | quoted quote =>
    have notEnd : c ≠ quote := by
      rintro rfl
      exact Bool.noConfusion (notQuote.symm.trans valid)
    simp [next, notEnd, ne_of_class indent (d := '\\') rfl]
  | comment block =>
    cases block
    · simp [next, ne_of_class indent (d := '\n') rfl]
    · simp [next, ne_of_class indent (d := '*') rfl]
  | escaped | commentStart | commentEnd => exact settled.elim

/-- Behind a row end, the start of a row is read, whatever follows. -/
lemma settled_next (valid : mode.Valid) (rowEnd : isRowEnd c = true) (ahead : Option Char) :
    (mode.next c ahead).Settled ∧ ∀ other, mode.next c other = mode.next c ahead := by
  cases mode with
  | code =>
    have plain (ahead : Option Char) : code.next c ahead = if isQuote c then .quoted c else .code := by
      simp [next, ne_of_class rowEnd (d := '/') rfl]
    rw [plain]
    refine ⟨?_, plain⟩
    split_ifs <;> trivial
  | quoted quote =>
    refine ⟨?_, fun _ => rfl⟩
    simp only [next, ne_of_class rowEnd (d := '\\') rfl, if_false]
    split_ifs <;> trivial
  | escaped quote => exact ⟨trivial, fun _ => rfl⟩
  | commentStart block => exact ⟨trivial, fun _ => rfl⟩
  | comment block =>
    cases block with
    | false =>
      refine ⟨?_, fun _ => rfl⟩
      simp only [next]
      split_ifs <;> trivial
    | true =>
      have plain (ahead : Option Char) : (comment true).next c ahead = .comment true := by
        simp [next, ne_of_class rowEnd (d := '*') rfl]
      rw [plain]
      exact ⟨trivial, plain⟩
  | commentEnd => exact ⟨trivial, fun _ => rfl⟩

end ScriptMode

/-! ## Literals without indentation -/

/-- A literal starts with its quote. -/
lemma isQuote_of_opens {mode : ScriptMode} {c : Char} {ahead : Option Char}
    (outside : mode.inLiteral = false) (opens : (mode.next c ahead).inLiteral = true) :
    isQuote c = true := by
  cases mode with
  | code =>
    simp only [ScriptMode.next] at opens
    split_ifs at opens with quote
    · exact quote
    all_goals exact nomatch opens
  | quoted | escaped => exact nomatch outside
  | commentStart | commentEnd => exact nomatch opens
  | comment block =>
    cases block <;> (simp only [ScriptMode.next] at opens; split_ifs at opens <;> exact nomatch opens)

lemma isRowEnd_of_isQuote {c : Char} (quote : isQuote c = true) : isRowEnd c = false := by
  simp only [isQuote, Bool.or_eq_true, beq_iff_eq] at quote
  rcases quote with (rfl | rfl) | rfl <;> rfl

section

variable {ends : Char → Bool} (rows : EndsRows ends) {mode : ScriptMode} {c : Char}

include rows

/-- The next mode is the same without the indentation of what follows. -/
lemma next_unindentFrom (valid : mode.Valid) (rest : Text) :
    mode.next c (unindentFrom ends (ends c) rest).head? = mode.next c rest.head? := by
  cases rowEnd : ends c with
  | true => exact (ScriptMode.settled_next valid (rows.boundary c rowEnd) _).2 _
  | false => rw [head?_unindentFrom_false]

/-- A quote that opens a literal ends no row. -/
lemma ends_of_opens (outside : mode.inLiteral = false) {ahead : Option Char}
    (opens : (mode.next c ahead).inLiteral = true) : ends c = false := by
  cases rowEnd : ends c with
  | false => rfl
  | true =>
    have quote := isRowEnd_of_isQuote (isQuote_of_opens outside opens)
    exact Bool.noConfusion (quote.symm.trans (rows.boundary c rowEnd))

/-- **The literals of a script without its indentation** are its literals without theirs.  If the text
is the start of a row, then so is what has been read of the open literal. -/
theorem map_unindent_literalsFrom (valid : mode.Valid) {fresh : Bool}
    (settled : fresh = true → mode.Settled) {content : Text}
    (row : mode.inLiteral = true → freshAfter ends false content = fresh) (script : Text) :
    (literalsFrom mode content script).map (unindent ends) =
      literalsFrom mode (unindent ends content) (unindentFrom ends fresh script) := by
  induction script generalizing mode fresh content with
  | nil => rfl
  | cons c rest ih =>
    have next := ScriptMode.valid_next valid c rest.head?
    cases dropped : fresh && isIndent c with
    | true =>
      -- The character is indentation: the reading does not see it.
      obtain ⟨isFresh, indent⟩ := Bool.and_eq_true_iff.1 dropped
      have same := ScriptMode.next_of_isIndent valid (settled isFresh) indent
      rw [unindentFrom_drop dropped]
      cases inside : mode.inLiteral with
      | true =>
        have grown : unindent ends (content ++ [c]) = unindent ends content := by
          rw [unindent, unindentFrom_snoc (row inside), unindentFrom_drop dropped]
          exact List.append_nil _
        have stillFresh : freshAfter ends false (content ++ [c]) = true := by
          rw [freshAfter_snoc (row inside), dropped, Bool.true_or]
        rw [literalsFrom_stays inside (by rw [same, inside]), same,
          ih valid (fun _ => settled isFresh) (fun _ => stillFresh), grown]
      | false =>
        rw [literalsFrom_outside inside, same, ih valid (fun _ => settled isFresh)
          (fun opened => Bool.noConfusion (inside.symm.trans opened))]
        exact (literalsFrom_content inside _ _).symm
    | false =>
      have after := next_unindentFrom rows (c := c) valid rest
      have nextSettled (rowEnd : ends c = true) : (mode.next c rest.head?).Settled :=
        (ScriptMode.settled_next valid (rows.boundary c rowEnd) _).1
      rw [unindentFrom_keep dropped]
      cases inside : mode.inLiteral with
      | true =>
        cases stays : (mode.next c rest.head?).inLiteral with
        | true =>
          have grown : unindent ends (content ++ [c]) = unindent ends content ++ [c] := by
            rw [unindent, unindentFrom_snoc (row inside), unindentFrom_keep dropped]
            rfl
          have nextRow : freshAfter ends false (content ++ [c]) = ends c := by
            rw [freshAfter_snoc (row inside), dropped, Bool.false_or]
          rw [literalsFrom_stays inside stays, literalsFrom_stays inside (by rw [after, stays]), after,
            ih next nextSettled (fun _ => nextRow), grown]
        | false =>
          rw [literalsFrom_closes inside stays, literalsFrom_closes inside (by rw [after, stays]), after,
            List.map_cons, ih next nextSettled (fun opened =>
              Bool.noConfusion (stays.symm.trans opened))]
          rfl
      | false =>
        have opened (opens : (mode.next c rest.head?).inLiteral = true) :
            freshAfter ends false [] = ends c := (ends_of_opens rows inside opens).symm
        rw [literalsFrom_outside inside, literalsFrom_outside inside, after, ih next nextSettled opened]
        rfl

/-- The literals of a script, whether or not it is taken for the start of a row. -/
theorem map_unindent_literals (fresh : Bool) (script : Text) :
    (literals script).map (unindent ends) = literals (unindentFrom ends fresh script) :=
  map_unindent_literalsFrom rows (show ScriptMode.code.Valid from trivial) (fun _ => trivial)
    (fun inside => nomatch inside) script

end

/-- What stands in a comment is no literal, and a quote behind a backslash ends none. -/
example : literals "f('a\\'b') // \"c\"".toList = ["a\\'b".toList] := by decide

/-! ## What stands around a script -/

/-- The character opens neither a literal nor a comment. -/
def isPlain (c : Char) : Bool :=
  !isQuote c && c != '/'

lemma isQuote_of_isPlain {c : Char} (plain : isPlain c = true) : isQuote c = false := by
  rw [isPlain, Bool.and_eq_true, Bool.not_eq_true'] at plain
  exact plain.1

/-- What opens nothing does not change the literals behind it. -/
theorem literals_append_of_plain {lead : Text} (plain : ∀ c ∈ lead, isPlain c = true)
    (script : Text) : literals (lead ++ script) = literals script := by
  induction lead with
  | nil => rfl
  | cons c rest ih =>
    obtain ⟨first, others⟩ := List.forall_mem_cons.1 plain
    simp only [isPlain, Bool.and_eq_true, Bool.not_eq_true', bne_iff_ne] at first
    have stays (ahead : Option Char) : ScriptMode.code.next c ahead = .code := by
      simp [ScriptMode.next, first.1, first.2]
    rw [List.cons_append, literals, literalsFrom_outside rfl, stays]
    exact ih others

lemma inLiteral_next {mode : ScriptMode} {c : Char} (valid : mode.Valid)
    (inside : mode.inLiteral = true) (noQuote : isQuote c = false) (ahead : Option Char) :
    (mode.next c ahead).inLiteral = true := by
  cases mode with
  | quoted quote =>
    have notEnd : c ≠ quote := by
      rintro rfl
      exact Bool.noConfusion (noQuote.symm.trans valid)
    simp only [ScriptMode.next, notEnd, if_false]
    split_ifs <;> rfl
  | escaped quote => rfl
  | code | commentStart | comment | commentEnd => exact nomatch inside

/-- Without a quote no literal ends. -/
lemma literalsFrom_of_noQuote {mode : ScriptMode} (valid : mode.Valid) (content : Text)
    {script : Text} (noQuote : ∀ c ∈ script, isQuote c = false) :
    literalsFrom mode content script = [] := by
  induction script generalizing mode content with
  | nil => rfl
  | cons c rest ih =>
    obtain ⟨first, others⟩ := List.forall_mem_cons.1 noQuote
    have next := ScriptMode.valid_next valid c rest.head?
    cases inside : mode.inLiteral with
    | true =>
      rw [literalsFrom_stays inside (inLiteral_next valid inside first _)]
      exact ih next _ others
    | false =>
      rw [literalsFrom_outside inside]
      exact ih next _ others

/-- Inside a literal, the next mode does not depend on what follows. -/
lemma next_of_inLiteral {mode : ScriptMode} (inside : mode.inLiteral = true) (c : Char)
    (first second : Option Char) : mode.next c first = mode.next c second := by
  cases mode with
  | quoted | escaped => rfl
  | code | commentStart | comment | commentEnd => exact nomatch inside

lemma literalsFrom_append_of_noQuote {mode : ScriptMode} (valid : mode.Valid) (content : Text)
    {trail : Text} (noQuote : ∀ c ∈ trail, isQuote c = false) (script : Text) :
    literalsFrom mode content (script ++ trail) = literalsFrom mode content script := by
  induction script generalizing mode content with
  | nil => exact literalsFrom_of_noQuote valid content noQuote
  | cons c rest ih =>
    rw [List.cons_append]
    have next (ahead : Option Char) := ScriptMode.valid_next valid c ahead
    cases inside : mode.inLiteral with
    | true =>
      have same := next_of_inLiteral inside c (rest ++ trail).head? rest.head?
      cases stays : (mode.next c rest.head?).inLiteral with
      | true =>
        rw [literalsFrom_stays inside stays, literalsFrom_stays inside (by rw [same, stays]), same,
          ih (next _)]
      | false =>
        rw [literalsFrom_closes inside stays, literalsFrom_closes inside (by rw [same, stays]), same,
          ih (next _)]
    | false =>
      -- At the end of the script the modes may differ, but nothing is read there any more.
      rw [literalsFrom_outside inside, literalsFrom_outside inside, ih (next _)]
      cases rest <;> rfl

/-- What holds no quote does not change the literals before it. -/
theorem literals_append_of_noQuote {trail : Text} (noQuote : ∀ c ∈ trail, isQuote c = false)
    (script : Text) : literals (script ++ trail) = literals script :=
  literalsFrom_append_of_noQuote (show ScriptMode.code.Valid from trivial) [] noQuote script

/-! ## Scripts with the same literals -/

section

variable {ends : Char → Bool}

/-- Two scripts have the same literals, but for the indentation of the rows inside them. -/
def SameLiterals (ends : Char → Bool) (first second : Text) : Prop :=
  (literals first).map (unindent ends) = (literals second).map (unindent ends)

lemma SameLiterals.trans {first second third : Text} (h : SameLiterals ends first second)
    (h' : SameLiterals ends second third) : SameLiterals ends first third :=
  Eq.trans h h'

/-- Scripts that differ in their indentation have the same literals. -/
theorem SameLiterals.of_unindentFrom (rows : EndsRows ends) {fresh : Bool} {first second : Text}
    (same : unindentFrom ends fresh first = unindentFrom ends fresh second) :
    SameLiterals ends first second := by
  rw [SameLiterals, map_unindent_literals rows fresh, same, map_unindent_literals rows fresh]

/-- A literal on one row is the same in both scripts, at the same place. -/
theorem SameLiterals.getElem? (rows : EndsRows ends) {first second : Text}
    (h : SameLiterals ends first second) {i : Nat} {literal : Text}
    (at_ : (literals first)[i]? = some literal) (oneRow : ∀ c ∈ literal, ends c = false) :
    (literals second)[i]? = some literal := by
  have mapped := congrArg (·[i]?) h
  simp only [List.getElem?_map, at_, Option.map_some, unindent_of_oneRow oneRow] at mapped
  obtain ⟨other, otherAt, same⟩ := Option.map_eq_some_iff.1 mapped.symm
  have otherOneRow : ∀ c ∈ other, ends c = false := by
    intro c member
    cases isEnd : ends c with
    | false => rfl
    | true =>
      have kept := mem_unindentFrom rows isEnd false member
      rw [← unindent, same] at kept
      exact (oneRow c kept).symm.trans isEnd |> Bool.noConfusion
  rw [otherAt, ← same, unindent_of_oneRow otherOneRow]

/-- If all literals of a script are on one row, then the other script has the same ones. -/
theorem SameLiterals.eq (rows : EndsRows ends) {first second : Text}
    (h : SameLiterals ends first second)
    (oneRow : ∀ literal ∈ literals first, ∀ c ∈ literal, ends c = false) :
    literals second = literals first := by
  have length : (literals second).length = (literals first).length := by
    have mapped := congrArg List.length h
    rw [List.length_map, List.length_map] at mapped
    exact mapped.symm
  refine List.ext_getElem? fun i => ?_
  cases at_ : (literals first)[i]? with
  | none => rw [List.getElem?_eq_none_iff, length, ← List.getElem?_eq_none_iff, at_]
  | some literal => exact h.getElem? rows at_ (oneRow literal (List.mem_of_getElem? at_))

end

end GlassPrompt
