import GlassPrompt.Proofs.Script.Literals
import GlassPrompt.Proofs.Text.Trim

/-!
# Scripts that are put between delimiters again

A region is found by reading its script up to the brace that closes it.  The script is kept without the
blanks around it, and is written between other delimiters later.  There it is closed as well, with one
exception: a line comment at its end that only a newline among those blanks had closed.

* `ScriptMode.behind`, `ScriptMode.depthBehind` — where reading stands behind a script.
* `braceLength?_append` — a text is read in two parts.
* `ClosesInBraces`, `closesInBraces_iff` — scripts that are read up to the brace behind them, as the
  script of every region is (`closesInBraces_of_braceLength?`).
* `EndsInLineComment`, `ClosesButForComment` — what such a script is without the blanks around it
  (`closesButForComment_trim`).
-/

namespace GlassPrompt

/-! ## Behind a script -/

namespace ScriptMode

/-- The mode behind a script, where `ahead` is the character that follows it. -/
def behind (mode : ScriptMode) (ahead : Option Char) : Text → ScriptMode
  | [] => mode
  | c :: rest => behind (mode.next c (rest.head?.or ahead)) ahead rest

/-- The brace depth behind a script; it does not matter what follows. -/
def depthBehind (mode : ScriptMode) (depth : Int) : Text → Int
  | [] => depth
  | c :: rest => depthBehind (mode.next c rest.head?) (mode.depthAfter depth c) rest

lemma behind_append (mode : ScriptMode) (ahead : Option Char) (first second : Text) :
    mode.behind ahead (first ++ second) =
      (mode.behind (second.head?.or ahead) first).behind ahead second := by
  induction first generalizing mode with
  | nil => rfl
  | cons c rest ih => rw [List.cons_append, behind, behind, ih, List.head?_append, Option.or_assoc]

lemma depthBehind_append (mode : ScriptMode) (depth : Int) (first second : Text) :
    mode.depthBehind depth (first ++ second) =
      (mode.behind second.head? first).depthBehind (mode.depthBehind depth first) second := by
  induction first generalizing mode depth with
  | nil => rfl
  | cons c rest ih =>
    rw [List.cons_append, depthBehind, behind, depthBehind, ih, List.head?_append]
    -- The mode behind `c` is the same in both readings, unless there is nothing more to read.
    cases rest <;> rfl

lemma valid_behind {mode : ScriptMode} (valid : mode.Valid) (ahead : Option Char) (script : Text) :
    (mode.behind ahead script).Valid := by
  induction script generalizing mode with
  | nil => exact valid
  | cons c rest ih => exact ih (valid_next valid c _)

end ScriptMode

/-- **A text is read in two parts**: what is not closed in the first one is read on in the second. -/
theorem braceLength?_append (mode : ScriptMode) (depth : Int) (first second : Text) :
    braceLength? mode depth (first ++ second) = (braceLength? mode depth first).or
      ((braceLength? (mode.behind second.head? first) (mode.depthBehind depth first) second).map
        (· + first.length)) := by
  induction first generalizing mode depth with
  | nil => simp [braceLength?, ScriptMode.behind, ScriptMode.depthBehind]
  | cons c rest ih =>
    rw [List.cons_append, braceLength?, braceLength?]
    by_cases closes : mode = .code ∧ c = '\x7d' ∧ mode.depthAfter depth c = 0
    · rw [if_pos closes, if_pos closes]
      rfl
    · rw [if_neg closes, if_neg closes, ih, List.head?_append, ScriptMode.behind,
        ScriptMode.depthBehind, Option.map_or, Option.map_map]
      cases rest <;> rfl

/-! ## Between braces -/

/-- Between braces, the script is read up to the brace behind it. -/
def ClosesInBraces (script : Text) : Prop :=
  braceLength? .code 0 ('\x7b' :: script ++ ['\x7d']) = some (script.length + 2)

instance : DecidablePred ClosesInBraces :=
  fun _ => inferInstanceAs (Decidable (_ = _))

lemma braceLength?_open (text : Text) :
    braceLength? .code 0 ('\x7b' :: text) = (braceLength? .code 1 text).map (· + 1) := by
  rw [braceLength?, if_neg (fun closes => absurd closes.2.1 (by decide))]
  rfl

lemma braceLength?_close (mode : ScriptMode) (depth : Int) :
    braceLength? mode depth ['\x7d'] = if mode = .code ∧ depth = 1 then some 1 else none := by
  cases mode with
  | code =>
    have drop : ScriptMode.code.depthAfter depth '\x7d' = depth - 1 := rfl
    simp only [braceLength?, drop, true_and, sub_eq_zero, Option.map_none]
  | quoted | escaped | commentStart | comment | commentEnd => rfl

/-- The brace behind a script that does not close before is reached in code, at the depth at which the
script starts. -/
lemma braceLength?_inBraces {script : Text} (open_ : braceLength? .code 1 script = none) :
    braceLength? .code 0 ('\x7b' :: script ++ ['\x7d']) =
      if ScriptMode.code.behind (some '\x7d') script = .code ∧
        ScriptMode.code.depthBehind 1 script = 1 then some (script.length + 2) else none := by
  rw [List.cons_append, braceLength?_open, braceLength?_append, open_, Option.none_or,
    braceLength?_close, List.head?_cons, Option.map_map]
  split_ifs
  · exact congrArg some (by simp; omega)
  · rfl

/-- **A script closes between braces** if it ends in code, at the depth at which it starts, and has no
brace on the way that closes it early. -/
theorem closesInBraces_iff {script : Text} : ClosesInBraces script ↔
    braceLength? .code 1 script = none ∧ ScriptMode.code.behind (some '\x7d') script = .code ∧
      ScriptMode.code.depthBehind 1 script = 1 := by
  cases early : braceLength? .code 1 script with
  | some n =>
    have within := braceLength?_le early
    refine iff_of_false (fun whole => ?_) (nomatch ·.1)
    rw [ClosesInBraces, List.cons_append, braceLength?_open, braceLength?_append, early] at whole
    have length : n + 1 = script.length + 2 := Option.some.inj whole
    omega
  | none =>
    rw [ClosesInBraces, braceLength?_inBraces early, eq_self, true_and]
    split_ifs with ends
    · exact iff_of_true rfl ends
    · exact iff_of_false (nomatch ·) ends

/-- **The script of a region closes between braces.** -/
theorem closesInBraces_of_braceLength? {rest : Text} {n : Nat}
    (h : braceLength? .code 0 ('\x7b' :: rest) = some n) : ClosesInBraces (rest.take (n - 2)) := by
  obtain ⟨two, split⟩ := append_of_braceLength? h
  have length : ('\x7b' :: rest.take (n - 2) ++ ['\x7d']).length = n := by
    have within := braceLength?_le h
    simp only [List.length_append, List.length_cons, List.length_take, List.length_nil] at within ⊢
    omega
  rw [split, braceLength?_append, Option.or_eq_some_iff, length] at h
  rcases h with whole | ⟨-, later⟩
  · rw [ClosesInBraces, whole, Option.some_inj]
    simpa using length.symm
  · obtain ⟨more, found, total⟩ := Option.map_eq_some_iff.1 later
    have pos := braceLength?_pos found
    omega

/-! ## Behind blanks -/

namespace ScriptMode

/-- Between the two characters of a mark. -/
def InMark : ScriptMode → Prop
  | .commentStart _ => True
  | .commentEnd => True
  | _ => False

/-- In code or in a line comment: behind a newline there is code. -/
def ClosedByNewline : ScriptMode → Prop
  | .code => True
  | .comment false => True
  | _ => False

lemma closedByNewline_iff {mode : ScriptMode} :
    mode.ClosedByNewline ↔ mode = .code ∨ mode = .comment false := by
  cases mode with
  | comment block => cases block <;> simp [ClosedByNewline]
  | code | quoted | escaped | commentStart | commentEnd => simp [ClosedByNewline]

/-- A mark is only entered if its second character follows. -/
lemma not_inMark_next (mode : ScriptMode) (c : Char) : ¬ (mode.next c none).InMark := by
  cases mode with
  | code =>
    simp only [next, reduceCtorEq, and_false, if_false]
    split_ifs <;> exact id
  | quoted quote =>
    simp only [next]
    split_ifs <;> exact id
  | comment block =>
    cases block <;> (simp only [next, reduceCtorEq, and_false, if_false]; try split_ifs) <;> exact id
  | escaped | commentStart | commentEnd => exact id

lemma not_inMark_behind {mode : ScriptMode} {script : Text}
    (noMark : script = [] → ¬ mode.InMark) : ¬ (mode.behind none script).InMark := by
  induction script generalizing mode with
  | nil => exact noMark rfl
  | cons c rest ih =>
    refine ih ?_
    rintro rfl
    exact not_inMark_next mode c

section

variable {ahead : Option Char} (noSlash : ahead ≠ some '/') (noStar : ahead ≠ some '*')

include noSlash noStar

lemma next_ahead (mode : ScriptMode) (c : Char) : mode.next c ahead = mode.next c none := by
  cases mode with
  | code => simp [next, noSlash, noStar]
  | comment block => cases block <;> simp [next, noSlash]
  | quoted | escaped | commentStart | commentEnd => rfl

/-- What follows a script matters only if it completes the mark of a comment. -/
lemma behind_ahead (mode : ScriptMode) (script : Text) :
    mode.behind ahead script = mode.behind none script := by
  induction script generalizing mode with
  | nil => rfl
  | cons c rest ih =>
    rw [behind, behind, ih]
    cases rest with
    | nil => exact congrArg (behind · none []) (next_ahead noSlash noStar mode c)
    | cons d more => rfl

end

section

variable {mode : ScriptMode} {c : Char} (blank : isBlank c = true)

include blank

lemma isQuote_of_isBlank : isQuote c = false := by
  simp [isQuote, ne_of_class blank (d := '\'') (by decide), ne_of_class blank (d := '"') (by decide),
    ne_of_class blank (d := '`') (by decide)]

lemma code_next_of_isBlank (ahead : Option Char) : code.next c ahead = code := by
  simp [next, isQuote_of_isBlank blank, ne_of_class blank (d := '/') (by decide)]

lemma depthAfter_of_isBlank (mode : ScriptMode) (depth : Int) : mode.depthAfter depth c = depth := by
  cases mode with
  | code =>
    simp [depthAfter, ne_of_class blank (d := '\x7b') (by decide),
      ne_of_class blank (d := '\x7d') (by decide)]
  | quoted | escaped | commentStart | comment | commentEnd => rfl

/-- A blank leads to code or into a line comment from there only. -/
lemma next_of_isBlank (valid : mode.Valid) (noMark : ¬ mode.InMark) (ahead : Option Char) :
    ¬ (mode.next c ahead).InMark ∧
      ((mode.next c ahead).ClosedByNewline → mode.ClosedByNewline) := by
  cases mode with
  | code =>
    rw [code_next_of_isBlank blank]
    exact ⟨noMark, id⟩
  | quoted quote =>
    have notQuote : c ≠ quote := by
      rintro rfl
      exact Bool.noConfusion ((isQuote_of_isBlank blank).symm.trans valid)
    have stays : (quoted quote).next c ahead = .quoted quote := by
      simp [next, notQuote, ne_of_class blank (d := '\\') (by decide)]
    rw [stays]
    exact ⟨noMark, id⟩
  | escaped quote => exact ⟨id, fun closed => False.elim closed⟩
  | comment block =>
    cases block with
    | false =>
      refine ⟨?_, fun _ => trivial⟩
      simp only [next]
      split_ifs <;> exact id
    | true =>
      have stays : (comment true).next c ahead = .comment true := by
        simp [next, ne_of_class blank (d := '*') (by decide)]
      rw [stays]
      exact ⟨noMark, id⟩
  | commentStart | commentEnd => exact absurd trivial noMark

end

section

variable {text : Text} (blank : Text.isBlankText text = true)

include blank

lemma code_behind_of_blanks (ahead : Option Char) : code.behind ahead text = code := by
  induction text with
  | nil => rfl
  | cons c rest ih =>
    obtain ⟨first, others⟩ := List.forall_mem_cons.1 (Text.isBlankText_iff.1 blank)
    rw [behind, code_next_of_isBlank first, ih (Text.isBlankText_iff.2 others)]

lemma depthBehind_of_blanks (mode : ScriptMode) (depth : Int) :
    mode.depthBehind depth text = depth := by
  induction text generalizing mode with
  | nil => rfl
  | cons c rest ih =>
    obtain ⟨first, others⟩ := List.forall_mem_cons.1 (Text.isBlankText_iff.1 blank)
    rw [depthBehind, depthAfter_of_isBlank first, ih (Text.isBlankText_iff.2 others)]

/-- Blanks end no literal and no block comment. -/
lemma closedByNewline_of_blanks {mode : ScriptMode} (valid : mode.Valid) (noMark : ¬ mode.InMark)
    {ahead : Option Char} (closed : (mode.behind ahead text).ClosedByNewline) :
    mode.ClosedByNewline := by
  induction text generalizing mode with
  | nil => exact closed
  | cons c rest ih =>
    obtain ⟨first, others⟩ := List.forall_mem_cons.1 (Text.isBlankText_iff.1 blank)
    obtain ⟨stillNoMark, back⟩ := next_of_isBlank first valid noMark (rest.head?.or ahead)
    exact back (ih (Text.isBlankText_iff.2 others) (valid_next valid c _) stillNoMark closed)

end

end ScriptMode

/-! ## Without the blanks around -/

lemma braceLength?_of_blanks {text : Text} (blank : Text.isBlankText text = true)
    (mode : ScriptMode) (depth : Int) : braceLength? mode depth text = none := by
  induction text generalizing mode depth with
  | nil => rfl
  | cons c rest ih =>
    obtain ⟨first, others⟩ := List.forall_mem_cons.1 (Text.isBlankText_iff.1 blank)
    have noBrace : c ≠ '\x7d' := ne_of_class first (by decide)
    rw [braceLength?, if_neg (fun closes => noBrace closes.2.1),
      ih (Text.isBlankText_iff.2 others), Option.map_none]

/-- The script ends inside a line comment. -/
def EndsInLineComment (script : Text) : Prop :=
  ScriptMode.code.behind none script = .comment false

instance : DecidablePred EndsInLineComment :=
  fun _ => inferInstanceAs (Decidable (_ = _))

/-- The script ends at the brace depth at which it starts, outside of literals and of block comments;
so a brace behind it closes it, unless it ends inside a line comment. -/
structure ClosesButForComment (script : Text) : Prop where
  depth : ScriptMode.code.depthBehind 1 script = 1
  mode : ScriptMode.code.behind none script = .code ∨ EndsInLineComment script
  length : braceLength? .code 0 ('\x7b' :: script ++ ['\x7d']) =
    if EndsInLineComment script then none else some (script.length + 2)

/-- What follows a script in front of blanks and a brace completes no mark. -/
lemma ahead_of_blanks {trail : Text} (blank : Text.isBlankText trail = true) {c : Char}
    (noBlank : isBlank c = false) (notBrace : c ≠ '\x7d') :
    trail.head?.or (some '\x7d') ≠ some c := by
  cases trail with
  | nil => exact fun same => notBrace (Option.some.inj same).symm
  | cons d rest =>
    have first := Text.isBlankText_iff.1 blank d List.mem_cons_self
    exact fun same => ne_of_class first noBlank (Option.some.inj same)

/-- **Without the blanks around it, a script is closed by the next brace unless it ends inside a line
comment.** -/
theorem closesButForComment_trim {script : Text} (closes : ClosesInBraces script) :
    ClosesButForComment (Text.trim script) := by
  obtain ⟨lead, trail, blankLead, blankTrail, whole⟩ := Text.exists_trim script
  generalize Text.trim script = trimmed at whole
  obtain ⟨notEarly, ends, level⟩ := closesInBraces_iff.1 closes
  rw [whole, List.append_assoc] at notEarly ends level
  rw [ScriptMode.behind_append, ScriptMode.code_behind_of_blanks blankLead, ScriptMode.behind_append,
    ScriptMode.behind_ahead (ahead_of_blanks blankTrail (by decide) (by decide))
      (ahead_of_blanks blankTrail (by decide) (by decide))] at ends
  rw [ScriptMode.depthBehind_append, ScriptMode.code_behind_of_blanks blankLead,
    ScriptMode.depthBehind_of_blanks blankLead, ScriptMode.depthBehind_append,
    ScriptMode.depthBehind_of_blanks blankTrail] at level
  rw [braceLength?_append, ScriptMode.code_behind_of_blanks blankLead,
    ScriptMode.depthBehind_of_blanks blankLead, braceLength?_of_blanks blankLead, Option.none_or,
    Option.map_eq_none_iff, braceLength?_append, Option.or_eq_none_iff] at notEarly
  have start : ScriptMode.code.Valid ∧ ¬ ScriptMode.code.InMark := ⟨trivial, id⟩
  have closed : (ScriptMode.code.behind none trimmed).ClosedByNewline :=
    ScriptMode.closedByNewline_of_blanks blankTrail (ScriptMode.valid_behind start.1 none trimmed)
      (ScriptMode.not_inMark_behind fun _ => start.2) (ScriptMode.closedByNewline_iff.2 (.inl ends))
  have mode : ScriptMode.code.behind none trimmed = .code ∨ EndsInLineComment trimmed :=
    ScriptMode.closedByNewline_iff.1 closed
  refine ⟨level, mode, ?_⟩
  rw [braceLength?_inBraces notEarly.1, ScriptMode.behind_ahead (by decide) (by decide), level]
  rcases mode with isCode | isComment
  · have noComment : ¬ EndsInLineComment trimmed := fun isComment => nomatch isCode.symm.trans isComment
    rw [if_neg noComment, isCode]
    rfl
  · have noCode : ScriptMode.code.behind none trimmed ≠ .code := fun isCode =>
      nomatch isCode.symm.trans isComment
    rw [if_pos isComment, if_neg fun both => noCode both.1]

end GlassPrompt
