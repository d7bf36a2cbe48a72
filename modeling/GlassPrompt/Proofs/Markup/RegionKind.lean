import GlassPrompt.Proofs.Markup.TokenStream
import GlassPrompt.Proofs.Text.Trim

/-!
# What a region is does not depend on the blanks around its script

An expression is kept without the blanks around it, and statements are kept as they stand.  The two are
told apart by their words, which blanks do not change.

* `startsStatement_of_blanks`, `hasBlock_of_blanks` — the two tests do not see the blanks around a
  script.
* `ofSource_trim` — a script and its trimmed text are of one kind.
* `kind_of_mem_scan` — every region of a scan is of the kind of its source.
-/

namespace GlassPrompt

/-! ## Statements -/

section

variable {lead trail : Text}

/-- Whether `function` follows at least one blank; blanks behind the text do not matter. -/
lemma functionFollows_append (blank : Text.isBlankText trail = true) (rest : Text) :
    ((rest ++ trail).head?.any isBlank &&
        (Text.trimStart (rest ++ trail)).takeWhile isWord == "function".toList) =
      (rest.head?.any isBlank && (Text.trimStart rest).takeWhile isWord == "function".toList) := by
  rw [Text.firstWord_trimStart_append blank]
  cases rest with
  | nil => exact Bool.and_false _
  | cons c rest => rfl

theorem startsStatement_of_blanks (blankLead : Text.isBlankText lead = true)
    (blankTrail : Text.isBlankText trail = true) (script : Text) :
    startsStatement (lead ++ script ++ trail) = startsStatement script := by
  have start : Text.trimStart (lead ++ script ++ trail) = Text.trimStart (script ++ trail) := by
    rw [List.append_assoc, Text.trimStart_of_blank blankLead]
  unfold startsStatement
  rw [start, Text.trimStart_append blankTrail]
  split
  · next empty => rw [List.isEmpty_iff.1 empty]
  · dsimp only
    rw [Text.takeWhile_isWord_append blankTrail, Text.dropWhile_isWord_append blankTrail,
      Bool.and_assoc, functionFollows_append blankTrail, Bool.and_assoc]

/-! ## Blocks -/

lemma startsBlockWord_append (blank : Text.isBlankText trail = true) (script : Text) :
    startsBlockWord (script ++ trail) = startsBlockWord script := by
  unfold startsBlockWord
  rw [Text.takeWhile_isWord_append blank, Text.dropWhile_isWord_append blank,
    Text.head?_trimStart_append blank]

lemma startsBlockWord_of_blank {c : Char} (blank : isBlank c = true) (rest : Text) :
    startsBlockWord (c :: rest) = false := by
  have word : (c :: rest).takeWhile isWord = [] :=
    List.takeWhile_cons_of_neg (by simp [isWord_of_isBlank blank])
  unfold startsBlockWord
  rw [word]
  rfl

lemma startsArrowBody_cons (first second : Char) (rest : Text) :
    startsArrowBody (first :: second :: rest) =
      (first == '=' && second == '>' && (Text.trimStart rest).head? == some '\x7b') := by
  unfold startsArrowBody
  split
  · next arrow =>
    obtain ⟨rfl, rfl, rfl⟩ : first = '=' ∧ second = '>' ∧ rest = _ := by simpa using arrow
    rfl
  · next noArrow =>
    by_cases isArrow : first = '=' ∧ second = '>'
    · exact absurd (by rw [isArrow.1, isArrow.2]) (noArrow rest)
    · simp only [Bool.false_eq, Bool.and_eq_false_iff, beq_eq_false_iff_ne]
      exact .inl (not_and_or.1 isArrow)

lemma startsArrowBody_of_blank {c : Char} (blank : isBlank c = true) (rest : Text) :
    startsArrowBody (c :: rest) = false := by
  have notArrow : c ≠ '=' := by
    rintro rfl
    exact absurd blank (by decide)
  cases rest with
  | nil => simp [startsArrowBody]
  | cons second rest => simp [startsArrowBody_cons, notArrow]

lemma startsArrowBody_append (blank : Text.isBlankText trail = true) (script : Text) :
    startsArrowBody (script ++ trail) = startsArrowBody script := by
  rcases script with _ | ⟨first, _ | ⟨second, rest⟩⟩
  · cases trail with
    | nil => rfl
    | cons c rest =>
      exact startsArrowBody_of_blank (Text.isBlankText_iff.1 blank c List.mem_cons_self) rest
  · cases trail with
    | nil => rfl
    | cons c rest =>
      have notArrow : c ≠ '>' := by
        rintro rfl
        exact absurd (Text.isBlankText_iff.1 blank _ List.mem_cons_self) (by decide)
      rw [List.singleton_append, startsArrowBody_cons]
      simp [notArrow, startsArrowBody]
  · rw [List.cons_append, List.cons_append, startsArrowBody_cons, startsArrowBody_cons,
      Text.head?_trimStart_append blank]

lemma hasBlock_of_blank {c : Char} (blank : isBlank c = true) (inWord : Bool) (rest : Text) :
    hasBlock inWord (c :: rest) = hasBlock false rest := by
  rw [hasBlock, startsBlockWord_of_blank blank, startsArrowBody_of_blank blank,
    isWord_of_isBlank blank, Bool.and_false, Bool.false_or, Bool.false_or]

lemma hasBlock_append (blank : Text.isBlankText trail = true) (inWord : Bool) (script : Text) :
    hasBlock inWord (script ++ trail) = hasBlock inWord script := by
  induction script generalizing inWord with
  | nil =>
    rw [List.nil_append]
    induction trail generalizing inWord with
    | nil => rfl
    | cons c rest ih =>
      obtain ⟨first, others⟩ := List.forall_mem_cons.1 (Text.isBlankText_iff.1 blank)
      rw [hasBlock_of_blank first, ih (Text.isBlankText_iff.2 others)]
      rfl
  | cons c rest ih =>
    have word := startsBlockWord_append blank (c :: rest)
    have arrow := startsArrowBody_append blank (c :: rest)
    rw [List.cons_append] at word arrow ⊢
    rw [hasBlock, hasBlock, word, arrow, ih]

theorem hasBlock_of_blanks (blankLead : Text.isBlankText lead = true)
    (blankTrail : Text.isBlankText trail = true) (script : Text) :
    hasBlock false (lead ++ script ++ trail) = hasBlock false script := by
  rw [hasBlock_append blankTrail]
  induction lead with
  | nil => rfl
  | cons c rest ih =>
    obtain ⟨first, others⟩ := List.forall_mem_cons.1 (Text.isBlankText_iff.1 blankLead)
    rw [List.cons_append, hasBlock_of_blank first, ih (Text.isBlankText_iff.2 others)]

end

/-! ## Kinds -/

/-- **A script and its trimmed text are of one kind.** -/
theorem ofSource_trim (script : Text) :
    RegionKind.ofSource (Text.trim script) = RegionKind.ofSource script := by
  obtain ⟨lead, trail, blankLead, blankTrail, whole⟩ := Text.exists_trim script
  have trimmed : Text.trim script = Text.trim (Text.trim script) := by
    conv_lhs => rw [whole, Text.trim_of_blanks blankLead blankTrail]
  have statement : startsStatement script = startsStatement (Text.trim script) := by
    conv_lhs => rw [whole, startsStatement_of_blanks blankLead blankTrail]
  have block : hasBlock false script = hasBlock false (Text.trim script) := by
    conv_lhs => rw [whole, hasBlock_of_blanks blankLead blankTrail]
  rw [RegionKind.ofSource, RegionKind.ofSource, statement, block, ← trimmed]

/-- **Every region of a scan is of the kind of its source.** -/
theorem kind_of_mem_scan {text : Text} {start : Nat} {region : Region}
    (member : Token.region region ∈ scan text start) :
    region.kind = RegionKind.ofSource region.source := by
  obtain ⟨c, rest, -, found⟩ := readToken_of_mem_scan member
  obtain ⟨-, n, -, eq⟩ := braceLength?_of_readToken found
  rw [eq]

end GlassPrompt
