import GlassPrompt.Proofs.Text.Trim

/-!
# Runs of blanks

Words joined by single spaces are what is left of a text when each run of blanks becomes one space and
the ends are trimmed.  Squeezing the runs can be followed piece by piece, since it splits at every
character that is no blank, which the list of words does not.

* `Text.squeeze` — each run of blanks as one space; `Text.squeeze_append_cons` splits it at a character
  that is no blank.
* `Text.squeeze_trim`, `Text.squeeze_squeeze` — squeezing and trimming in either order, and squeezing
  twice.
* `Text.intercalate_words` — the words of a text joined by single spaces.
-/

namespace GlassPrompt

namespace Text

/-- The text with one space for each run of blanks; of a run, the last blank is the one written. -/
def squeeze : Text → Text
  | [] => []
  | c :: rest =>
    if isBlank c then
      if rest.head?.any isBlank then squeeze rest else ' ' :: squeeze rest
    else c :: squeeze rest

/-! ## Ends of a text -/

lemma isBlankText_nil : isBlankText [] = true := rfl

/-- A trimmed text does not start with a blank. -/
lemma isBlank_of_trim_cons {text rest : Text} {c : Char} (starts : trim text = c :: rest) :
    isBlank c = false := by
  obtain ⟨trail, -, eq⟩ := exists_trimEnd (trimStart text)
  refine stops_dropWhile text c ?_
  show (trimStart text).head? = some c
  rw [eq, show trimEnd (trimStart text) = c :: rest from starts]
  rfl

lemma mem_of_mem_trim {text : Text} {c : Char} (member : c ∈ trim text) : c ∈ text := by
  obtain ⟨lead, trail, -, -, eq⟩ := exists_trim text
  rw [eq]
  simp [member]

lemma trim_trim (text : Text) : trim (trim text) = trim text := by
  obtain ⟨lead, trail, blankLead, blankTrail, eq⟩ := exists_trim text
  have around := trim_of_blanks blankLead blankTrail (trim text)
  rw [← eq] at around
  exact around.symm

lemma trimEnd_cons (c : Char) (rest : Text) : trimEnd (c :: rest) =
    if isBlank c = true ∧ trimEnd rest = [] then [] else c :: trimEnd rest := by
  simp only [trimEnd, List.reverse_eq_nil_iff, List.reverse_cons, List.dropWhile_append,
    List.isEmpty_iff]
  by_cases empty : rest.reverse.dropWhile isBlank = []
  · cases blank : isBlank c <;> simp [empty, blank]
  · simp [empty]

lemma trimEnd_cons_of_noBlank {c : Char} (noBlank : isBlank c = false) (rest : Text) :
    trimEnd (c :: rest) = c :: trimEnd rest := by
  rw [trimEnd_cons, if_neg (by simp [noBlank])]

lemma trimEnd_concat {c : Char} (noBlank : isBlank c = false) (start : Text) :
    trimEnd (start ++ [c]) = start ++ [c] := by
  simp [trimEnd, noBlank]

lemma trimStart_append_cons {c : Char} (noBlank : isBlank c = false) (lead rest : Text) :
    trimStart (lead ++ c :: rest) = trimStart lead ++ c :: rest := by
  rw [trimStart, List.dropWhile_append, List.dropWhile_cons_of_neg (by simp [noBlank]), trimStart]
  split
  · next empty => rw [List.isEmpty_iff.1 empty, List.nil_append]
  · rfl

lemma trimStart_trimStart (text : Text) : trimStart (trimStart text) = trimStart text :=
  dropWhile_of_stop isBlankText_nil (stops_dropWhile text)

/-! ## One character -/

section

variable {c : Char}

lemma squeeze_cons_of_noBlank (noBlank : isBlank c = false) (rest : Text) :
    squeeze (c :: rest) = c :: squeeze rest := by
  rw [squeeze, if_neg (by simp [noBlank])]

/-- A blank and the blanks behind it are one space. -/
lemma squeeze_cons_of_blank (blank : isBlank c = true) (rest : Text) :
    squeeze (c :: rest) = ' ' :: trimStart (squeeze rest) := by
  induction rest generalizing c with
  | nil => simp [squeeze, blank, trimStart]
  | cons d rest ih =>
    rw [squeeze, if_pos blank, List.head?_cons, Option.any_some]
    cases next : isBlank d with
    | true =>
      rw [if_pos rfl, ih next]
      exact congrArg (' ' :: ·) (trimStart_trimStart (squeeze rest)).symm
    | false =>
      rw [if_neg Bool.false_ne_true, squeeze_cons_of_noBlank next, trimStart_of_noBlank next]

end

lemma isBlank_head?_squeeze (text : Text) :
    (squeeze text).head?.any isBlank = text.head?.any isBlank := by
  cases text with
  | nil => rfl
  | cons c rest =>
    cases first : isBlank c with
    | true => rw [squeeze_cons_of_blank first]; exact first.symm
    | false => rw [squeeze_cons_of_noBlank first]; rfl

lemma squeeze_ne_nil {text : Text} (nonempty : text ≠ []) : squeeze text ≠ [] := by
  obtain ⟨c, rest, rfl⟩ := List.exists_cons_of_ne_nil nonempty
  cases first : isBlank c with
  | true => rw [squeeze_cons_of_blank first]; exact List.cons_ne_nil _ _
  | false => rw [squeeze_cons_of_noBlank first]; exact List.cons_ne_nil _ _

/-- The only new character is the space. -/
lemma mem_squeeze {text : Text} {c : Char} (member : c ∈ squeeze text) : c ∈ text ∨ c = ' ' := by
  induction text with
  | nil => exact absurd member List.not_mem_nil
  | cons d rest ih =>
    have later (inside : c ∈ squeeze rest) : c ∈ d :: rest ∨ c = ' ' :=
      (ih inside).imp_left (List.mem_cons_of_mem d)
    rw [squeeze] at member
    split at member
    · split at member
      · exact later member
      · rcases List.mem_cons.1 member with rfl | inside
        · exact .inr rfl
        · exact later inside
    · rcases List.mem_cons.1 member with rfl | inside
      · exact .inl List.mem_cons_self
      · exact later inside

lemma isBlankText_squeeze {text : Text} (blank : isBlankText text = true) :
    isBlankText (squeeze text) = true := by
  refine isBlankText_iff.2 fun c member => ?_
  rcases mem_squeeze member with inside | rfl
  · exact isBlankText_iff.1 blank c inside
  · rfl

lemma squeeze_of_blank {text : Text} (nonempty : text ≠ []) (blank : isBlankText text = true) :
    squeeze text = [' '] := by
  obtain ⟨c, rest, rfl⟩ := List.exists_cons_of_ne_nil nonempty
  obtain ⟨first, later⟩ := List.forall_mem_cons.1 (isBlankText_iff.1 blank)
  have nothing : trimStart (squeeze rest) = [] :=
    List.dropWhile_eq_nil_iff.2 (isBlankText_iff.1 (isBlankText_squeeze (isBlankText_iff.2 later)))
  rw [squeeze_cons_of_blank first, nothing]

lemma squeeze_append_of_noBlank {word : Text} (noBlank : ∀ c ∈ word, isBlank c = false) (rest : Text) :
    squeeze (word ++ rest) = word ++ squeeze rest := by
  induction word with
  | nil => rfl
  | cons c more ih =>
    obtain ⟨first, later⟩ := List.forall_mem_cons.1 noBlank
    rw [List.cons_append, squeeze_cons_of_noBlank first, ih later, List.cons_append]

/-! ## Pieces of a text -/

/-- **Squeezing splits at a character that is no blank.** -/
theorem squeeze_append_cons {c : Char} (noBlank : isBlank c = false) (lead rest : Text) :
    squeeze (lead ++ c :: rest) = squeeze lead ++ c :: squeeze rest := by
  induction lead with
  | nil => exact squeeze_cons_of_noBlank noBlank rest
  | cons d lead ih =>
    have next : (lead ++ c :: rest).head?.any isBlank = lead.head?.any isBlank := by
      cases lead with
      | nil => exact noBlank
      | cons e more => rfl
    rw [List.cons_append, squeeze, squeeze, ih, next]
    split
    · split <;> rfl
    · rfl

/-- Squeezing a trimmed text keeps its ends, and so does squeezing it between blanks. -/
lemma squeeze_around_trim (text : Text) : ∃ lead trail, isBlankText lead = true ∧
    isBlankText trail = true ∧ squeeze text = lead ++ squeeze (trim text) ++ trail ∧
    trim (squeeze (trim text)) = squeeze (trim text) := by
  obtain ⟨lead, trail, blankLead, blankTrail, eq⟩ := exists_trim text
  rcases List.eq_nil_or_concat' (trim text) with nothing | ⟨start, d, ends⟩
  · have blank : isBlankText text = true := by
      rw [eq, nothing, List.append_nil, isBlankText, List.all_append, Bool.and_eq_true]
      exact ⟨blankLead, blankTrail⟩
    refine ⟨squeeze text, [], isBlankText_squeeze blank, rfl, ?_, ?_⟩
    · rw [nothing, squeeze, List.append_nil, List.append_nil]
    · rw [nothing]
      rfl
  · obtain ⟨c, rest, starts⟩ : ∃ c rest, trim text = c :: rest :=
      List.exists_cons_of_ne_nil (by simp [ends])
    have first := isBlank_of_trim_cons starts
    have last := isBlank_of_trim ends
    have front : squeeze (lead ++ (trim text ++ trail)) =
        squeeze lead ++ squeeze (trim text ++ trail) := by
      rw [starts, List.cons_append, squeeze_append_cons first, squeeze_cons_of_noBlank first]
    have back : squeeze (trim text ++ trail) = squeeze (trim text) ++ squeeze trail := by
      rw [ends, List.append_assoc, List.singleton_append, squeeze_append_cons last,
        squeeze_append_cons last, List.append_assoc]
      rfl
    refine ⟨squeeze lead, squeeze trail, isBlankText_squeeze blankLead,
      isBlankText_squeeze blankTrail, ?_, trim_of_noBlank ?_ ?_⟩
    · rw [List.append_assoc, ← back, ← front, ← List.append_assoc, ← eq]
    · rw [starts, squeeze_cons_of_noBlank first]
      rintro _ ⟨⟩
      exact first
    · rw [ends, squeeze_append_cons last, squeeze, List.getLast?_concat]
      rintro _ ⟨⟩
      exact last

/-- Squeezing and trimming can be done in either order. -/
theorem squeeze_trim (text : Text) : squeeze (trim text) = trim (squeeze text) := by
  obtain ⟨lead, trail, blankLead, blankTrail, eq, trimmed⟩ := squeeze_around_trim text
  rw [eq, trim_of_blanks blankLead blankTrail, trimmed]

/-- Squeezing twice is squeezing once. -/
theorem squeeze_squeeze (text : Text) : squeeze (squeeze text) = squeeze text := by
  induction text with
  | nil => rfl
  | cons c rest ih =>
    cases first : isBlank c with
    | true =>
      rw [squeeze, if_pos first]
      split
      · exact ih
      · next behind =>
        rw [squeeze, isBlank_head?_squeeze, if_neg behind, ih]
        rfl
    | false => rw [squeeze_cons_of_noBlank first, squeeze_cons_of_noBlank first, ih]

/-! ## Words -/

/-- Words end at a blank. -/
lemma words_append_cons {c : Char} (blank : isBlank c = true) (lead rest : Text) :
    words (lead ++ c :: rest) = words lead ++ words rest := by
  rw [words, List.splitOnP_append_cons lead rest blank, List.filter_append]
  rfl

lemma words_cons {c : Char} (blank : isBlank c = true) (rest : Text) :
    words (c :: rest) = words rest :=
  words_append_cons blank [] rest

/-- A character that is no blank belongs to the word behind it. -/
lemma words_cons_cons {c d : Char} (first : isBlank c = false) (second : isBlank d = false)
    (rest : Text) : ∃ word more,
      words (d :: rest) = (d :: word) :: more ∧ words (c :: d :: rest) = (c :: d :: word) :: more := by
  obtain ⟨word, more, split⟩ := List.exists_cons_of_ne_nil (List.splitOnP_ne_nil isBlank rest)
  refine ⟨word, more.filter fun word => !word.isEmpty, ?_, ?_⟩
  · simp [words, List.splitOnP_cons_eq_if_modifyHead, second, split]
  · simp [words, List.splitOnP_cons_eq_if_modifyHead, first, second, split]

/-- No word is empty, so words joined by spaces are not. -/
lemma intercalate_ne_nil {text word : Text} {more : List Text} (split : words text = word :: more) :
    [' '].intercalate (word :: more) ≠ [] := by
  have member : word ∈ words text := split ▸ List.mem_cons_self
  obtain ⟨c, rest, rfl⟩ := List.exists_cons_of_ne_nil (l := word) (by
    simpa using (List.mem_filter.1 member).2)
  rw [List.intercalate_cons_cons_left]
  exact List.cons_ne_nil _ _

lemma trim_squeeze_cons {c : Char} (blank : isBlank c = true) (rest : Text) :
    trim (squeeze (c :: rest)) = trim (squeeze rest) := by
  have space : isBlankText [' '] = true := rfl
  rw [squeeze_cons_of_blank blank, ← List.singleton_append, trim, trimStart_of_blank space,
    trimStart_trimStart, trim]

/-- **The words of a text joined by single spaces are the text with its runs of blanks squeezed and
its ends trimmed.** -/
theorem intercalate_words (text : Text) : [' '].intercalate (words text) = squeeze (trim text) := by
  rw [squeeze_trim]
  induction text with
  | nil => rfl
  | cons c rest ih =>
    cases first : isBlank c with
    | true => rw [words_cons first, trim_squeeze_cons first, ih]
    | false =>
      have single : words [c] = [[c]] := by
        simp [words, List.splitOnP_cons_eq_if_modifyHead, first]
      rw [squeeze_cons_of_noBlank first, trim, trimStart_of_noBlank first,
        trimEnd_cons_of_noBlank first]
      cases rest with
      | nil => rw [single, List.intercalate_singleton]; rfl
      | cons d rest =>
        cases second : isBlank d with
        | true =>
          rw [words_cons second, trim_squeeze_cons second, trim] at ih
          rw [show c :: d :: rest = [c] ++ d :: rest from rfl, words_append_cons second, single,
            List.singleton_append, squeeze_cons_of_blank second, trimEnd_cons, ← ih]
          cases later : words rest with
          | nil => rw [List.intercalate_singleton, if_pos ⟨rfl, List.intercalate_nil⟩]
          | cons word more =>
            rw [if_neg fun both => intercalate_ne_nil later both.2, List.intercalate_cons_cons]
            rfl
        | false =>
          obtain ⟨word, more, behind, whole⟩ := words_cons_cons first second rest
          rw [behind, squeeze_cons_of_noBlank second, trim, trimStart_of_noBlank second] at ih
          rw [whole, List.intercalate_cons_cons_left, ih, squeeze_cons_of_noBlank second]

end Text

end GlassPrompt
