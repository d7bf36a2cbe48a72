import GlassPrompt.Import.Clause
import GlassPrompt.Proofs.Text.Lines
import GlassPrompt.Proofs.Text.Squeeze

/-!
# The parts of an import clause

Braces and commas are no blanks, so a clause whose runs of blanks are squeezed has the same parts, each
squeezed on its own.

* `splitBraced?_append`, `append_of_splitBraced?` — the first part in braces.
* `comma_induction` — a text is a piece without a comma, or such a piece, a comma and a text.
* `commaParts_squeeze`, `commaParts_around` — the parts between commas of a text that is squeezed, or
  has blanks around it.
* `commaParts_listedNames` — a list of names in standard form has the names that it was written from.
* `braces_induction`, `spaceBraces_squeeze_spaceBraces` — the parts in braces one by one, and their
  standard form.
-/

namespace GlassPrompt

open Text

/-! ## The first part in braces -/

section

variable {text before inside after : Text}

/-- The first opening brace and the first closing brace behind it delimit the part. -/
lemma splitBraced?_append (noOpen : '\x7b' ∉ before) (noClose : '\x7d' ∉ inside) :
    splitBraced? (before ++ '\x7b' :: (inside ++ '\x7d' :: after)) = some (before, inside, after) := by
  have outer : before.all (· != '\x7b') = true :=
    List.all_eq_true.2 fun c member => bne_iff_ne.2 fun eq => noOpen (eq ▸ member)
  have inner : inside.all (· != '\x7d') = true :=
    List.all_eq_true.2 fun c member => bne_iff_ne.2 fun eq => noClose (eq ▸ member)
  have stopsOuter : ∀ c ∈ ('\x7b' :: (inside ++ '\x7d' :: after)).head?, (c != '\x7b') = false := by
    simp
  have stopsInner : ∀ c ∈ ('\x7d' :: after).head?, (c != '\x7d') = false := by simp
  rw [splitBraced?, dropWhile_of_stop outer stopsOuter]
  dsimp only
  rw [dropWhile_of_stop inner stopsInner]
  dsimp only
  rw [takeWhile_of_stop outer stopsOuter, takeWhile_of_stop inner stopsInner]

lemma append_of_splitBraced? (h : splitBraced? text = some (before, inside, after)) :
    text = before ++ '\x7b' :: (inside ++ '\x7d' :: after) ∧ '\x7b' ∉ before ∧ '\x7d' ∉ inside := by
  have whole := List.takeWhile_append_dropWhile (p := (· != '\x7b')) (l := text)
  have stops := stops_dropWhile (p := (· != '\x7b')) text
  unfold splitBraced? at h
  split at h
  · exact nomatch h
  · next first opened outer =>
    have wholeInside := List.takeWhile_append_dropWhile (p := (· != '\x7d')) (l := opened)
    have stopsInside := stops_dropWhile (p := (· != '\x7d')) opened
    split at h
    · exact nomatch h
    · next last rest inner =>
      obtain ⟨rfl, rfl, rfl⟩ : _ ∧ _ ∧ _ := by simpa using h
      obtain rfl : first = '\x7b' := by simpa [outer] using stops
      obtain rfl : last = '\x7d' := by simpa [inner] using stopsInside
      refine ⟨?_, fun member => ?_, fun member => ?_⟩
      · rw [← inner, wholeInside, ← outer, whole]
      · exact absurd (List.mem_takeWhile_imp member) (by simp)
      · exact absurd (List.mem_takeWhile_imp member) (by simp)

end

/-! ## Parts between commas -/

/-- A text is a piece without a comma, or such a piece, a comma and a text. -/
theorem comma_induction {motive : Text → Prop}
    (last : ∀ piece, ',' ∉ piece → motive piece)
    (more : ∀ piece rest, ',' ∉ piece → motive rest → motive (piece ++ ',' :: rest))
    (text : Text) : motive text := by
  suffices ∀ lead, ',' ∉ lead → motive (lead ++ text) from this [] List.not_mem_nil
  induction text with
  | nil =>
    intro lead noComma
    rw [List.append_nil]
    exact last lead noComma
  | cons c rest ih =>
    intro lead noComma
    by_cases comma : c = ','
    · rw [comma]
      exact more lead rest noComma (ih [] List.not_mem_nil)
    · rw [← List.singleton_append, ← List.append_assoc]
      exact ih _ (by simp [noComma, Ne.symm comma])

section

variable {piece : Text} (noComma : ',' ∉ piece)

include noComma

lemma commaParts_of_noComma : commaParts piece = [trim piece].filter fun part => !part.isEmpty := by
  rw [commaParts, List.splitOn_eq_singleton noComma, List.map_singleton]

lemma noComma_squeeze : ',' ∉ squeeze piece := fun member =>
  (mem_squeeze member).elim noComma (by decide)

end

lemma commaParts_append_comma (piece rest : Text) :
    commaParts (piece ++ ',' :: rest) = commaParts piece ++ commaParts rest := by
  rw [commaParts, List.splitOn_append_cons_self, List.map_append, List.filter_append]
  rfl

/-- The parts of a squeezed text are the parts of the text, each squeezed. -/
theorem commaParts_squeeze (text : Text) :
    commaParts (squeeze text) = (commaParts text).map squeeze := by
  have single (piece : Text) (noComma : ',' ∉ piece) :
      commaParts (squeeze piece) = (commaParts piece).map squeeze := by
    rw [commaParts_of_noComma noComma, commaParts_of_noComma (noComma_squeeze noComma), ← squeeze_trim]
    cases trim piece with
    | nil => rfl
    | cons c rest =>
      obtain ⟨d, more, eq⟩ := List.exists_cons_of_ne_nil (squeeze_ne_nil (List.cons_ne_nil c rest))
      rw [eq]
      exact congrArg (· :: []) eq.symm
  induction text using comma_induction with
  | last piece noComma => exact single piece noComma
  | more piece rest noComma ih =>
    rw [squeeze_append_cons rfl, commaParts_append_comma, commaParts_append_comma, List.map_append,
      single piece noComma, ih]

section

variable {lead trail : Text} (blankLead : isBlankText lead = true)
  (blankTrail : isBlankText trail = true)

include blankLead blankTrail

lemma commaParts_around_piece {piece : Text} (noComma : ',' ∉ piece) :
    commaParts (lead ++ piece ++ trail) = commaParts piece := by
  have noCommaBlank {blanks : Text} (blank : isBlankText blanks = true) : ',' ∉ blanks :=
    fun member => Bool.false_ne_true (isBlankText_iff.1 blank _ member)
  have whole : ',' ∉ lead ++ piece ++ trail := by
    simp [noCommaBlank blankLead, noCommaBlank blankTrail, noComma]
  rw [commaParts_of_noComma whole, commaParts_of_noComma noComma, trim_of_blanks blankLead blankTrail]

/-- Blanks around a text do not change its parts. -/
theorem commaParts_around (text : Text) : commaParts (lead ++ text ++ trail) = commaParts text := by
  induction text using comma_induction generalizing lead with
  | last piece noComma => exact commaParts_around_piece blankLead blankTrail noComma
  | more piece rest noComma ih =>
    have first := commaParts_around_piece blankLead isBlankText_nil noComma
    have split : lead ++ (piece ++ ',' :: rest) ++ trail =
        (lead ++ piece ++ []) ++ ',' :: ([] ++ rest ++ trail) := by simp
    rw [split, commaParts_append_comma, commaParts_append_comma, first, ih rfl]

end

/-- A part is not empty, has no blanks at its ends and no commas. -/
structure IsPart (part : Text) : Prop where
  nonempty : part ≠ []
  trimmed : trim part = part
  noComma : ',' ∉ part

lemma mem_commaParts {text part : Text} (member : part ∈ commaParts text) :
    IsPart part ∧ ∀ c ∈ part, c ∈ text := by
  obtain ⟨trimmed, nonempty⟩ := List.mem_filter.1 member
  obtain ⟨piece, split, rfl⟩ := List.mem_map.1 trimmed
  rw [List.splitOn_eq_splitOnP] at split
  have inside (c : Char) (member : c ∈ trim piece) : c ∈ text ∧ (c == ',') = false :=
    mem_of_mem_splitOnP split c (mem_of_mem_trim member)
  refine ⟨⟨by simpa using nonempty, trim_trim piece, fun comma => ?_⟩,
    fun c member => (inside c member).1⟩
  exact Bool.noConfusion (inside ',' comma).2

/-- The parts of a list that was written with commas are the parts that it was written from. -/
lemma commaParts_intercalate {parts : List Text} (all : ∀ part ∈ parts, IsPart part) :
    commaParts ([',', ' '].intercalate parts) = parts := by
  induction parts with
  | nil => rfl
  | cons part more ih =>
    obtain ⟨isPart, others⟩ := List.forall_mem_cons.1 all
    have single : commaParts part = [part] := by
      rw [commaParts_of_noComma isPart.noComma, isPart.trimmed]
      simp [isPart.nonempty]
    cases more with
    | nil => rw [List.intercalate_singleton, single]
    | cons second more =>
      have space : isBlankText [' '] = true := rfl
      have behind := commaParts_around space isBlankText_nil
        ([',', ' '].intercalate (second :: more))
      rw [List.append_nil, ih others] at behind
      rw [List.intercalate_cons_cons, List.append_assoc, List.cons_append, commaParts_append_comma,
        single, behind, List.singleton_append]

/-! ## The standard form of the parts in braces -/

/-- What stands in the braces of a list of names in standard form. -/
def listedNames (inside : Text) : Text :=
  [' '] ++ [',', ' '].intercalate (commaParts inside) ++ [' ']

lemma bracedNames_eq (inside : Text) :
    bracedNames inside = '\x7b' :: (listedNames inside ++ ['\x7d']) := by
  show ['\x7b', ' '] ++ _ ++ [' ', '\x7d'] = _
  simp [listedNames]

/-- **A list of names in standard form has the names that it was written from.** -/
theorem commaParts_listedNames (inside : Text) :
    commaParts (listedNames inside) = commaParts inside := by
  rw [listedNames, commaParts_around rfl rfl]
  exact commaParts_intercalate fun part member => (mem_commaParts member).1

lemma mem_intercalate {separator : Text} {parts : List Text} {c : Char}
    (member : c ∈ separator.intercalate parts) : c ∈ separator ∨ ∃ part ∈ parts, c ∈ part := by
  induction parts with
  | nil => exact absurd member List.not_mem_nil
  | cons part more ih =>
    cases more with
    | nil =>
      rw [List.intercalate_singleton] at member
      exact .inr ⟨part, List.mem_cons_self, member⟩
    | cons second more =>
      rw [List.intercalate_cons_cons] at member
      rcases List.mem_append.1 member with first | later
      · rcases List.mem_append.1 first with inside | between
        · exact .inr ⟨part, List.mem_cons_self, inside⟩
        · exact .inl between
      · exact (ih later).imp_right fun ⟨other, found, inside⟩ =>
          ⟨other, List.mem_cons_of_mem _ found, inside⟩

lemma mem_listedNames {inside : Text} {c : Char} (member : c ∈ listedNames inside) :
    c ∈ inside ∨ c = ' ' ∨ c = ',' := by
  rw [listedNames, List.mem_append, List.mem_append] at member
  rcases member with (space | listed) | space
  · exact .inr (.inl (List.mem_singleton.1 space))
  · rcases mem_intercalate listed with separator | ⟨part, found, inPart⟩
    · exact .inr (by simpa [or_comm] using separator)
    · exact .inl ((mem_commaParts found).2 c inPart)
  · exact .inr (.inl (List.mem_singleton.1 space))

section

variable {before inside : Text} (noOpen : '\x7b' ∉ before) (noClose : '\x7d' ∉ inside)

include noOpen noClose

lemma spaceBraces_append (after : Text) :
    spaceBraces (before ++ '\x7b' :: (inside ++ '\x7d' :: after)) =
      before ++ '\x7b' :: (listedNames inside ++ '\x7d' :: spaceBraces after) := by
  have split : splitBraced? (before ++ '\x7b' :: (inside ++ '\x7d' :: after)) =
      some (before, inside, after) := splitBraced?_append noOpen noClose
  rw [spaceBraces]
  split
  · next none => exact absurd (split.symm.trans none) (Option.some_ne_none _)
  · next some =>
    rw [split] at some
    obtain ⟨rfl, rfl, rfl⟩ : _ ∧ _ ∧ _ := by simpa using some
    simp [bracedNames_eq]

end

lemma spaceBraces_of_none {text : Text} (none : splitBraced? text = none) :
    spaceBraces text = text := by
  rw [spaceBraces]
  split
  · rfl
  · next some => exact absurd (some.symm.trans none) (Option.some_ne_none _)

/-- A text has no part in braces, or it goes on behind its first one. -/
theorem braces_induction {motive : Text → Prop}
    (last : ∀ text, splitBraced? text = none → motive text)
    (more : ∀ before inside after, '\x7b' ∉ before → '\x7d' ∉ inside → motive after →
      motive (before ++ '\x7b' :: (inside ++ '\x7d' :: after)))
    (text : Text) : motive text := by
  induction text using spaceBraces.induct with
  | case1 text none => exact last text none
  | case2 text before inside after some ih =>
    obtain ⟨rfl, noOpen, noClose⟩ := append_of_splitBraced? some
    exact more before inside after noOpen noClose ih

lemma mem_spaceBraces {text : Text} {c : Char} (member : c ∈ spaceBraces text) :
    c ∈ text ∨ c = ' ' ∨ c = ',' := by
  induction text using braces_induction with
  | last text none => exact .inl (spaceBraces_of_none none ▸ member)
  | more before inside after noOpen noClose ih =>
    rw [spaceBraces_append noOpen noClose] at member
    simp only [List.mem_append, List.mem_cons] at member ⊢
    rcases member with ahead | brace | listed | brace | behind
    · exact .inl (.inl ahead)
    · exact .inl (.inr (.inl brace))
    · exact (mem_listedNames listed).imp_left fun found => .inr (.inr (.inl found))
    · exact .inl (.inr (.inr (.inr (.inl brace))))
    · exact (ih behind).imp_left fun found => .inr (.inr (.inr (.inr found)))

/-- The standard form of the parts in braces keeps the first character. -/
lemma head?_spaceBraces (text : Text) : (spaceBraces text).head? = text.head? := by
  induction text using braces_induction with
  | last text none => rw [spaceBraces_of_none none]
  | more before inside after noOpen noClose ih =>
    rw [spaceBraces_append noOpen noClose]
    cases before <;> rfl

/-- The standard form of the parts in braces keeps the last character. -/
lemma getLast?_spaceBraces (text : Text) : (spaceBraces text).getLast? = text.getLast? := by
  induction text using braces_induction with
  | last text none => rw [spaceBraces_of_none none]
  | more before inside after noOpen noClose ih =>
    rw [spaceBraces_append noOpen noClose]
    simp [List.getLast?_append, List.getLast?_cons, ih]

/-- **Squeezing undoes nothing of the standard form but double spaces, and those come back.** -/
theorem spaceBraces_squeeze_spaceBraces (text : Text) :
    spaceBraces (squeeze (spaceBraces text)) = spaceBraces (squeeze text) := by
  have noOpenSqueeze {part : Text} (noOpen : '\x7b' ∉ part) : '\x7b' ∉ squeeze part :=
    fun member => (mem_squeeze member).elim noOpen (by decide)
  have noCloseSqueeze {part : Text} (noClose : '\x7d' ∉ part) : '\x7d' ∉ squeeze part :=
    fun member => (mem_squeeze member).elim noClose (by decide)
  induction text using braces_induction with
  | last text none => rw [spaceBraces_of_none none]
  | more before inside after noOpen noClose ih =>
    have noCloseListed : '\x7d' ∉ listedNames inside := fun member =>
      (mem_listedNames member).elim noClose (by decide)
    have names : listedNames (squeeze (listedNames inside)) = listedNames (squeeze inside) := by
      rw [listedNames, commaParts_squeeze, commaParts_listedNames, ← commaParts_squeeze, listedNames]
    rw [spaceBraces_append noOpen noClose, squeeze_append_cons rfl, squeeze_append_cons rfl,
      spaceBraces_append (noOpenSqueeze noOpen) (noCloseSqueeze noCloseListed), names, ih,
      squeeze_append_cons rfl, squeeze_append_cons rfl,
      spaceBraces_append (noOpenSqueeze noOpen) (noCloseSqueeze noClose)]

end GlassPrompt
