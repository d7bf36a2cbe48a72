import GlassPrompt.Text.Blank
import GlassPrompt.Text.Word
import Mathlib.Data.List.TakeWhile
import Mathlib.Tactic

/-!
# Blanks around a text

What reads a text word by word does not see the blanks around it.

* `isWord_of_isBlank`, `isNameRest_of_isBlank` — no blank is a character of a word or a name.
* `takeWhile_of_stop`, `dropWhile_of_stop` — characters of a class, read up to one that is not in it;
  `dropWhile_ne_cases` — a text, read up to a character.
* `Text.exists_trim`, `Text.trim_of_blanks` — a text is its trimmed text between blanks, and blanks
  around a text do not change what is left of it.
* `Text.takeWhile_isWord_append`, `Text.dropWhile_isWord_append`, `Text.trimStart_append` — words and
  what follows them, read in front of blanks.
-/

namespace GlassPrompt

/-! ## Characters of words and names -/

/-- The code points of the blanks. -/
def blankPoints : List Nat :=
  List.range' 0x09 5 ++ List.range' 0x1C 5 ++ [0x85, 0xA0, 0x1680] ++ List.range' 0x2000 11 ++
    [0x2028, 0x2029, 0x202F, 0x205F, 0x3000]

lemma mem_blankPoints {c : Char} (blank : isBlank c = true) : c.toNat ∈ blankPoints := by
  simp only [isBlank, Bool.or_eq_true, Bool.and_eq_true, decide_eq_true_eq, beq_iff_eq] at blank
  simp only [blankPoints, List.mem_append, List.mem_range'_1, List.mem_cons, List.not_mem_nil]
  omega

/-- No blank is a word character. -/
theorem isWord_of_isBlank {c : Char} (blank : isBlank c = true) : isWord c = false := by
  have points : ∀ n ∈ blankPoints, isWord (Char.ofNat n) = false := by decide +kernel
  rw [← Char.ofNat_toNat c]
  exact points c.toNat (mem_blankPoints blank)

lemma isNameRest_of_isNameStart {c : Char} (h : isNameStart c = true) : isNameRest c = true := by
  simp only [isNameStart, Bool.or_eq_true] at h
  rcases h with (letter | underscore) | dollar
  · simp [isNameRest, isWord, Char.isAlphanum, letter]
  · simp [isNameRest, isWord, underscore]
  · simp [isNameRest, dollar]

/-- No blank goes on a name. -/
lemma isNameRest_of_isBlank {c : Char} (blank : isBlank c = true) : isNameRest c = false := by
  rw [isNameRest, isWord_of_isBlank blank, Bool.false_or, beq_eq_false_iff_ne]
  rintro rfl
  exact Bool.noConfusion blank

lemma isBlank_of_isIndent {c : Char} (indent : isIndent c = true) : isBlank c = true := by
  rw [isIndent, Bool.or_eq_true, beq_iff_eq, beq_iff_eq] at indent
  rcases indent with rfl | rfl <;> rfl

/-! ## Reading up to a character -/

section

variable {p : Char → Bool} {name behind : Text}

lemma takeWhile_of_stop (all : name.all p = true) (stops : ∀ c ∈ behind.head?, p c = false) :
    (name ++ behind).takeWhile p = name := by
  rw [List.takeWhile_append_of_pos (List.all_eq_true.1 all)]
  cases behind with
  | nil => exact List.append_nil name
  | cons c rest =>
    rw [List.takeWhile_cons_of_neg (by simp [stops c rfl]), List.append_nil]

lemma dropWhile_of_stop (all : name.all p = true) (stops : ∀ c ∈ behind.head?, p c = false) :
    (name ++ behind).dropWhile p = behind := by
  rw [List.dropWhile_append_of_pos (List.all_eq_true.1 all)]
  cases behind with
  | nil => rfl
  | cons c rest => exact List.dropWhile_cons_of_neg (by simp [stops c rfl])

lemma stops_dropWhile (text : Text) : ∀ c ∈ (text.dropWhile p).head?, p c = false := by
  intro c first
  have noneOf := List.head?_dropWhile_not p text
  rw [first] at noneOf
  exact noneOf

/-- A text is read to its end, or up to the first place of a character. -/
lemma dropWhile_ne_cases (d : Char) (text : Text) :
    (d ∉ text ∧ text.dropWhile (· != d) = []) ∨
      ∃ before rest, text = before ++ d :: rest ∧ d ∉ before ∧ text.takeWhile (· != d) = before ∧
        text.dropWhile (· != d) = d :: rest := by
  have whole := List.takeWhile_append_dropWhile (p := (· != d)) (l := text)
  have absent : d ∉ text.takeWhile (· != d) := fun member => by
    simpa using List.mem_takeWhile_imp member
  cases behind : text.dropWhile (· != d) with
  | nil =>
    rw [behind, List.append_nil] at whole
    exact .inl ⟨whole ▸ absent, rfl⟩
  | cons c rest =>
    have found := stops_dropWhile (p := (· != d)) text c (by rw [behind]; rfl)
    obtain rfl : c = d := by simpa using found
    rw [behind] at whole
    exact .inr ⟨_, rest, whole.symm, absent, rfl, rfl⟩

end

namespace Text

lemma isBlankText_iff {text : Text} : isBlankText text = true ↔ ∀ c ∈ text, isBlank c = true :=
  List.all_eq_true

/-! ## Trimming -/

lemma trimStart_of_noBlank {c : Char} {rest : Text} (noBlank : isBlank c = false) :
    trimStart (c :: rest) = c :: rest :=
  List.dropWhile_cons_of_neg (by simp [noBlank])

section

variable {lead trail : Text}

lemma trimStart_of_blank (blank : isBlankText lead = true) (text : Text) :
    trimStart (lead ++ text) = trimStart text :=
  List.dropWhile_append_of_pos (isBlankText_iff.1 blank)

lemma trimEnd_of_blank (blank : isBlankText trail = true) (text : Text) :
    trimEnd (text ++ trail) = trimEnd text := by
  have reversed : ∀ c ∈ trail.reverse, isBlank c = true := fun c member =>
    isBlankText_iff.1 blank c (List.mem_reverse.1 member)
  rw [trimEnd, List.reverse_append, List.dropWhile_append_of_pos reversed, trimEnd]

/-- Blanks behind a text stay there, unless nothing else is left. -/
theorem trimStart_append (blank : isBlankText trail = true) (text : Text) :
    trimStart (text ++ trail) = if (trimStart text).isEmpty then [] else trimStart text ++ trail := by
  have nothing : trail.dropWhile isBlank = [] :=
    List.dropWhile_eq_nil_iff.2 (isBlankText_iff.1 blank)
  rw [trimStart, List.dropWhile_append, nothing]
  rfl

/-- **Blanks around a text do not change what trimming leaves of it.** -/
theorem trim_of_blanks (blankLead : isBlankText lead = true) (blankTrail : isBlankText trail = true)
    (text : Text) : trim (lead ++ text ++ trail) = trim text := by
  rw [trim, List.append_assoc, trimStart_of_blank blankLead, trimStart_append blankTrail, trim]
  split
  · next empty => rw [List.isEmpty_iff.1 empty]
  · rw [trimEnd_of_blank blankTrail]

end

lemma exists_trimStart (text : Text) :
    ∃ lead, isBlankText lead = true ∧ text = lead ++ trimStart text :=
  ⟨text.takeWhile isBlank, List.all_takeWhile, List.takeWhile_append_dropWhile.symm⟩

lemma exists_trimEnd (text : Text) :
    ∃ trail, isBlankText trail = true ∧ text = trimEnd text ++ trail := by
  refine ⟨(text.reverse.takeWhile isBlank).reverse, ?_, ?_⟩
  · rw [isBlankText, List.all_reverse]
    exact List.all_takeWhile
  · rw [trimEnd, ← List.reverse_append, List.takeWhile_append_dropWhile, List.reverse_reverse]

/-- A text is its trimmed text between blanks. -/
theorem exists_trim (text : Text) : ∃ lead trail, isBlankText lead = true ∧
    isBlankText trail = true ∧ text = lead ++ trim text ++ trail := by
  obtain ⟨lead, blankLead, start⟩ := exists_trimStart text
  obtain ⟨trail, blankTrail, rest⟩ := exists_trimEnd (trimStart text)
  refine ⟨lead, trail, blankLead, blankTrail, ?_⟩
  rw [trim, List.append_assoc, ← rest]
  exact start

/-- A trimmed text does not end in a blank. -/
theorem isBlank_of_trim {text start : Text} {c : Char} (ends : trim text = start ++ [c]) :
    isBlank c = false := by
  have reversed := congrArg List.reverse ends
  rw [trim, trimEnd, List.reverse_reverse, List.reverse_append] at reversed
  have first := List.head?_dropWhile_not isBlank (trimStart text).reverse
  rw [reversed] at first
  exact first

/-- A text without blanks at its ends is trimmed. -/
theorem trim_of_noBlank {text : Text} (first : ∀ c ∈ text.head?, isBlank c = false)
    (last : ∀ c ∈ text.getLast?, isBlank c = false) : trim text = text := by
  have start : trimStart text = text := by
    show ([] ++ text).dropWhile isBlank = text
    exact dropWhile_of_stop rfl first
  have reversed : ([] ++ text.reverse).dropWhile isBlank = text.reverse :=
    dropWhile_of_stop rfl (List.head?_reverse ▸ last)
  rw [trim, start, trimEnd, ← List.nil_append text.reverse, reversed, List.reverse_reverse]

/-! ## Words in front of blanks -/

section

variable {trail : Text} (blank : isBlankText trail = true) (text : Text)

include blank

lemma takeWhile_isWord_of_blank : trail.takeWhile isWord = [] := by
  cases trail with
  | nil => rfl
  | cons c rest =>
    have first := isWord_of_isBlank (isBlankText_iff.1 blank c List.mem_cons_self)
    rw [List.takeWhile_cons_of_neg (by simp [first])]

lemma dropWhile_isWord_of_blank : trail.dropWhile isWord = trail := by
  have whole := List.takeWhile_append_dropWhile (p := isWord) (l := trail)
  rwa [takeWhile_isWord_of_blank blank, List.nil_append] at whole

theorem takeWhile_isWord_append : (text ++ trail).takeWhile isWord = text.takeWhile isWord := by
  rw [List.takeWhile_append]
  split
  · next whole =>
    rw [takeWhile_isWord_of_blank blank, List.append_nil]
    exact ((List.takeWhile_prefix isWord).eq_of_length whole).symm
  · rfl

theorem dropWhile_isWord_append :
    (text ++ trail).dropWhile isWord = text.dropWhile isWord ++ trail := by
  rw [List.dropWhile_append, dropWhile_isWord_of_blank blank]
  split
  · next empty => rw [List.isEmpty_iff.1 empty, List.nil_append]
  · rfl

/-- Behind blanks, the first character is the same. -/
theorem head?_trimStart_append : (trimStart (text ++ trail)).head? = (trimStart text).head? := by
  rw [trimStart_append blank]
  split
  · next empty => rw [List.isEmpty_iff.1 empty]
  · next nonempty =>
    obtain ⟨c, rest, eq⟩ := List.exists_cons_of_ne_nil (mt List.isEmpty_iff.2 nonempty)
    rw [eq]
    rfl

/-- Behind blanks, the first word is the same. -/
theorem firstWord_trimStart_append :
    (trimStart (text ++ trail)).takeWhile isWord = (trimStart text).takeWhile isWord := by
  rw [trimStart_append blank]
  split
  · next empty => rw [List.isEmpty_iff.1 empty]
  · exact takeWhile_isWord_append blank (trimStart text)

end

end Text

end GlassPrompt
