import GlassPrompt.Import.Statement
import GlassPrompt.Proofs.Import.ClauseParts

/-!
# The names that a clause binds

A clause is a list of bindings and, in braces, a second one.  A binding is a name, or it gives a name to
something with `as`; any blanks may stand around each binding and each `as`.  The standard form puts a
single space on both sides of `as`, so the names that it binds do not depend on the blanks.  The clause
itself is read with a space on both sides of `as`: behind a tab or a line break, or in front of one, the
binding is not seen.

* `ClauseBinding`, `ClauseSlot`, `ImportClause` — a clause with its blanks, and how it is written.
* `localName_written` — one binding, read as it is written.
* `importedNames_normaliseClause_braces`, `importedNames_normaliseClause_plain` — the standard form binds
  what the clause with squeezed blanks binds.
* `importedNames_of_spacing` — which names are read off a clause and off its standard form;
  `not_importedNames_standardForm` is a clause where they differ.
-/

namespace GlassPrompt

open Text

/-! ## Clauses with their blanks -/

/-- A name, or what is renamed, `as` with the blanks before and behind it, and its new name. -/
inductive ClauseBinding
  | plain (name : Text)
  | renamed (original before behind name : Text)
  deriving DecidableEq, Repr

/-- What stands between two commas: blanks, with a binding between them or with none. -/
structure ClauseSlot where
  lead : Text
  binding : Option ClauseBinding
  trail : Text
  deriving DecidableEq, Repr

/-- The bindings outside braces and, if there are braces, those inside. -/
structure ImportClause where
  outside : List ClauseSlot
  inside : Option (List ClauseSlot)
  deriving DecidableEq, Repr

/-- The characters that set the parts of a clause apart. -/
def clauseDelimiters : Text :=
  [',', '\x7b', '\x7d']

lemma forall_mem_clauseDelimiters {p : Char → Prop} :
    (∀ c ∈ clauseDelimiters, p c) ↔ p ',' ∧ p '\x7b' ∧ p '\x7d' := by
  simp [clauseDelimiters]

/-- A word of a clause: it is not empty and has no blanks, commas or braces. -/
structure IsClauseWord (word : Text) : Prop where
  nonempty : word ≠ []
  noBlank : ∀ c ∈ word, isBlank c = false
  noDelimiter : ∀ c ∈ clauseDelimiters, c ∉ word

lemma isClauseWord_as : IsClauseWord "as".toList where
  nonempty := by decide
  noBlank := List.forall_mem_cons.2 ⟨rfl, List.forall_mem_singleton.2 rfl⟩
  noDelimiter := forall_mem_clauseDelimiters.2 (by decide)

/-- Blanks that keep two words apart. -/
structure IsGap (gap : Text) : Prop where
  nonempty : gap ≠ []
  blank : isBlankText gap = true

namespace ClauseBinding

/-- The local name. -/
def name : ClauseBinding → Text
  | plain name => name
  | renamed _ _ _ name => name

def written : ClauseBinding → Text
  | plain name => name
  | renamed original before behind name => original ++ (before ++ "as".toList ++ behind ++ name)

/-- There is a space directly before and directly behind `as`. -/
def isSpaced : ClauseBinding → Bool
  | plain _ => true
  | renamed _ before behind _ => before.getLast? == some ' ' && behind.head? == some ' '

/-- Words with gaps around `as`. -/
def WellFormed : ClauseBinding → Prop
  | plain name => IsClauseWord name
  | renamed original before behind name =>
    IsClauseWord original ∧ IsGap before ∧ IsGap behind ∧ IsClauseWord name

/-- Outside braces only the star is renamed: it stands for the whole module. -/
def RenamesStar : ClauseBinding → Prop
  | plain _ => True
  | renamed original _ _ _ => original = ['*']

/-- The binding with single spaces around `as`. -/
def squeezed : ClauseBinding → ClauseBinding
  | plain name => plain name
  | renamed original _ _ name => renamed original [' '] [' '] name

end ClauseBinding

namespace ClauseSlot

def written (slot : ClauseSlot) : Text :=
  slot.lead ++ (slot.binding.elim [] ClauseBinding.written) ++ slot.trail

structure WellFormed (slot : ClauseSlot) : Prop where
  lead : isBlankText slot.lead = true
  binding : ∀ binding ∈ slot.binding, binding.WellFormed
  trail : isBlankText slot.trail = true

end ClauseSlot

namespace ImportClause

def listWritten (slots : List ClauseSlot) : Text :=
  [','].intercalate (slots.map ClauseSlot.written)

def written (clause : ImportClause) : Text :=
  listWritten clause.outside ++
    clause.inside.elim [] fun slots => '\x7b' :: (listWritten slots ++ ['\x7d'])

/-- The bindings, those in braces first. -/
def bindings (clause : ImportClause) : List ClauseBinding :=
  (clause.inside.getD []).filterMap ClauseSlot.binding ++ clause.outside.filterMap ClauseSlot.binding

structure WellFormed (clause : ImportClause) : Prop where
  outside : ∀ slot ∈ clause.outside, slot.WellFormed
  star : ∀ slot ∈ clause.outside, ∀ binding ∈ slot.binding, binding.RenamesStar
  inside : ∀ slots ∈ clause.inside, ∀ slot ∈ slots, slot.WellFormed

end ImportClause

/-! ## One binding -/

section

variable {piece text : Text}

lemma afterAs_cons {c : Char} (other : ∀ rest, c :: text ≠ ' ' :: 'a' :: 's' :: ' ' :: rest) :
    afterAs piece (c :: text) = afterAs piece text := by
  rw [afterAs.eq_def]
  split
  · next eq => exact nomatch eq
  · next eq => exact absurd eq (other _)
  · next eq =>
    obtain ⟨-, rfl⟩ := List.cons.inj eq
    rfl

/-- Nothing is found in a text without spaces. -/
lemma afterAs_append {word : Text} (noSpace : ' ' ∉ word) :
    afterAs piece (word ++ text) = afterAs piece text := by
  induction word with
  | nil => rfl
  | cons c rest ih =>
    rw [List.mem_cons, not_or] at noSpace
    rw [List.cons_append, afterAs_cons fun tail eq => noSpace.1 (List.cons.inj eq).1.symm,
      ih noSpace.2]

/-- Of blanks before `as`, only the last one can belong to ` as `. -/
lemma afterAs_gap {blanks : Text} {c : Char} (blank : isBlankText (blanks ++ [c]) = true) :
    afterAs piece (blanks ++ c :: text) = afterAs piece (c :: text) := by
  have allBlank := isBlankText_iff.1 blank
  clear blank
  induction blanks with
  | nil => rfl
  | cons d rest ih =>
    have later : ∀ e ∈ rest ++ [c], isBlank e = true := fun e member =>
      allBlank e (List.mem_cons_of_mem d member)
    rw [List.cons_append, afterAs_cons ?_, ih later]
    -- A blank follows, and `as` does not start with one.
    intro tail eq
    obtain ⟨-, eq⟩ := List.cons.inj eq
    have next : isBlank 'a' = true := by
      cases rest with
      | nil =>
        obtain ⟨rfl, -⟩ := List.cons.inj eq
        exact later 'a' (List.mem_singleton_self _)
      | cons e more =>
        obtain ⟨rfl, -⟩ := List.cons.inj eq
        exact later 'a' List.mem_cons_self
    exact Bool.noConfusion next

/-- Nothing is found in blanks before the last word of a text. -/
lemma afterAs_last {gap word : Text} (blank : isBlankText gap = true) (isWord : IsClauseWord word) :
    afterAs piece (gap ++ word) = piece := by
  have noSpace : ' ' ∉ word := fun member => Bool.noConfusion (isWord.noBlank ' ' member)
  induction gap with
  | nil =>
    rw [List.nil_append, ← List.append_nil word, afterAs_append noSpace]
    rfl
  | cons c rest ih =>
    have later : ∀ d ∈ rest, isBlank d = true := fun d member =>
      isBlankText_iff.1 blank d (List.mem_cons_of_mem c member)
    rw [List.cons_append, afterAs_cons ?_, ih (isBlankText_iff.2 later)]
    intro tail eq
    obtain ⟨-, eq⟩ := List.cons.inj eq
    cases rest with
    | nil =>
      rw [List.nil_append] at eq
      exact noSpace (by rw [eq]; simp)
    | cons d more =>
      obtain ⟨rfl, -⟩ := List.cons.inj eq
      exact Bool.noConfusion (later 'a' List.mem_cons_self)

/-- `as` before the last word of a text is found between two spaces. -/
lemma afterAs_as {c d : Char} {gap word : Text} (blank : isBlankText (d :: gap) = true)
    (isWord : IsClauseWord word) : afterAs piece (c :: 'a' :: 's' :: d :: (gap ++ word)) =
      if c = ' ' ∧ d = ' ' then gap ++ word else piece := by
  have blankGap : isBlankText gap = true :=
    isBlankText_iff.2 fun e member => isBlankText_iff.1 blank e (List.mem_cons_of_mem d member)
  by_cases spaced : c = ' ' ∧ d = ' '
  · obtain ⟨rfl, rfl⟩ := spaced
    rw [if_pos ⟨rfl, rfl⟩, afterAs, afterAs_last blankGap isWord]
  · have skipped : ∀ rest, c :: 'a' :: 's' :: d :: (gap ++ word) ≠ ' ' :: 'a' :: 's' :: ' ' :: rest := by
      intro rest eq
      simp only [List.cons.injEq] at eq
      exact spaced ⟨eq.1, eq.2.2.2.1⟩
    have noSpace : ' ' ∉ "as".toList := by decide
    rw [if_neg spaced, afterAs_cons skipped]
    exact (afterAs_append noSpace).trans (afterAs_last blank isWord)

end

lemma noBlank_of_isIdentifier {text : Text} (identifier : isIdentifier text = true) :
    ∀ c ∈ text, isBlank c = false := by
  have noBlankRest {c : Char} (rest : isNameRest c = true) : isBlank c = false :=
    Bool.eq_false_iff.2 fun blank => Bool.noConfusion (rest.symm.trans (isNameRest_of_isBlank blank))
  cases text with
  | nil => exact nofun
  | cons c rest =>
    rw [isIdentifier, Bool.and_eq_true] at identifier
    exact List.forall_mem_cons.2 ⟨noBlankRest (isNameRest_of_isNameStart identifier.1),
      fun d member => noBlankRest (List.all_eq_true.1 identifier.2 d member)⟩

lemma IsClauseWord.trimmed {word : Text} (isWord : IsClauseWord word) : trim word = word :=
  trim_of_noBlank (fun c first => isWord.noBlank c (List.mem_of_mem_head? first))
    fun c last => isWord.noBlank c (List.mem_of_mem_getLast? last)

namespace ClauseBinding

/-- A binding starts and ends with a word. -/
lemma trim_written {binding : ClauseBinding} (wellFormed : binding.WellFormed) :
    trim binding.written = binding.written := by
  cases binding with
  | plain name => exact IsClauseWord.trimmed wellFormed
  | renamed original before behind name =>
    obtain ⟨isOriginal, -, -, isName⟩ := wellFormed
    refine trim_of_noBlank ?_ ?_
    · intro c first
      rw [written, List.head?_append_of_ne_nil _ isOriginal.nonempty] at first
      exact isOriginal.noBlank c (List.mem_of_mem_head? first)
    · intro c last
      rw [written, ← List.append_assoc, List.getLast?_append_of_ne_nil _ isName.nonempty] at last
      exact isName.noBlank c (List.mem_of_mem_getLast? last)

/-- **A binding is read off its text if there is a space on both sides of `as`.** -/
theorem localName_written {binding : ClauseBinding} (wellFormed : binding.WellFormed) :
    localName binding.written = if binding.isSpaced then binding.name else binding.written := by
  cases binding with
  | plain name =>
    have isName : IsClauseWord name := wellFormed
    have found : afterAs name name = name := afterAs_last isBlankText_nil isName
    exact (congrArg trim found).trans isName.trimmed
  | renamed original before behind name =>
    have trimmed := trim_written wellFormed
    obtain ⟨isOriginal, isBefore, isBehind, isName⟩ := wellFormed
    obtain ⟨blanks, c, rfl⟩ := (List.eq_nil_or_concat' before).resolve_left isBefore.nonempty
    obtain ⟨d, more, rfl⟩ := List.exists_cons_of_ne_nil isBehind.nonempty
    have noSpace : ' ' ∉ original := fun member => Bool.noConfusion (isOriginal.noBlank ' ' member)
    have blankMore : isBlankText more = true :=
      isBlankText_iff.2 fun e member => isBlankText_iff.1 isBehind.blank e (List.mem_cons_of_mem d member)
    have split : (blanks ++ [c]) ++ "as".toList ++ (d :: more) ++ name =
        blanks ++ c :: 'a' :: 's' :: d :: (more ++ name) := by simp
    have spaced : (renamed original (blanks ++ [c]) (d :: more) name).isSpaced = true ↔
        c = ' ' ∧ d = ' ' := by simp [isSpaced]
    have found (piece : Text) : afterAs piece (written (.renamed original (blanks ++ [c]) (d :: more) name)) =
        if c = ' ' ∧ d = ' ' then more ++ name else piece := by
      rw [written, afterAs_append noSpace, split, afterAs_gap isBefore.blank,
        afterAs_as isBehind.blank isName]
    rw [localName, found]
    by_cases both : c = ' ' ∧ d = ' '
    · have around := trim_of_blanks blankMore isBlankText_nil name
      rw [List.append_nil, isName.trimmed] at around
      rw [if_pos both, if_pos (spaced.2 both), around, ClauseBinding.name]
    · rw [if_neg both, if_neg (mt spaced.1 both), trimmed]

/-- Where `as` is not seen, the text of the binding is no identifier. -/
lemma isIdentifier_written {binding : ClauseBinding} (wellFormed : binding.WellFormed)
    (notSpaced : binding.isSpaced = false) : isIdentifier binding.written = false := by
  cases binding with
  | plain name => exact nomatch notSpaced
  | renamed original before behind name =>
    obtain ⟨-, isBefore, -, -⟩ := wellFormed
    obtain ⟨c, rest, rfl⟩ := List.exists_cons_of_ne_nil isBefore.nonempty
    refine Bool.eq_false_iff.2 fun identifier => ?_
    have noBlank := noBlank_of_isIdentifier identifier c (by simp [written])
    have blank := isBlankText_iff.1 isBefore.blank c List.mem_cons_self
    exact Bool.noConfusion (noBlank.symm.trans blank)

/-! ## Squeezing a binding -/

lemma squeezed_wellFormed {binding : ClauseBinding} (wellFormed : binding.WellFormed) :
    binding.squeezed.WellFormed := by
  cases binding with
  | plain name => exact wellFormed
  | renamed original before behind name =>
    obtain ⟨isOriginal, -, -, isName⟩ := wellFormed
    have gap : IsGap [' '] := ⟨List.cons_ne_nil _ _, rfl⟩
    exact ⟨isOriginal, gap, gap, isName⟩

lemma isSpaced_squeezed (binding : ClauseBinding) : binding.squeezed.isSpaced = true := by
  cases binding <;> rfl

lemma name_squeezed (binding : ClauseBinding) : binding.squeezed.name = binding.name := by
  cases binding <;> rfl

/-- Squeezing the text of a binding leaves single spaces around `as`. -/
lemma squeeze_written {binding : ClauseBinding} (wellFormed : binding.WellFormed) :
    squeeze binding.written = binding.squeezed.written := by
  have word {text : Text} (isWord : IsClauseWord text) : squeeze text = text := by
    have whole := squeeze_append_of_noBlank isWord.noBlank []
    rwa [squeeze, List.append_nil] at whole
  have gap {blanks text : Text} (isGap : IsGap blanks) (isWord : IsClauseWord text) (rest : Text) :
      squeeze (blanks ++ (text ++ rest)) = ' ' :: (text ++ squeeze rest) := by
    obtain ⟨c, more, rfl⟩ := List.exists_cons_of_ne_nil isWord.nonempty
    obtain ⟨first, later⟩ := List.forall_mem_cons.1 isWord.noBlank
    rw [List.cons_append, squeeze_append_cons first, squeeze_of_blank isGap.nonempty isGap.blank,
      squeeze_append_of_noBlank later]
    rfl
  cases binding with
  | plain name => exact word wellFormed
  | renamed original before behind name =>
    obtain ⟨isOriginal, isBefore, isBehind, isName⟩ := wellFormed
    have last := gap isBehind isName []
    rw [List.append_nil] at last
    rw [written, List.append_assoc, List.append_assoc, squeeze_append_of_noBlank isOriginal.noBlank,
      gap isBefore isClauseWord_as, last]
    simp [squeezed, written, squeeze]

/-- **A squeezed binding is read off its text.** -/
lemma localName_squeeze_written {binding : ClauseBinding} (wellFormed : binding.WellFormed) :
    localName (squeeze binding.written) = binding.name := by
  rw [squeeze_written wellFormed, localName_written (squeezed_wellFormed wellFormed),
    isSpaced_squeezed, if_pos rfl, name_squeezed]

end ClauseBinding

/-! ## Lists of bindings -/

lemma notMem_of_blank {text : Text} (blank : isBlankText text = true) :
    ∀ c ∈ clauseDelimiters, c ∉ text := by
  intro c delimiter member
  have noBlank : ∀ c ∈ clauseDelimiters, isBlank c = false :=
    forall_mem_clauseDelimiters.2 ⟨rfl, rfl, rfl⟩
  exact Bool.noConfusion ((noBlank c delimiter).symm.trans (isBlankText_iff.1 blank c member))

lemma ClauseBinding.notMem_written {binding : ClauseBinding} (wellFormed : binding.WellFormed) :
    ∀ c ∈ clauseDelimiters, c ∉ binding.written := by
  intro c delimiter
  cases binding with
  | plain name => exact IsClauseWord.noDelimiter wellFormed c delimiter
  | renamed original before behind name =>
    obtain ⟨isOriginal, isBefore, isBehind, isName⟩ := wellFormed
    simp only [written, List.mem_append, not_or]
    exact ⟨isOriginal.noDelimiter c delimiter, ⟨⟨notMem_of_blank isBefore.blank c delimiter,
      isClauseWord_as.noDelimiter c delimiter⟩, notMem_of_blank isBehind.blank c delimiter⟩,
      isName.noDelimiter c delimiter⟩

namespace ClauseSlot

variable {slot : ClauseSlot} (wellFormed : slot.WellFormed)

include wellFormed

lemma notMem_written : ∀ c ∈ clauseDelimiters, c ∉ slot.written := by
  intro c delimiter
  have binding : c ∉ slot.binding.elim [] ClauseBinding.written := by
    cases binding : slot.binding with
    | none => exact List.not_mem_nil
    | some inner => exact inner.notMem_written (wellFormed.binding inner binding) c delimiter
  simp [written, notMem_of_blank wellFormed.lead c delimiter,
    notMem_of_blank wellFormed.trail c delimiter, binding]

/-- The part between two commas is the binding that stands there. -/
lemma commaParts_written : commaParts slot.written = slot.binding.toList.map ClauseBinding.written := by
  rw [written, commaParts_around wellFormed.lead wellFormed.trail]
  cases binding : slot.binding with
  | none => rfl
  | some inner =>
    have isInner := wellFormed.binding inner binding
    have nonempty : inner.written ≠ [] := by
      cases inner with
      | plain name => exact IsClauseWord.nonempty isInner
      | renamed => exact List.append_ne_nil_of_left_ne_nil isInner.1.nonempty _
    rw [Option.elim_some, commaParts_of_noComma (inner.notMem_written isInner ',' (by decide)),
      inner.trim_written isInner]
    simp [nonempty]

end ClauseSlot

namespace ImportClause

section

variable {slots : List ClauseSlot} (wellFormed : ∀ slot ∈ slots, slot.WellFormed)

include wellFormed

lemma notMem_listWritten : '\x7b' ∉ listWritten slots ∧ '\x7d' ∉ listWritten slots := by
  have outside {c : Char} (delimiter : c ∈ clauseDelimiters) (other : c ≠ ',') :
      c ∉ listWritten slots := fun member => by
    rcases mem_intercalate member with separator | ⟨part, found, inside⟩
    · exact other (List.mem_singleton.1 separator)
    · obtain ⟨slot, member, rfl⟩ := List.mem_map.1 found
      exact slot.notMem_written (wellFormed slot member) c delimiter inside
  exact ⟨outside (by decide) (by decide), outside (by decide) (by decide)⟩

/-- The parts of a list are its bindings. -/
lemma commaParts_listWritten :
    commaParts (listWritten slots) = (slots.filterMap ClauseSlot.binding).map ClauseBinding.written := by
  induction slots with
  | nil => rfl
  | cons slot more ih =>
    obtain ⟨first, others⟩ := List.forall_mem_cons.1 wellFormed
    have both : (slot :: more).filterMap ClauseSlot.binding =
        slot.binding.toList ++ more.filterMap ClauseSlot.binding := by
      cases binding : slot.binding <;> simp [binding]
    rw [both, List.map_append, ← ih others, ← slot.commaParts_written first]
    cases more with
    | nil =>
      rw [listWritten, List.map_singleton, List.intercalate_singleton]
      exact (List.append_nil _).symm
    | cons second rest =>
      rw [listWritten, List.map_cons, List.map_cons, List.intercalate_cons_cons, List.append_assoc,
        List.singleton_append, commaParts_append_comma]
      rfl

lemma wellFormed_of_mem_bindings : ∀ binding ∈ slots.filterMap ClauseSlot.binding,
    binding.WellFormed := by
  intro binding member
  obtain ⟨slot, found, eq⟩ := List.mem_filterMap.1 member
  exact (wellFormed slot found).binding binding eq

end

end ImportClause

/-! ## The standard form -/

lemma splitBraced?_of_notMem {text : Text} (noOpen : '\x7b' ∉ text) : splitBraced? text = none := by
  cases split : splitBraced? text with
  | none => rfl
  | some parts =>
    obtain ⟨before, inside, after⟩ := parts
    obtain ⟨rfl, -⟩ := append_of_splitBraced? split
    exact absurd (by simp) noOpen

lemma plainLocals_around {lead trail : Text} (blankLead : isBlankText lead = true)
    (blankTrail : isBlankText trail = true) (text : Text) :
    plainLocals (lead ++ text ++ trail) = plainLocals text := by
  rw [plainLocals, commaParts_around blankLead blankTrail, plainLocals]

lemma plainLocals_trim (text : Text) : plainLocals (trim text) = plainLocals text := by
  obtain ⟨lead, trail, blankLead, blankTrail, eq⟩ := exists_trim text
  have around := plainLocals_around blankLead blankTrail (trim text)
  rw [← eq] at around
  exact around.symm

lemma notMem_squeeze {text : Text} {c : Char} (notSpace : c ≠ ' ') (notMem : c ∉ text) :
    c ∉ squeeze text := fun member => (mem_squeeze member).elim notMem notSpace

/-- Without braces, the standard form binds what the squeezed clause binds. -/
lemma importedNames_normaliseClause_plain {clause : Text} (noOpen : '\x7b' ∉ clause) :
    importedNames (normaliseClause clause) = plainLocals (squeeze clause) := by
  have noOpenTrim : '\x7b' ∉ squeeze (trim clause) :=
    notMem_squeeze (by decide) fun member => noOpen (mem_of_mem_trim member)
  have noBraces := splitBraced?_of_notMem noOpenTrim
  rw [normaliseClause, intercalate_words, spaceBraces_of_none noBraces, importedNames, noBraces]
  dsimp only
  rw [squeeze_trim, plainLocals_trim]

/-- With one list in braces at its end, the standard form binds what the squeezed clause binds. -/
lemma importedNames_normaliseClause_braces {before inside : Text} (noOpen : '\x7b' ∉ before)
    (noClose : '\x7d' ∉ inside) :
    importedNames (normaliseClause (before ++ '\x7b' :: (inside ++ ['\x7d']))) =
      bracedLocals (squeeze inside) ++ plainLocals (squeeze before) := by
  have noOpenStart : '\x7b' ∉ trimStart (squeeze before) := fun member =>
    notMem_squeeze (by decide) noOpen ((List.dropWhile_suffix _).subset member)
  have noCloseInside : '\x7d' ∉ squeeze inside := notMem_squeeze (by decide) noClose
  have noCloseListed : '\x7d' ∉ listedNames (squeeze inside) := fun member =>
    (mem_listedNames member).elim noCloseInside (by decide)
  have trimmed : trim (squeeze (before ++ '\x7b' :: (inside ++ ['\x7d']))) =
      trimStart (squeeze before) ++ '\x7b' :: (squeeze inside ++ ['\x7d']) := by
    rw [squeeze_append_cons rfl, squeeze_append_cons rfl, trim, trimStart_append_cons rfl, squeeze,
      ← List.cons_append, ← List.append_assoc, trimEnd_concat rfl]
  obtain ⟨lead, blankLead, start⟩ := exists_trimStart (squeeze before)
  have outside : plainLocals (trimStart (squeeze before)) = plainLocals (squeeze before) := by
    have around := plainLocals_around blankLead isBlankText_nil (trimStart (squeeze before))
    rw [List.append_nil, ← start] at around
    exact around.symm
  rw [normaliseClause, intercalate_words, squeeze_trim, trimmed,
    spaceBraces_append noOpenStart noCloseInside, spaceBraces_of_none rfl, importedNames,
    splitBraced?_append noOpenStart noCloseListed]
  dsimp only
  rw [bracedLocals, commaParts_listedNames, List.append_nil, outside, bracedLocals]

/-! ## The names of a clause -/

/-- The local names that are identifiers. -/
def identifiers (bindings : List ClauseBinding) : List Text :=
  (bindings.map ClauseBinding.name).filter isIdentifier

section

variable {bindings : List ClauseBinding} (wellFormed : ∀ binding ∈ bindings, binding.WellFormed)

include wellFormed

/-- Of a list as it is written, the names are read whose `as` is seen. -/
lemma filter_localName_written :
    ((bindings.map ClauseBinding.written).map localName).filter isIdentifier =
      identifiers (bindings.filter ClauseBinding.isSpaced) := by
  induction bindings with
  | nil => rfl
  | cons binding more ih =>
    obtain ⟨first, others⟩ := List.forall_mem_cons.1 wellFormed
    have read := binding.localName_written first
    cases spaced : binding.isSpaced with
    | true =>
      rw [spaced, if_pos rfl] at read
      rw [List.map_cons, List.map_cons, read, List.filter_cons_of_pos spaced, identifiers, List.map_cons,
        List.filter_cons, List.filter_cons, ih others, identifiers]
    | false =>
      rw [spaced, if_neg Bool.false_ne_true] at read
      rw [List.map_cons, List.map_cons, read,
        List.filter_cons_of_neg (Bool.eq_false_iff.1 (binding.isIdentifier_written first spaced)),
        List.filter_cons_of_neg (Bool.eq_false_iff.1 spaced), ih others]

/-- Of a list with its blanks squeezed, all names are read. -/
lemma filter_localName_squeezed :
    (((bindings.map ClauseBinding.written).map squeeze).map localName).filter isIdentifier =
      identifiers bindings := by
  rw [List.map_map, List.map_map, identifiers]
  congr 1
  exact List.map_congr_left fun binding member => binding.localName_squeeze_written
    (wellFormed binding member)

end

/-- Outside braces, too, the name behind `as` is read. -/
lemma ClauseBinding.plainName_written {binding : ClauseBinding} (wellFormed : binding.WellFormed)
    (star : binding.RenamesStar) :
    (if binding.written.head? = some '*' then localName binding.written else binding.written) =
      localName binding.written := by
  cases binding with
  | plain name =>
    have read : localName (written (.plain name)) = name := localName_written wellFormed
    split
    · rfl
    · exact read.symm
  | renamed original before behind name =>
    obtain rfl : original = ['*'] := star
    exact if_pos rfl

section

variable {slots : List ClauseSlot} (wellFormed : ∀ slot ∈ slots, slot.WellFormed)

include wellFormed

lemma bracedLocals_listWritten : bracedLocals (ImportClause.listWritten slots) =
    identifiers ((slots.filterMap ClauseSlot.binding).filter ClauseBinding.isSpaced) := by
  rw [bracedLocals, ImportClause.commaParts_listWritten wellFormed,
    filter_localName_written (ImportClause.wellFormed_of_mem_bindings wellFormed)]

lemma bracedLocals_squeeze_listWritten : bracedLocals (squeeze (ImportClause.listWritten slots)) =
    identifiers (slots.filterMap ClauseSlot.binding) := by
  rw [bracedLocals, commaParts_squeeze, ImportClause.commaParts_listWritten wellFormed,
    filter_localName_squeezed (ImportClause.wellFormed_of_mem_bindings wellFormed)]

variable (star : ∀ slot ∈ slots, ∀ binding ∈ slot.binding, binding.RenamesStar)

include star

lemma plainLocals_listWritten : plainLocals (ImportClause.listWritten slots) =
    identifiers ((slots.filterMap ClauseSlot.binding).filter ClauseBinding.isSpaced) := by
  have isWellFormed := ImportClause.wellFormed_of_mem_bindings wellFormed
  rw [plainLocals, ImportClause.commaParts_listWritten wellFormed,
    ← filter_localName_written isWellFormed, List.map_map, List.map_map]
  congr 1
  refine List.map_congr_left fun binding member => ?_
  obtain ⟨slot, found, eq⟩ := List.mem_filterMap.1 member
  exact binding.plainName_written (isWellFormed binding member) (star slot found binding eq)

lemma plainLocals_squeeze_listWritten : plainLocals (squeeze (ImportClause.listWritten slots)) =
    identifiers (slots.filterMap ClauseSlot.binding) := by
  have isWellFormed := ImportClause.wellFormed_of_mem_bindings wellFormed
  rw [plainLocals, commaParts_squeeze, ImportClause.commaParts_listWritten wellFormed,
    ← filter_localName_squeezed isWellFormed]
  simp only [List.map_map]
  congr 1
  refine List.map_congr_left fun binding member => ?_
  obtain ⟨slot, found, eq⟩ := List.mem_filterMap.1 member
  have renamesStar : binding.squeezed.RenamesStar := by
    have renames := star slot found binding eq
    cases binding <;> exact renames
  have wellFormedSqueezed := binding.squeezed_wellFormed (isWellFormed binding member)
  simp only [Function.comp_apply]
  rw [binding.squeeze_written (isWellFormed binding member)]
  exact binding.squeezed.plainName_written wellFormedSqueezed renamesStar

end

section

variable {clause : ImportClause} (wellFormed : clause.WellFormed)

include wellFormed

/-- The names of the standard form are all names of the clause. -/
theorem importedNames_normaliseClause_written :
    importedNames (normaliseClause clause.written) = identifiers clause.bindings := by
  have outside := plainLocals_squeeze_listWritten wellFormed.outside wellFormed.star
  have noOpen := (ImportClause.notMem_listWritten wellFormed.outside).1
  cases braces : clause.inside with
  | none =>
    have plain := importedNames_normaliseClause_plain noOpen
    rw [outside] at plain
    simpa [ImportClause.written, ImportClause.bindings, braces] using plain
  | some slots =>
    have isWellFormed := wellFormed.inside slots braces
    have noClose := (ImportClause.notMem_listWritten isWellFormed).2
    have both := importedNames_normaliseClause_braces noOpen noClose
    rw [outside, bracedLocals_squeeze_listWritten isWellFormed] at both
    simpa [ImportClause.written, ImportClause.bindings, braces, identifiers] using both

/-- The names read off the clause are those whose `as` stands between spaces. -/
theorem importedNames_written :
    importedNames clause.written = identifiers (clause.bindings.filter ClauseBinding.isSpaced) := by
  have outside := plainLocals_listWritten wellFormed.outside wellFormed.star
  have noOpen := (ImportClause.notMem_listWritten wellFormed.outside).1
  cases braces : clause.inside with
  | none =>
    have plain : importedNames (ImportClause.listWritten clause.outside) =
        plainLocals (ImportClause.listWritten clause.outside) := by
      rw [importedNames, splitBraced?_of_notMem noOpen]
    rw [outside] at plain
    simpa [ImportClause.written, ImportClause.bindings, braces] using plain
  | some slots =>
    have isWellFormed := wellFormed.inside slots braces
    have split := @splitBraced?_append _ _ [] noOpen (ImportClause.notMem_listWritten isWellFormed).2
    simp [ImportClause.written, ImportClause.bindings, braces, identifiers, importedNames, split, outside,
      bracedLocals_listWritten isWellFormed]

end

/-- Leaving out bindings leaves out no identifier exactly if each identifier stays. -/
lemma identifiers_filter_eq_iff (bindings : List ClauseBinding) (keep : ClauseBinding → Bool) :
    identifiers (bindings.filter keep) = identifiers bindings ↔
      ∀ binding ∈ bindings, isIdentifier binding.name = true → keep binding = true := by
  have kept (bindings : List ClauseBinding) : identifiers bindings =
      (bindings.filter (isIdentifier ∘ ClauseBinding.name)).map ClauseBinding.name :=
    List.filter_map
  have order : (bindings.filter keep).filter (isIdentifier ∘ ClauseBinding.name) =
      (bindings.filter (isIdentifier ∘ ClauseBinding.name)).filter keep := List.filter_comm _ _ _
  rw [kept, kept, order]
  constructor
  · intro eq binding member identifier
    have lengths := congrArg List.length eq
    rw [List.length_map, List.length_map, List.length_filter_eq_length_iff] at lengths
    exact lengths binding (List.mem_filter.2 ⟨member, identifier⟩)
  · intro all
    refine congrArg (List.map ClauseBinding.name) (List.filter_eq_self.2 fun binding member => ?_)
    obtain ⟨inside, identifier⟩ := List.mem_filter.1 member
    exact all binding inside identifier

/-- **The blanks around `as` decide which names are read off a clause, but not which names its standard
form binds.**  The standard form binds every name of the clause, those in braces first.  Of these, the
clause itself is read with the names whose `as`, if they have one, stands directly between two spaces.
The two agree exactly if every identifier that has an `as` has it between spaces. -/
theorem importedNames_of_spacing {clause : ImportClause} (wellFormed : clause.WellFormed) :
    importedNames (normaliseClause clause.written) = identifiers clause.bindings ∧
      importedNames clause.written = identifiers (clause.bindings.filter ClauseBinding.isSpaced) ∧
      (importedNames clause.written = importedNames (normaliseClause clause.written) ↔
        ∀ binding ∈ clause.bindings, isIdentifier binding.name = true → binding.isSpaced = true) := by
  have standard := importedNames_normaliseClause_written wellFormed
  have raw := importedNames_written wellFormed
  refine ⟨standard, raw, ?_⟩
  rw [standard, raw]
  exact identifiers_filter_eq_iff clause.bindings ClauseBinding.isSpaced

/-- A clause with a line break behind one `as` and a space on both sides of another. -/
theorem importedNames_of_spacing_crossing :
    readImport? "import d, \x7b a as\nb, c as e \x7d from 'm'".toList =
        some (⟨"d, \x7b a as\nb, c as e \x7d".toList, ['m']⟩, []) ∧
      importedNames "d, \x7b a as\nb, c as e \x7d".toList = [['e'], ['d']] ∧
      importedNames (normaliseClause "d, \x7b a as\nb, c as e \x7d".toList) = [['b'], ['e'], ['d']] := by
  have name {c : Char} (noBlank : isBlank c = false) (noDelimiter : c ∉ clauseDelimiters) :
      IsClauseWord [c] := by
    refine ⟨List.cons_ne_nil c [], by simpa using noBlank, fun d delimiter member => ?_⟩
    exact noDelimiter (List.mem_singleton.1 member ▸ delimiter)
  have gap {c : Char} (blank : isBlank c = true) : IsGap [c] :=
    ⟨List.cons_ne_nil c [], by simpa [isBlankText] using blank⟩
  let first : ClauseBinding := .renamed ['a'] [' '] ['\n'] ['b']
  let second : ClauseBinding := .renamed ['c'] [' '] [' '] ['e']
  let clause : ImportClause := ⟨[⟨[], some (.plain ['d']), []⟩, ⟨[' '], none, []⟩],
    some [⟨[' '], some first, []⟩, ⟨[' '], some second, [' ']⟩]⟩
  have wellFormed : clause.WellFormed := by
    have isD : IsClauseWord ['d'] := name rfl (by decide)
    have isFirst : first.WellFormed :=
      ⟨name rfl (by decide), gap rfl, gap rfl, name rfl (by decide)⟩
    have isSecond : second.WellFormed :=
      ⟨name rfl (by decide), gap rfl, gap rfl, name rfl (by decide)⟩
    refine ⟨?_, ?_, ?_⟩
    · simp only [clause, List.forall_mem_cons]
      refine ⟨⟨rfl, ?_, rfl⟩, ⟨rfl, nofun, rfl⟩, nofun⟩
      rintro _ ⟨⟩
      exact isD
    · simp only [clause, List.forall_mem_cons]
      refine ⟨?_, nofun, nofun⟩
      rintro _ ⟨⟩
      trivial
    · rintro _ ⟨⟩
      simp only [List.forall_mem_cons]
      refine ⟨⟨rfl, ?_, rfl⟩, ⟨rfl, ?_, rfl⟩, nofun⟩
      · rintro _ ⟨⟩
        exact isFirst
      · rintro _ ⟨⟩
        exact isSecond
  obtain ⟨standard, read, -⟩ := importedNames_of_spacing wellFormed
  exact ⟨by decide +kernel, read.trans rfl, standard.trans rfl⟩

/-- The names read off a clause need not be those that its standard form binds. -/
theorem not_importedNames_standardForm : ¬ ∀ text statement rest,
    readImport? text = some (statement, rest) →
      importedNames statement.clause = importedNames (normaliseClause statement.clause) := by
  intro all
  have same := all "import \x7ba as\nb\x7d from 'm'".toList
    ⟨"\x7ba as\nb\x7d".toList, ['m']⟩ [] (by decide +kernel)
  revert same
  decide +kernel

end GlassPrompt
