import GlassPrompt.Markup.Tag
import Mathlib.Data.List.TakeWhile
import Mathlib.Tactic

/-!
# What the readers of tags take from a text

Every reader of `Markup/Tag.lean` splits its text into the part that it takes and the rest.  Each
lemma below writes such a text as `part ++ rest`, reader by reader, up to `append_of_readTag`, and
says what the part looks like.

* `SlashStays` — the part does not end in a slash that the rest would turn into the end of a tag.
* `isTagName` — what a tag may be called.
* `Tag.WrittenAs` — a tag and its text agree: mark, name, and the end `>` or `/>`.
* `writtenAs_of_readTag` — the text of every tag that is read is written as that tag.

The slash is the delicate point.  A tag is self-closing exactly when its text ends in `/>`, so no
attribute may end in a slash that stands right before the `>` of an opening tag; a bare word is the
only value that could (`append_takeBareValue`).
-/

namespace GlassPrompt

/-! ## Slashes -/

/-- The part taken from a text does not end in a slash that the rest would complete to `/>`. -/
def SlashStays (part rest : Text) : Prop :=
  part.getLast? = some '/' → rest.head? ≠ some '>'

lemma slashStays_of_not_mem {part : Text} (free : '/' ∉ part) (rest : Text) :
    SlashStays part rest := by
  intro last
  exact absurd (List.mem_of_getLast? last) free

lemma SlashStays.append {first part rest : Text} (free : '/' ∉ first) (stays : SlashStays part rest) :
    SlashStays (first ++ part) rest := by
  intro last
  rw [List.getLast?_append, Option.or_eq_some_iff] at last
  rcases last with last | ⟨_, last⟩
  · exact stays last
  · exact absurd (List.mem_of_getLast? last) free

lemma slash_not_mem_takeWhile {p : Char → Bool} (text : Text) (excluded : p '/' = false) :
    '/' ∉ text.takeWhile p := by
  intro member
  have := List.mem_takeWhile_imp member
  rw [excluded] at this
  exact Bool.noConfusion this

/-- The blanks at the start of a text, and the text behind them. -/
lemma blanks_append_trimStart (text : Text) :
    text.takeWhile isBlank ++ Text.trimStart text = text :=
  List.takeWhile_append_dropWhile

lemma slash_not_mem_blanks (text : Text) : '/' ∉ text.takeWhile isBlank :=
  slash_not_mem_takeWhile text (by decide)

/-! ## Attributes -/

/-- A bare word ends before a `/>`, so a slash at its end is not the slash of one. -/
lemma append_takeBareValue (text : Text) :
    ∃ rest, text = takeBareValue text ++ rest ∧ SlashStays (takeBareValue text) rest := by
  fun_induction takeBareValue text with
  | case1 => exact ⟨[], rfl, by simp [SlashStays]⟩
  | case2 rest => exact ⟨'/' :: '>' :: rest, rfl, by simp [SlashStays]⟩
  | case3 c rest _ _ => exact ⟨c :: rest, rfl, by simp [SlashStays]⟩
  | case4 c rest notEnd stop ih =>
    obtain ⟨after, eq, stays⟩ := ih
    refine ⟨after, by rw [List.cons_append, ← eq], ?_⟩
    intro last next
    rw [List.getLast?_cons] at last
    cases value : takeBareValue rest with
    | nil =>
      -- the slash is the last character read, and the word stops right behind it
      rw [value] at last eq
      obtain ⟨tail, rfl⟩ : ∃ tail, after = '>' :: tail := by
        cases after with
        | nil => simp at next
        | cons d tail => exact ⟨tail, by simpa using next⟩
      exact notEnd tail (by simpa using last) eq
    | cons d word =>
      refine stays ?_ next
      rw [value] at last ⊢
      simpa [List.getLast?_cons] using last

/-- A quoted value and its closing quote. -/
lemma takeWhile_append_quote {quote : Char} {text : Text} (closed : text.contains quote = true) :
    text = (text.takeWhile (· != quote) ++ [quote]) ++ (text.dropWhile (· != quote)).drop 1 := by
  induction text with
  | nil => simp at closed
  | cons c rest ih =>
    by_cases same : c = quote
    · subst same
      simp
    · have closed : rest.contains quote = true := by
        simpa [Ne.symm same] using closed
      simp only [List.takeWhile_cons, List.dropWhile_cons, bne_iff_ne, ne_eq, same,
        not_false_eq_true, if_true, List.cons_append]
      rw [← ih closed]

lemma append_of_readAttributeValue {tag name text key : Text} {value : AttributeValue} {rest : Text}
    (h : readAttributeValue tag name text = .read key value rest) :
    ∃ part, text = part ++ rest ∧ SlashStays part rest := by
  cases text with
  | nil => simp [readAttributeValue] at h
  | cons c cs =>
    simp only [readAttributeValue] at h
    split at h
    · next quote =>
      split at h
      · next closed =>
        simp only [AttributeReading.read.injEq] at h
        obtain ⟨-, -, rfl⟩ := h
        refine ⟨c :: (cs.takeWhile (· != c) ++ [c]), ?_, ?_⟩
        · rw [List.cons_append, ← takeWhile_append_quote closed]
        · rw [← List.cons_append]
          intro last
          rw [List.getLast?_concat] at last
          rcases quote with rfl | rfl <;> simp at last
      · simp at h
    · split at h
      · next brace =>
        subst brace
        split at h
        · simp at h
        · next n length =>
          simp only [AttributeReading.read.injEq] at h
          obtain ⟨-, -, rfl⟩ := h
          obtain ⟨-, eq⟩ := append_of_braceLength? length
          refine ⟨_, eq, ?_⟩
          intro last
          rw [List.getLast?_concat] at last
          simp at last
      · simp only [AttributeReading.read.injEq] at h
        obtain ⟨-, -, rfl⟩ := h
        obtain ⟨after, eq, stays⟩ := append_takeBareValue (c :: cs)
        generalize takeBareValue (c :: cs) = word at eq stays
        rw [eq, List.drop_left]
        exact ⟨word, rfl, stays⟩

lemma append_of_readAttribute {tag text key : Text} {value : AttributeValue} {rest : Text}
    (h : readAttribute tag text = .read key value rest) :
    ∃ part, text = part ++ rest ∧ SlashStays part rest := by
  cases text with
  | nil => simp [readAttribute] at h
  | cons c cs =>
    simp only [readAttribute] at h
    split at h
    · next start =>
      have first : c ≠ '/' := by
        rintro rfl
        exact absurd start (by decide)
      have named : '/' ∉ c :: cs.takeWhile isAttributeNameRest := by
        rw [List.mem_cons, not_or]
        exact ⟨first.symm, slash_not_mem_takeWhile cs (by decide)⟩
      have behindName := blanks_append_trimStart (cs.dropWhile isAttributeNameRest)
      have whole : c :: cs = (c :: cs.takeWhile isAttributeNameRest)
          ++ cs.dropWhile isAttributeNameRest := by
        rw [List.cons_append, List.takeWhile_append_dropWhile]
      have blanks := slash_not_mem_blanks (cs.dropWhile isAttributeNameRest)
      split at h
      · next after equals =>
        obtain ⟨part, eq, stays⟩ := append_of_readAttributeValue h
        refine ⟨(c :: cs.takeWhile isAttributeNameRest) ++
          ((cs.dropWhile isAttributeNameRest).takeWhile isBlank ++
            (['='] ++ (after.takeWhile isBlank ++ part))), ?_, ?_⟩
        · have behindEquals := blanks_append_trimStart after
          rw [eq] at behindEquals
          rw [equals] at behindName
          rw [List.append_assoc, List.append_assoc, List.append_assoc, List.append_assoc,
            behindEquals, List.singleton_append, behindName, ← whole]
        · exact .append named (.append blanks (.append (by decide)
            (.append (slash_not_mem_blanks after) stays)))
      · simp only [AttributeReading.read.injEq] at h
        obtain ⟨-, -, rfl⟩ := h
        refine ⟨(c :: cs.takeWhile isAttributeNameRest) ++
          (cs.dropWhile isAttributeNameRest).takeWhile isBlank, ?_, ?_⟩
        · rw [List.append_assoc, behindName, ← whole]
        · exact .append named (slashStays_of_not_mem blanks _)
    · simp at h

/-! ## Tags -/

/-- How a tag ends. -/
def TagForm.tail : TagForm → Text
  | .selfClosing => ['/', '>']
  | _ => ['>']

lemma append_of_readAttributes {name text key : Text} {attributes found : Attributes}
    {form : TagForm} {rest : Text}
    (h : readAttributes name attributes text = .read key found form rest) :
    key = name ∧ form ≠ .closing ∧ ∃ part, text = part ++ form.tail ++ rest ∧
      (form = .opening → part.getLast? ≠ some '/') := by
  fun_induction readAttributes name attributes text with
  | case1 => simp at h
  | case2 attributes text after eq =>
    simp only [TagReading.read.injEq] at h
    obtain ⟨rfl, -, rfl, rfl⟩ := h
    refine ⟨rfl, by decide, text.takeWhile isBlank, ?_, ?_⟩
    · conv_lhs => rw [← blanks_append_trimStart text, eq]
      simp [TagForm.tail]
    · intro _ last
      exact slash_not_mem_blanks text (List.mem_of_getLast? last)
  | case3 attributes text after eq =>
    simp only [TagReading.read.injEq] at h
    obtain ⟨rfl, -, rfl, rfl⟩ := h
    refine ⟨rfl, by decide, text.takeWhile isBlank, ?_, fun opening => nomatch opening⟩
    conv_lhs => rw [← blanks_append_trimStart text, eq]
    simp [TagForm.tail]
  | case4 => simp at h
  | case5 => simp at h
  | case6 attributes text key value after read _ _ _ ih =>
    obtain ⟨rfl, form, part, eq, last⟩ := ih h
    obtain ⟨written, writtenEq, stays⟩ := append_of_readAttribute read
    refine ⟨rfl, form, text.takeWhile isBlank ++ written ++ part, ?_, ?_⟩
    · conv_lhs => rw [← blanks_append_trimStart text, writtenEq, eq]
      simp [List.append_assoc]
    · intro opening ends
      subst opening
      rw [List.getLast?_append, Option.or_eq_some_iff] at ends
      rcases ends with ends | ⟨none, ends⟩
      · exact last rfl ends
      · -- nothing stands between the attribute and the `>`
        rw [List.getLast?_eq_none_iff.1 none] at eq
        refine SlashStays.append (slash_not_mem_blanks text) stays ends ?_
        simp [eq, TagForm.tail]

lemma append_of_readClosing {name text key : Text} {found : Attributes} {form : TagForm} {rest : Text}
    (h : readClosing name text = .read key found form rest) :
    key = name ∧ form = .closing ∧ ∃ part, text = part ++ form.tail ++ rest ∧
      part.getLast? ≠ some '/' := by
  simp only [readClosing] at h
  split at h
  · simp at h
  · next after eq =>
    simp only [TagReading.read.injEq] at h
    obtain ⟨rfl, -, rfl, rfl⟩ := h
    refine ⟨rfl, rfl, text.takeWhile isBlank, ?_, ?_⟩
    · conv_lhs => rw [← blanks_append_trimStart text, eq]
      simp [TagForm.tail]
    · intro last
      exact slash_not_mem_blanks text (List.mem_of_getLast? last)
  · simp at h

/-- A letter, and then the characters that a tag name goes on with. -/
def isTagName : Text → Bool
  | [] => false
  | c :: rest => c.isAlpha && rest.all isTagNameRest

lemma readTagName_eq_read {reader : Text → Text → TagReading} {text name : Text}
    {attributes : Attributes} {form : TagForm} {rest : Text}
    (h : readTagName reader text = .read name attributes form rest) :
    ∃ called after, isTagName called = true ∧ text = called ++ after ∧
      reader called after = .read name attributes form rest := by
  cases text with
  | nil => simp [readTagName] at h
  | cons c cs =>
    simp only [readTagName] at h
    split at h
    · next letter =>
      refine ⟨_, _, ?_, ?_, h⟩
      · simp only [isTagName, letter, Bool.true_and, List.all_takeWhile]
      · rw [List.cons_append, List.takeWhile_append_dropWhile]
    · simp at h

/-- What follows the `<` of a tag: a slash if the tag is closing, its name, a part that holds its
attributes, and its end. -/
lemma append_of_readTag {text name : Text} {attributes : Attributes} {form : TagForm} {rest : Text}
    (h : readTag text = .read name attributes form rest) :
    isTagName name = true ∧ ∃ part,
      text = (if form = .closing then ['/'] else []) ++ name ++ part ++ form.tail ++ rest ∧
        (form ≠ .selfClosing → part.getLast? ≠ some '/') := by
  unfold readTag at h
  split at h
  · next after =>
    obtain ⟨called, behind, isName, rfl, read⟩ := readTagName_eq_read h
    obtain ⟨rfl, rfl, part, rfl, last⟩ := append_of_readClosing read
    exact ⟨isName, part, by simp [List.append_assoc], fun _ => last⟩
  · obtain ⟨called, behind, isName, rfl, read⟩ := readTagName_eq_read h
    obtain ⟨rfl, notClosing, part, rfl, last⟩ := append_of_readAttributes read
    refine ⟨isName, part, by simp [notClosing, List.append_assoc], fun notSelf => last ?_⟩
    cases form with
    | opening => rfl
    | closing => exact absurd rfl notClosing
    | selfClosing => exact absurd rfl notSelf

/-! ## A tag and its text -/

/-- The text of a tag: its mark and name stand in front, `</` tells a closing tag, and `/>` at the
end a self-closing one. -/
structure Tag.WrittenAs (tag : Tag) (text : Text) : Prop where
  front : tag.mark ++ tag.name <+: text
  closing : ['<', '/'] <+: text ↔ tag.form = .closing
  back : ['>'] <:+ text
  selfClosing : ['/', '>'] <:+ text ↔ tag.form = .selfClosing

lemma isTagName_eq_cons {name : Text} (h : isTagName name = true) :
    ∃ c rest, name = c :: rest ∧ '/' ∉ c :: rest := by
  cases name with
  | nil => simp [isTagName] at h
  | cons c rest =>
    simp only [isTagName, Bool.and_eq_true, List.all_eq_true] at h
    refine ⟨c, rest, rfl, ?_⟩
    intro member
    rcases List.mem_cons.1 member with rfl | member
    · exact absurd h.1 (by decide)
    · exact absurd (h.2 _ member) (by decide)

lemma selfClosing_end_iff (text : Text) : ['/', '>'] <:+ text ++ ['>'] ↔ text.getLast? = some '/' := by
  constructor
  · rintro ⟨before, ends⟩
    rw [show ['/', '>'] = ['/'] ++ ['>'] from rfl, ← List.append_assoc] at ends
    rw [← List.append_cancel_right ends, List.getLast?_concat]
  · intro last
    obtain ⟨before, rfl⟩ := List.getLast?_eq_some_iff.1 last
    exact ⟨before, by simp⟩

/-- A mark, a name, a part that does not end in a slash of its own, and the end. -/
lemma writtenAs_append {tag : Tag} {part : Text} (isName : isTagName tag.name = true)
    (last : tag.form ≠ .selfClosing → part.getLast? ≠ some '/') :
    tag.WrittenAs (tag.mark ++ tag.name ++ part ++ tag.form.tail) := by
  obtain ⟨c, rest, name, free⟩ := isTagName_eq_cons isName
  refine ⟨?_, ?_, ?_, ?_⟩
  · exact ⟨part ++ tag.form.tail, by simp [List.append_assoc]⟩
  · have first : '/' ≠ c := fun same => free (same ▸ List.mem_cons_self)
    by_cases form : tag.form = .closing <;> simp [Tag.mark, form, name, first]
  · cases tag.form with
    | selfClosing => exact ⟨tag.mark ++ tag.name ++ part ++ ['/'], by simp [TagForm.tail]⟩
    | _ => exact ⟨tag.mark ++ tag.name ++ part, rfl⟩
  · by_cases form : tag.form = .selfClosing
    · rw [form]
      simp only [iff_true]
      exact ⟨tag.mark ++ tag.name ++ part, rfl⟩
    · have tail : tag.form.tail = ['>'] := by
        cases h : tag.form with
        | selfClosing => exact absurd h form
        | _ => rfl
      rw [tail, selfClosing_end_iff]
      refine iff_of_false ?_ form
      intro ends
      rw [List.getLast?_append, Option.or_eq_some_iff] at ends
      rcases ends with ends | ⟨-, ends⟩
      · exact last form ends
      · rw [List.getLast?_append_of_ne_nil _ (by simp [name])] at ends
        exact free (name ▸ List.mem_of_getLast? ends)

theorem writtenAs_of_readTag {text : Text} (tag : Tag) {rest : Text}
    (h : readTag text = .read tag.name tag.attributes tag.form rest) :
    ∃ part, text = part ++ rest ∧ tag.WrittenAs ('<' :: part) := by
  obtain ⟨isName, part, eq, last⟩ := append_of_readTag h
  have written := writtenAs_append isName last
  have mark : tag.mark = '<' :: (if tag.form = .closing then ['/'] else []) := by
    unfold Tag.mark
    split <;> rfl
  rw [mark] at written
  exact ⟨_, eq, written⟩

end GlassPrompt
