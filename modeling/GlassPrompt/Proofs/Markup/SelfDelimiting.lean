import GlassPrompt.Proofs.Markup.Continuation

/-!
# Tokens delimit themselves

The readers of tags are greedy, and some of them look ahead.  But a tag ends at its `>` and a region at
its brace, and no reader looks past that end; so a token is read in the same way wherever its text
stands.

* `readTagName_name`, `readAttribute_name`, `readAttributeValue_quote`, `readAttributeValue_braces` —
  what a name, a quoted text and a script in braces are read as, whatever follows.
* `readAttribute_upTo` — an attribute is read in the same way in front of any text that goes on like
  the rest of its tag.
* `StopsAtEnd`, `stopsAtEnd_readTag` — a tag is read in the same way in front of any text.
* `readToken_upTo` — one step finds the same markup in front of any text, and at any offset.
* `tokens_selfDelimiting` — the text of a token is scanned as that token, alone and in front of any
  text.
-/

namespace GlassPrompt

/-! ## Blanks -/

lemma isTagNameRest_of_isBlank {c : Char} (blank : isBlank c = true) : isTagNameRest c = false := by
  simp [isTagNameRest, isWord_of_isBlank blank, ne_of_class blank (d := '.') (by decide),
    ne_of_class blank (d := ':') (by decide), ne_of_class blank (d := '-') (by decide)]

lemma isAttributeNameRest_of_isBlank {c : Char} (blank : isBlank c = true) :
    isAttributeNameRest c = false := by
  simp [isAttributeNameRest, isTagNameRest_of_isBlank blank,
    ne_of_class blank (d := '$') (by decide)]

lemma ne_nil_of_getLast? {text : Text} {last : Char} (ends : text.getLast? = some last) :
    text ≠ [] := by
  rintro rfl
  exact nomatch ends

/-- What follows the blanks at the start of a text is found behind them whatever it goes on with. -/
lemma exists_blanks (start : Text) {text rest : Text} (trimmed : Text.trimStart text = start ++ rest)
    (nonempty : start ≠ []) :
    ∃ lead, Text.isBlankText lead = true ∧ text = lead ++ (start ++ rest) ∧
      ∀ more, Text.trimStart (lead ++ (start ++ more)) = start ++ more := by
  obtain ⟨lead, blank, whole⟩ := Text.exists_trimStart text
  obtain ⟨c, others, rfl⟩ := List.exists_cons_of_ne_nil nonempty
  have noBlank : isBlank c = false := by
    have first := List.head?_dropWhile_not isBlank text
    rw [show text.dropWhile isBlank = c :: others ++ rest from trimmed] at first
    exact first
  refine ⟨lead, blank, trimmed ▸ whole, fun more => ?_⟩
  rw [Text.trimStart_of_blank blank]
  exact Text.trimStart_of_noBlank noBlank

/-! ## Names -/

/-- A letter, underscore or dollar sign, and then the characters that an attribute name goes on
with. -/
def isAttributeName : Text → Bool
  | [] => false
  | c :: rest => isNameStart c && rest.all isAttributeNameRest

/-- Only the first character of a text that is not empty decides whether a name stops in front of
it. -/
lemma stops_append {p : Char → Bool} {start rest : Text} (nonempty : start ≠ [])
    (stops : ∀ c ∈ (start ++ rest).head?, p c = false) (more : Text) :
    ∀ c ∈ (start ++ more).head?, p c = false := by
  obtain ⟨c, others, rfl⟩ := List.exists_cons_of_ne_nil nonempty
  exact stops

/-- A tag name is read up to a character that does not go on with it. -/
lemma readTagName_name {reader : Text → Text → TagReading} {name behind : Text}
    (isName : isTagName name = true) (stops : ∀ c ∈ behind.head?, isTagNameRest c = false) :
    readTagName reader (name ++ behind) = reader name behind := by
  cases name with
  | nil => exact nomatch isName
  | cons c rest =>
    obtain ⟨letter, others⟩ := Bool.and_eq_true_iff.1 isName
    rw [List.cons_append, readTagName]
    simp only [letter, if_true, takeWhile_of_stop others stops, dropWhile_of_stop others stops]

/-- An attribute name is read up to a character that does not go on with it. -/
lemma readAttribute_name {tag name behind : Text} (isName : isAttributeName name = true)
    (stops : ∀ c ∈ behind.head?, isAttributeNameRest c = false) :
    readAttribute tag (name ++ behind) = readBehindName tag name (Text.trimStart behind) := by
  cases name with
  | nil => exact nomatch isName
  | cons c rest =>
    obtain ⟨start, others⟩ := Bool.and_eq_true_iff.1 isName
    rw [List.cons_append, readAttribute_eq start, takeWhile_of_stop others stops,
      dropWhile_of_stop others stops]

/-- What is read of an attribute starts with its name. -/
lemma exists_name_of_readAttribute {tag text key : Text} {value : AttributeValue} {rest : Text}
    (read : readAttribute tag text = .read key value rest) :
    ∃ name behind, isAttributeName name = true ∧ text = name ++ behind ∧
      (∀ c ∈ behind.head?, isAttributeNameRest c = false) ∧
      readBehindName tag name (Text.trimStart behind) = .read key value rest := by
  cases text with
  | nil => exact nomatch read
  | cons c cs =>
    by_cases start : isNameStart c = true
    · rw [readAttribute_eq start] at read
      refine ⟨c :: cs.takeWhile isAttributeNameRest, cs.dropWhile isAttributeNameRest, ?_, ?_,
        stops_dropWhile cs, read⟩
      · simp only [isAttributeName, start, Bool.true_and, List.all_takeWhile]
      · rw [List.cons_append, List.takeWhile_append_dropWhile]
    · simp [readAttribute, start] at read

/-! ## Values -/

/-- What follows the brace that closes a script does not matter. -/
lemma braceLength?_of_closesInBraces {script : Text} (closes : ClosesInBraces script) (rest : Text) :
    braceLength? .code 0 ('\x7b' :: (script ++ ['\x7d'] ++ rest)) = some (script.length + 2) := by
  have whole := braceLength?_append .code 0 ('\x7b' :: script ++ ['\x7d']) rest
  rw [closes, Option.some_or] at whole
  exact whole

lemma take_inBraces (script rest : Text) :
    (script ++ ['\x7d'] ++ rest).take (script.length + 2 - 2) = script := by
  rw [List.append_assoc]
  exact List.take_left

section

variable {tag name : Text}

/-- A quoted text is read up to its quote. -/
lemma readAttributeValue_quote {quote : Char} {value : Text} (quotes : quote = '\'' ∨ quote = '"')
    (inside : quote ∉ value) (rest : Text) :
    readAttributeValue tag name (quote :: value ++ [quote] ++ rest) =
      .read name (.text value) rest := by
  have all : value.all (· != quote) = true := by
    rw [List.all_eq_true]
    intro c member
    exact bne_iff_ne.2 fun same => inside (same ▸ member)
  have stops : ∀ c ∈ (quote :: rest).head?, (c != quote) = false := by
    intro c first
    rw [← Option.some.inj first]
    exact bne_self_eq_false quote
  have closed : (value ++ quote :: rest).contains quote = true := by simp
  rw [List.append_assoc, List.cons_append, List.singleton_append,
    readAttributeValue_quoted quotes closed, takeWhile_of_stop all stops,
    dropWhile_of_stop all stops]
  rfl

/-- A script in braces is read up to its brace. -/
lemma readAttributeValue_braces {script : Text} (closes : ClosesInBraces script) (rest : Text) :
    readAttributeValue tag name ('\x7b' :: script ++ ['\x7d'] ++ rest) =
      .read name (.text (Text.trim script)) rest := by
  rw [List.cons_append, List.cons_append,
    readAttributeValue_script (braceLength?_of_closesInBraces closes rest)]
  congr 3
  · exact take_inBraces script rest
  · show (script ++ ['\x7d'] ++ rest).drop (script.length + 1) = rest
    exact List.drop_left' (by simp)

/-! ## Attributes, up to the end of their tag -/

variable {key stop rest : Text} {value : AttributeValue} (ends : stop.getLast? = some '>')

include ends

/-- A bare word stops within `stop`, so what follows `stop` cannot make it longer. -/
lemma readAttributeValue_bare_upTo {c : Char} {text : Text} (notQuoted : ¬ (c = '\'' ∨ c = '"'))
    (noBrace : c ≠ '\x7b')
    (behind : (c :: text).drop (takeBareValue (c :: text)).length = stop ++ rest) :
    c :: text = takeBareValue (c :: text) ++ (stop ++ rest) ∧ ∀ more,
      readAttributeValue tag name (takeBareValue (c :: text) ++ (stop ++ more)) =
        .read name (.text (takeBareValue (c :: text))) (stop ++ more) := by
  have whole := drop_takeBareValue (c :: text)
  rw [behind, ← List.append_assoc] at whole
  refine ⟨whole.trans (List.append_assoc _ _ _), fun more => ?_⟩
  have ends' : (takeBareValue (c :: text) ++ stop).getLast? = some '>' := by
    rw [List.getLast?_append, ends, Option.some_or]
  obtain ⟨tail, start⟩ : ∃ tail, takeBareValue (c :: text) ++ stop = c :: tail := by
    obtain ⟨d, tail, start⟩ := List.exists_cons_of_ne_nil
      (List.append_ne_nil_of_right_ne_nil (takeBareValue (c :: text)) (ne_nil_of_getLast? ends))
    rw [start] at whole
    exact ⟨tail, start.trans (congrArg (· :: tail) (List.cons.inj whole).1.symm)⟩
  have word (more : Text) : takeBareValue (c :: (tail ++ more)) = takeBareValue (c :: text) := by
    have sameWord (more : Text) := takeBareValue_append_of_stop ends' (by decide) more
    rw [start] at sameWord whole
    rw [whole, sameWord, ← List.cons_append, sameWord]
  rw [← List.append_assoc, start, List.cons_append, readAttributeValue_bare notQuoted noBrace, word,
    ← List.cons_append, ← start, List.append_assoc, List.drop_left]

lemma readAttributeValue_upTo {text : Text}
    (read : readAttributeValue tag name text = .read key value (stop ++ rest)) :
    ∃ part, text = part ++ (stop ++ rest) ∧ ∀ more,
      readAttributeValue tag name (part ++ (stop ++ more)) = .read key value (stop ++ more) := by
  cases text with
  | nil => simp [readAttributeValue] at read
  | cons c cs =>
    by_cases quotes : c = '\'' ∨ c = '"'
    · by_cases closed : cs.contains c = true
      · rw [readAttributeValue_quoted quotes closed] at read
        obtain ⟨rfl, rfl, behind⟩ := AttributeReading.read.inj read
        have inside : c ∉ cs.takeWhile (· != c) := fun member => by
          simpa using List.mem_takeWhile_imp member
        refine ⟨c :: cs.takeWhile (· != c) ++ [c], ?_, fun more =>
          readAttributeValue_quote quotes inside (stop ++ more)⟩
        rw [← behind, List.cons_append, List.cons_append, ← takeWhile_append_quote closed]
      · simp only [readAttributeValue, if_pos quotes, if_neg closed, reduceCtorEq] at read
    · by_cases brace : c = '\x7b'
      · subst brace
        cases length : braceLength? .code 0 ('\x7b' :: cs) with
        | none =>
          simp [readAttributeValue, length] at read
        | some n =>
          rw [readAttributeValue_script length] at read
          obtain ⟨rfl, rfl, behind⟩ := AttributeReading.read.inj read
          refine ⟨_, behind ▸ (append_of_braceLength? length).2, fun more => ?_⟩
          exact readAttributeValue_braces (closesInBraces_of_braceLength? length) (stop ++ more)
      · rw [readAttributeValue_bare quotes brace] at read
        obtain ⟨rfl, rfl, behind⟩ := AttributeReading.read.inj read
        exact ⟨_, readAttributeValue_bare_upTo ends quotes brace behind⟩

lemma readBehindName_upTo {text : Text}
    (read : readBehindName tag name text = .read key value (stop ++ rest)) :
    ∃ part, text = part ++ (stop ++ rest) ∧ ∀ more,
      readBehindName tag name (part ++ (stop ++ more)) = .read key value (stop ++ more) := by
  cases text with
  | nil =>
    obtain ⟨-, -, none⟩ := AttributeReading.read.inj read
    exact absurd (List.append_eq_nil_iff.1 none.symm).1 (ne_nil_of_getLast? ends)
  | cons c cs =>
    by_cases equals : c = '='
    · subst equals
      obtain ⟨part, eq, same⟩ := readAttributeValue_upTo ends read
      rw [← List.append_assoc] at eq
      obtain ⟨lead, -, rfl, trimmed⟩ := exists_blanks _ eq
        (List.append_ne_nil_of_right_ne_nil part (ne_nil_of_getLast? ends))
      refine ⟨'=' :: (lead ++ part), by simp, fun more => ?_⟩
      show readAttributeValue tag name (Text.trimStart (lead ++ part ++ (stop ++ more))) = _
      rw [List.append_assoc, ← List.append_assoc part, trimmed, List.append_assoc, same]
    · rw [readBehindName_flag equals] at read
      obtain ⟨rfl, rfl, whole⟩ := AttributeReading.read.inj read
      refine ⟨[], whole, fun more => ?_⟩
      obtain ⟨d, tail, rfl⟩ := List.exists_cons_of_ne_nil (ne_nil_of_getLast? ends)
      obtain ⟨rfl, -⟩ := List.cons.inj whole
      exact readBehindName_flag equals

/-- An attribute is read in the same way in front of any text that goes on like the rest of its
tag. -/
lemma readAttribute_upTo {text : Text}
    (read : readAttribute tag text = .read key value (stop ++ rest)) :
    ∃ part, text = part ++ (stop ++ rest) ∧ ∀ more,
      readAttribute tag (part ++ (stop ++ more)) = .read key value (stop ++ more) := by
  obtain ⟨name, behind, isName, rfl, stops, read⟩ := exists_name_of_readAttribute read
  obtain ⟨part, eq, same⟩ := readBehindName_upTo ends read
  have nonempty : part ++ stop ≠ [] :=
    List.append_ne_nil_of_right_ne_nil part (ne_nil_of_getLast? ends)
  rw [← List.append_assoc] at eq
  obtain ⟨lead, -, rfl, trimmed⟩ := exists_blanks _ eq nonempty
  refine ⟨name ++ (lead ++ part), by simp, fun more => ?_⟩
  rw [← List.append_assoc lead] at stops
  have stopsThere := stops_append (List.append_ne_nil_of_right_ne_nil lead nonempty) stops more
  rw [List.append_assoc] at stopsThere
  have trimmedThere := trimmed more
  rw [List.append_assoc] at stopsThere trimmedThere
  rw [List.append_assoc, List.append_assoc, readAttribute_name isName stopsThere, trimmedThere, same]

end

/-! ## Tags -/

/-- The reader does not look past the `>` at which it stops: with any other text behind that it reads
the same tag. -/
def StopsAtEnd (reader : Text → TagReading) : Prop :=
  ∀ text name attributes form rest, reader text = .read name attributes form rest →
    ∃ part, text = part ++ rest ∧ part.getLast? = some '>' ∧
      ∀ more, reader (part ++ more) = .read name attributes form more

/-- Reading the attributes of a tag goes on behind an attribute. -/
lemma readAttributes_attribute {name text key rest : Text} {attributes : Attributes}
    {value : AttributeValue}
    (read : readAttribute name (Text.trimStart text) = .read key value rest) :
    readAttributes name attributes text = readAttributes name (attributes.set key value) rest := by
  have noAttribute {c : Char} (first : isNameStart c = false) (behind : Text) :
      Text.trimStart text ≠ c :: behind := fun same => by
    simp [same, readAttribute, first] at read
  rw [readAttributes_goesOn, read]
  · intro none
    rw [none] at read
    simp [readAttribute] at read
  · exact noAttribute (by decide)
  · exact fun rest => noAttribute (by decide) ('>' :: rest)

lemma stopsAtEnd_readAttributes (name : Text) (attributes : Attributes) :
    StopsAtEnd (readAttributes name attributes) := by
  intro text key found form rest read
  fun_induction readAttributes name attributes text with
  | case1 => simp at read
  | case2 attributes text after eq =>
    obtain ⟨rfl, rfl, rfl, rfl⟩ := TagReading.read.inj read
    obtain ⟨lead, -, rfl, trimmed⟩ := exists_blanks ['>'] eq (by decide)
    refine ⟨lead ++ ['>'], by simp, List.getLast?_concat, fun more => ?_⟩
    rw [List.append_assoc]
    exact readAttributes_opening (trimmed more)
  | case3 attributes text after eq =>
    obtain ⟨rfl, rfl, rfl, rfl⟩ := TagReading.read.inj read
    obtain ⟨lead, -, rfl, trimmed⟩ := exists_blanks ['/', '>'] eq (by decide)
    refine ⟨lead ++ ['/', '>'], by simp, by simp, fun more => ?_⟩
    rw [List.append_assoc]
    exact readAttributes_selfClosing (trimmed more)
  | case4 => simp at read
  | case5 => simp at read
  | case6 attributes text key value after here _ _ _ ih =>
    obtain ⟨stop, rfl, ends, same⟩ := ih read
    obtain ⟨part, eq, sameHere⟩ := readAttribute_upTo ends here
    rw [← List.append_assoc] at eq
    obtain ⟨lead, -, rfl, trimmed⟩ := exists_blanks _ eq
      (List.append_ne_nil_of_right_ne_nil part (ne_nil_of_getLast? ends))
    refine ⟨lead ++ (part ++ stop), (List.append_assoc _ _ _).symm, ?_, fun more => ?_⟩
    · rw [List.getLast?_append, List.getLast?_append, ends, Option.some_or, Option.some_or]
    · have readThere := sameHere more
      rw [← List.append_assoc, ← trimmed more, ← List.append_assoc] at readThere
      rw [readAttributes_attribute readThere, same]

lemma stopsAtEnd_readClosing (name : Text) : StopsAtEnd (readClosing name) := by
  intro text key found form rest read
  unfold readClosing at read
  split at read
  · simp at read
  · next after eq =>
    obtain ⟨rfl, rfl, rfl, rfl⟩ := TagReading.read.inj read
    obtain ⟨lead, -, rfl, trimmed⟩ := exists_blanks ['>'] eq (by decide)
    refine ⟨lead ++ ['>'], by simp, List.getLast?_concat, fun more => ?_⟩
    rw [List.append_assoc, readClosing, trimmed]
    rfl
  · simp at read

lemma stopsAtEnd_readTagName {reader : Text → Text → TagReading}
    (stops : ∀ name, StopsAtEnd (reader name)) : StopsAtEnd (readTagName reader) := by
  intro text name attributes form rest read
  cases text with
  | nil => simp [readTagName] at read
  | cons c cs =>
    by_cases letter : c.isAlpha = true
    · simp only [readTagName, if_pos letter] at read
      obtain ⟨part, eq, ends, same⟩ := stops _ _ _ _ _ _ read
      have isName : isTagName (c :: cs.takeWhile isTagNameRest) = true := by
        simp only [isTagName, letter, Bool.true_and, List.all_takeWhile]
      have stopsHere := stops_dropWhile (p := isTagNameRest) cs
      rw [eq] at stopsHere
      refine ⟨c :: cs.takeWhile isTagNameRest ++ part, ?_, ?_, fun more => ?_⟩
      · rw [List.append_assoc, ← eq, List.cons_append, List.takeWhile_append_dropWhile]
      · rw [List.getLast?_append, ends, Option.some_or]
      · rw [List.append_assoc, readTagName_name isName
          (stops_append (ne_nil_of_getLast? ends) stopsHere more), same]
    · simp only [readTagName, if_neg letter, reduceCtorEq] at read

/-- **A tag is read up to its `>`**, in the same way in front of any text. -/
theorem stopsAtEnd_readTag : StopsAtEnd readTag := by
  intro text name attributes form rest read
  cases text with
  | nil => exact nomatch read
  | cons c cs =>
    by_cases slash : c = '/'
    · subst slash
      obtain ⟨part, rfl, ends, same⟩ :=
        stopsAtEnd_readTagName stopsAtEnd_readClosing cs name attributes form rest read
      refine ⟨'/' :: part, rfl, ?_, same⟩
      rw [List.getLast?_cons, ends]
      rfl
    · rw [readTag_cons slash] at read
      obtain ⟨part, eq, ends, same⟩ :=
        stopsAtEnd_readTagName (stopsAtEnd_readAttributes · []) _ _ _ _ _ read
      refine ⟨part, eq, ends, fun more => ?_⟩
      obtain ⟨d, tail, rfl⟩ := List.exists_cons_of_ne_nil (ne_nil_of_getLast? ends)
      obtain ⟨rfl, -⟩ := List.cons.inj eq
      rw [List.cons_append, readTag_cons slash, ← List.cons_append, same]

/-! ## Tokens -/

/-- The token with other offsets. -/
def Token.withSpan (start stop : Nat) : Token → Token
  | .tag t => .tag { t with start := start, stop := stop }
  | .region r => .region { r with start := start, stop := stop }
  | .error e => .error { e with start := start, stop := stop }

/-- What reads as a tag is no comment. -/
lemma noComment_of_readTag {text name rest : Text} {attributes : Attributes} {form : TagForm}
    (read : readTag text = .read name attributes form rest) :
    "!--".toList.isPrefixOf? text = none := by
  rw [Option.eq_none_iff_forall_ne_some]
  intro body comment
  rw [← Text.isPrefixOf?_eq_some_iff.1 comment] at read
  exact nomatch read

/-- A step at a `<` behind which a tag is read. -/
lemma readToken_of_readTag (offset : Nat) {part name more : Text} {attributes : Attributes}
    {form : TagForm} (read : readTag (part ++ more) = .read name attributes form more) :
    readToken offset '<' (part ++ more) =
      (some (.tag ⟨name, attributes, form, offset, offset + 1 + part.length⟩),
        part.length + rawBodyLength name form more) := by
  have angle : readToken offset '<' (part ++ more) = readAngle offset (part ++ more) := rfl
  rw [angle, readAngle_tag (noComment_of_readTag read) read, List.length_append, Nat.add_sub_cancel]

/-- A step at a brace that is closed. -/
lemma readToken_of_closesInBraces (offset : Nat) {script : Text} (closes : ClosesInBraces script)
    (more : Text) :
    readToken offset '\x7b' (script ++ ['\x7d'] ++ more) =
      (some (.region ⟨.ofSource script, script, offset, offset + (script.length + 2)⟩),
        script.length + 1) := by
  have brace : readToken offset '\x7b' (script ++ ['\x7d'] ++ more) =
      readBrace offset (script ++ ['\x7d'] ++ more) := rfl
  rw [brace, readBrace, braceLength?_of_closesInBraces closes more]
  dsimp only
  rw [take_inBraces]
  rfl

/-- A step that finds markup looks no further than to the end of it: in front of other text, and at
another offset, it finds the same and passes it over. -/
theorem readToken_upTo {start : Nat} {c : Char} {rest : Text} {token : Token}
    (found : (readToken start c rest).1 = some token) (markup : token.isMarkup = true) :
    ∃ part after, rest = part ++ after ∧ token.start = start ∧
      token.stop = start + 1 + part.length ∧
      ∀ offset more, ∃ passed, part.length ≤ passed ∧
        readToken offset c (part ++ more) =
          (some (token.withSpan offset (offset + 1 + part.length)), passed) := by
  cases token with
  | error error => exact nomatch markup
  | tag tag =>
    obtain ⟨rfl, after, read, at_, stop⟩ := readTag_of_readToken found
    obtain ⟨part, rfl, -, same⟩ := stopsAtEnd_readTag _ _ _ _ _ read
    rw [List.length_append, Nat.add_sub_cancel] at stop
    exact ⟨part, after, rfl, at_, stop, fun offset more =>
      ⟨_, Nat.le_add_right _ _, readToken_of_readTag offset (same more)⟩⟩
  | region region =>
    obtain ⟨rfl, n, length, rfl⟩ := braceLength?_of_readToken found
    have closes := closesInBraces_of_braceLength? length
    obtain ⟨two, whole⟩ := append_of_braceLength? length
    have within := braceLength?_le length
    have width : (rest.take (n - 2)).length = n - 2 := by
      rw [List.length_take]
      simp only [List.length_cons] at within
      omega
    generalize rest.take (n - 2) = script at closes whole width
    refine ⟨script ++ ['\x7d'], rest.drop (n - 1), (List.cons.inj whole).2, rfl, ?_, ?_⟩
    · show start + n = start + 1 + (script ++ ['\x7d']).length
      rw [List.length_append, width, List.length_singleton]
      omega
    · intro offset more
      have stop : offset + 1 + (script ++ ['\x7d']).length = offset + (script.length + 2) := by
        rw [List.length_append, List.length_singleton]
        omega
      refine ⟨script.length + 1, by simp, ?_⟩
      rw [readToken_of_closesInBraces offset closes more, stop]
      rfl

/-- A text that is passed over in one step has one token. -/
lemma scan_of_readToken {c : Char} {rest : Text} {token : Token} {passed : Nat}
    (read : readToken 0 c rest = (some token, passed)) (whole : rest.length ≤ passed) :
    scan (c :: rest) 0 = [token] := by
  have first : (c :: rest).drop 0 = c :: rest := rfl
  rw [scan_of_drop first, read, scan_of_length_le]
  · rfl
  · show rest.length + 1 ≤ 0 + 1 + passed
    omega

/-- **Tokens delimit themselves.**  The text of a tag or of a region that a scan finds is scanned as
that token and nothing else, and in front of any other text it is still the first token. -/
theorem tokens_selfDelimiting {text : Text} {start : Nat} {token : Token}
    (member : token ∈ scan text start) (markup : token.isMarkup = true) :
    scan (text.slice token.start token.stop) 0 =
        [token.withSpan 0 (token.stop - token.start)] ∧
      ∀ more, (scan (text.slice token.start token.stop ++ more) 0).head? =
        some (token.withSpan 0 (token.stop - token.start)) := by
  obtain ⟨c, rest, eq, found⟩ := readToken_of_mem_scan member
  obtain ⟨part, after, rfl, -, stop, same⟩ := readToken_upTo found markup
  have slice : text.slice token.start token.stop = c :: part := by
    have width : token.stop = token.start + (c :: part).length := by
      rw [stop, List.length_cons]
      omega
    rw [width]
    exact Text.slice_of_drop eq
  have width : token.stop - token.start = 0 + 1 + part.length := by omega
  rw [slice, width]
  constructor
  · obtain ⟨passed, whole, alone⟩ := same 0 []
    rw [List.append_nil] at alone
    exact scan_of_readToken alone whole
  · intro more
    obtain ⟨passed, -, before⟩ := same 0 more
    have first : (c :: part ++ more).drop 0 = c :: (part ++ more) := rfl
    rw [scan_of_drop first, before]
    rfl

/-- A loop whose item is a bare word, with a slash and a `>` behind the loop. -/
def loopInText : Text :=
  "\x7bn\x7d<For each=\x7bf('\x7d')\x7d as=x/>/>".toList

/-- The loop of `loopInText`. -/
def loopTag : Tag :=
  ⟨"For".toList, [("each".toList, .text "f('\x7d')".toList), ("as".toList, .text ['x'])],
    .selfClosing, 3, 28⟩

/-- The loop is read alone as it is read in its text. -/
theorem tokens_selfDelimiting_loop :
    Token.tag loopTag ∈ scan loopInText 0 ∧
      scan "<For each=\x7bf('\x7d')\x7d as=x/>".toList 0 =
        [.tag { loopTag with start := 0, stop := 25 }] := by
  have member : Token.tag loopTag ∈ scan loopInText 0 := by decide +kernel
  exact ⟨member, (tokens_selfDelimiting member rfl).1⟩

end GlassPrompt
