import GlassPrompt.Proofs.Markup.AttributeText
import GlassPrompt.Proofs.Markup.Restart

/-!
# Scanning goes on behind whole lines

What a document starts with can be scanned by itself if it ends with a line and leaves no construct
open: then scanning the whole document finds the same tokens there, and goes on behind it.

* `EndsLine` — a text that ends with a newline, at which every reader has to stop or to go on.
* `readAttribute_append_more`, `readTag_append_more` — text behind the line does not change what is
  read of a tag that is not left open on it.
* `Token.Closed`, `readToken_append_more` — nor what one step finds.
* `scanFrom_append` — scanning in two parts.
* `scanFrom_plain` — text in which nothing can start is passed over.
-/

namespace GlassPrompt

/-! ## Whole lines -/

/-- The text ends with a newline. -/
def EndsLine (text : Text) : Prop :=
  text.getLast? = some '\n'

section

variable {text : Text}

lemma EndsLine.ne_nil (ends : EndsLine text) : text ≠ [] := by
  rintro rfl
  exact nomatch ends

lemma EndsLine.mem (ends : EndsLine text) : '\n' ∈ text :=
  List.mem_of_getLast? ends

lemma EndsLine.of_append {part rest : Text} (ends : EndsLine (part ++ rest)) (nonempty : rest ≠ []) :
    EndsLine rest := by
  rwa [EndsLine, List.getLast?_append_of_ne_nil _ nonempty] at ends

lemma EndsLine.tail {c : Char} {rest : Text} (ends : EndsLine (c :: rest)) (notNewline : c ≠ '\n') :
    EndsLine rest := by
  have whole : EndsLine ([c] ++ rest) := ends
  refine whole.of_append ?_
  rintro rfl
  exact notNewline (Option.some.inj ends)

lemma EndsLine.suffix {rest : Text} (ends : EndsLine text) (suffix : rest <:+ text)
    (nonempty : rest ≠ []) : EndsLine rest := by
  obtain ⟨part, rfl⟩ := suffix
  exact ends.of_append nonempty

end

/-! ### Reading up to a character that is there -/

section

variable {text : Text} (more : Text) {p : Char → Bool} (stops : ∃ c ∈ text, p c = false)

include stops

lemma dropWhile_ne_nil : text.dropWhile p ≠ [] := by
  obtain ⟨c, member, stop⟩ := stops
  intro all
  exact Bool.noConfusion (stop.symm.trans (List.dropWhile_eq_nil_iff.1 all c member))

lemma dropWhile_append_more : (text ++ more).dropWhile p = text.dropWhile p ++ more := by
  rw [List.dropWhile_append, if_neg]
  exact fun all => dropWhile_ne_nil stops (List.isEmpty_iff.1 all)

lemma takeWhile_append_more : (text ++ more).takeWhile p = text.takeWhile p := by
  rw [List.takeWhile_append, if_neg]
  intro all
  obtain ⟨c, member, stop⟩ := stops
  have whole := (List.takeWhile_prefix p).eq_of_length all
  have taken := List.mem_takeWhile_imp (whole.symm ▸ member : c ∈ text.takeWhile p)
  exact Bool.noConfusion (stop.symm.trans taken)

end

lemma trimStart_append_more {text : Text} (more : Text) (nonempty : Text.trimStart text ≠ []) :
    Text.trimStart (text ++ more) = Text.trimStart text ++ more := by
  rw [Text.trimStart, List.dropWhile_append, if_neg]
  · rfl
  · exact fun all => nonempty (List.isEmpty_iff.1 all)

section

variable {text : Text} (ends : EndsLine text) (more : Text)

include ends

lemma EndsLine.stops {p : Char → Bool} (stop : p '\n' = false) : ∃ c ∈ text, p c = false :=
  ⟨'\n', ends.mem, stop⟩

lemma EndsLine.dropWhile {p : Char → Bool} (stop : p '\n' = false) : EndsLine (text.dropWhile p) :=
  ends.suffix (List.dropWhile_suffix p) (dropWhile_ne_nil (ends.stops stop))

lemma EndsLine.trimStart (nonempty : Text.trimStart text ≠ []) : EndsLine (Text.trimStart text) :=
  ends.suffix (List.dropWhile_suffix isBlank) nonempty

/-- Whether a text without newlines comes first. -/
lemma isPrefixOf?_append_more {start : Text} (oneLine : '\n' ∉ start) :
    start.isPrefixOf? (text ++ more) = (start.isPrefixOf? text).map (· ++ more) := by
  induction start generalizing text with
  | nil => rfl
  | cons a start ih =>
    rw [List.mem_cons, not_or] at oneLine
    cases text with
    | nil => exact (ends.ne_nil rfl).elim
    | cons b rest =>
      rw [List.cons_append, List.isPrefixOf?, List.isPrefixOf?]
      split
      · next same =>
        have notNewline : b ≠ '\n' := fun newline => oneLine.1 (newline ▸ beq_iff_eq.1 same).symm
        exact ih (ends.tail notNewline) oneLine.2
      · rfl

end

/-! ## Attributes -/

/-- The reading with more text behind it. -/
def AttributeReading.append (more : Text) : AttributeReading → AttributeReading
  | .read name value rest => .read name value (rest ++ more)
  | other => other

lemma takeBareValue_end (rest : Text) : takeBareValue ('/' :: '>' :: rest) = [] := by
  rw [takeBareValue.eq_def]
  split
  · rfl
  · rfl
  · next notEnd same =>
    obtain ⟨rfl, rfl⟩ := List.cons.inj same
    exact (notEnd rest rfl rfl).elim

lemma takeBareValue_cons {c : Char} {rest : Text}
    (notEnd : ∀ tail, c = '/' → rest = '>' :: tail → False) :
    takeBareValue (c :: rest) =
      if isBlank c || c == '>' then [] else c :: takeBareValue rest := by
  rw [takeBareValue.eq_def]
  split
  · next none => exact nomatch none
  · next same =>
    obtain ⟨rfl, rfl⟩ := List.cons.inj same
    exact (notEnd _ rfl rfl).elim
  · next same =>
    obtain ⟨rfl, rfl⟩ := List.cons.inj same
    rfl

/-- A bare word ends before a blank or a `>`, so it does not go on behind a text that ends with
one. -/
lemma takeBareValue_append_of_stop {text : Text} {last : Char} (ends : text.getLast? = some last)
    (stops : (isBlank last || last == '>') = true) (more : Text) :
    takeBareValue (text ++ more) = takeBareValue text := by
  fun_induction takeBareValue text with
  | case1 => simp at ends
  | case2 rest => exact takeBareValue_end (rest ++ more)
  | case3 c rest _ stop =>
    have noSlash : c ≠ '/' := by
      rintro rfl
      exact absurd stop (by decide)
    rw [List.cons_append, takeBareValue_cons fun _ slash _ => noSlash slash, if_pos stop]
  | case4 c rest notEnd stop ih =>
    -- The last character stops the word, so the text goes on behind this one.
    cases rest with
    | nil =>
      obtain rfl : c = last := Option.some.inj ends
      exact absurd stops stop
    | cons d others =>
      have sameEnd : ∀ tail, c = '/' → d :: others ++ more = '>' :: tail → False := by
        intro tail slash close
        obtain ⟨rfl, -⟩ := List.cons.inj close
        exact notEnd others slash rfl
      rw [List.getLast?_cons_cons] at ends
      rw [List.cons_append, takeBareValue_cons sameEnd, if_neg stop, ih ends]

/-- A bare word ends before the end of the line. -/
lemma takeBareValue_append_more {text : Text} (ends : EndsLine text) (more : Text) :
    takeBareValue (text ++ more) = takeBareValue text :=
  takeBareValue_append_of_stop ends (by decide) more

section

variable {tag name rest : Text} {c : Char}

lemma readAttributeValue_quoted (quoted : c = '\'' ∨ c = '"') (closed : rest.contains c = true) :
    readAttributeValue tag name (c :: rest) =
      .read name (.text (rest.takeWhile (· != c))) ((rest.dropWhile (· != c)).drop 1) := by
  simp only [readAttributeValue, if_pos quoted, if_pos closed]

lemma readAttributeValue_script {n : Nat} (length : braceLength? .code 0 ('\x7b' :: rest) = some n) :
    readAttributeValue tag name ('\x7b' :: rest) =
      .read name (.text (Text.trim (rest.take (n - 2)))) (rest.drop (n - 1)) := by
  simp only [readAttributeValue, length]
  rfl

lemma readAttributeValue_bare (notQuoted : ¬ (c = '\'' ∨ c = '"')) (noBrace : c ≠ '\x7b') :
    readAttributeValue tag name (c :: rest) =
      .read name (.text (takeBareValue (c :: rest)))
        ((c :: rest).drop (takeBareValue (c :: rest)).length) := by
  simp only [readAttributeValue, if_neg notQuoted, if_neg noBrace]

end

lemma readAttributeValue_append_more {tag name text : Text} (ends : EndsLine text) (more : Text)
    (closed : ∀ fault, readAttributeValue tag name text ≠ .broken fault) :
    readAttributeValue tag name (text ++ more) =
      (readAttributeValue tag name text).append more := by
  cases text with
  | nil => exact (ends.ne_nil rfl).elim
  | cons c rest =>
    by_cases quoted : c = '\'' ∨ c = '"'
    · have found : rest.contains c = true := by
        by_contra open_
        simp only [readAttributeValue, if_pos quoted, if_neg open_] at closed
        exact closed _ rfl
      have stops : ∃ d ∈ rest, (d != c) = false :=
        ⟨c, List.contains_iff_mem.1 found, bne_self_eq_false c⟩
      have later : (rest ++ more).contains c = true := by simp_all
      rw [List.cons_append, readAttributeValue_quoted quoted found,
        readAttributeValue_quoted quoted later, takeWhile_append_more more stops,
        dropWhile_append_more more stops, List.drop_append_of_le_length]
      · rfl
      · exact List.length_pos_iff.2 (dropWhile_ne_nil stops)
    · by_cases brace : c = '\x7b'
      · subst brace
        cases length : braceLength? .code 0 ('\x7b' :: rest) with
        | none =>
          simp only [readAttributeValue, length] at closed
          exact absurd rfl (closed _)
        | some n =>
          have within : n ≤ rest.length + 1 := braceLength?_le length
          have later : braceLength? .code 0 ('\x7b' :: (rest ++ more)) = some n := by
            rw [← List.cons_append, braceLength?_append, length, Option.some_or]
          rw [List.cons_append, readAttributeValue_script length, readAttributeValue_script later,
            List.take_append_of_le_length (by omega), List.drop_append_of_le_length (by omega)]
          rfl
      · rw [List.cons_append, readAttributeValue_bare quoted brace,
          readAttributeValue_bare quoted brace, ← List.cons_append, takeBareValue_append_more ends,
          List.drop_append_of_le_length]
        · rfl
        · exact (List.prefix_iff_eq_append.2 (drop_takeBareValue (c :: rest)).symm).length_le

/-- What is read behind the name of an attribute and the blanks after it. -/
def readBehindName (tag name : Text) : Text → AttributeReading
  | '=' :: after => readAttributeValue tag name (Text.trimStart after)
  | other => .read name .flag other

lemma readAttribute_eq {c : Char} (start : isNameStart c = true) (tag rest : Text) :
    readAttribute tag (c :: rest) =
      readBehindName tag (c :: rest.takeWhile isAttributeNameRest)
        (Text.trimStart (rest.dropWhile isAttributeNameRest)) :=
  if_pos start

lemma readBehindName_flag {tag name text : Text} {c : Char} (noValue : c ≠ '=') :
    readBehindName tag name (c :: text) = .read name .flag (c :: text) := by
  unfold readBehindName
  split
  · next same => exact absurd (List.cons.inj same).1 noValue
  · rfl

lemma readBehindName_append_more {tag name text : Text} (ends : EndsLine text) (more : Text)
    (closed : ∀ fault, readBehindName tag name text ≠ .broken fault) :
    readBehindName tag name (text ++ more) = (readBehindName tag name text).append more := by
  cases text with
  | nil => exact (ends.ne_nil rfl).elim
  | cons c rest =>
    rw [List.cons_append]
    by_cases equals : c = '='
    · subst equals
      replace closed : ∀ fault,
          readAttributeValue tag name (Text.trimStart rest) ≠ .broken fault := closed
      show readAttributeValue tag name (Text.trimStart (rest ++ more)) =
        (readAttributeValue tag name (Text.trimStart rest)).append more
      have behindEquals : EndsLine rest := ends.tail (by decide)
      -- Without a value the tag would be open.
      have value : Text.trimStart rest ≠ [] := fun none => by
        rw [none] at closed
        exact closed _ rfl
      rw [trimStart_append_more more value]
      exact readAttributeValue_append_more (behindEquals.trimStart value) more closed
    · rw [readBehindName_flag equals, readBehindName_flag equals]
      rfl

/-- An attribute is read in the same way with more text behind the line, unless its tag is left open:
then nothing but blanks follows it, or it is broken itself. -/
lemma readAttribute_append_more (tag : Text) {text : Text} (ends : EndsLine text) (more : Text)
    (closed : ∀ fault, readAttribute tag text ≠ .broken fault)
    (goesOn : ∀ name value, readAttribute tag text ≠ .read name value []) :
    readAttribute tag (text ++ more) = (readAttribute tag text).append more := by
  cases text with
  | nil => exact (ends.ne_nil rfl).elim
  | cons c rest =>
    rw [List.cons_append]
    by_cases start : isNameStart c = true
    · have later : EndsLine rest := ends.tail (by rintro rfl; exact absurd start (by decide))
      have stops := later.stops (p := isAttributeNameRest) (by decide)
      have behindName := later.dropWhile (p := isAttributeNameRest) (by decide)
      rw [readAttribute_eq start] at closed goesOn ⊢
      rw [readAttribute_eq start, takeWhile_append_more more stops, dropWhile_append_more more stops]
      have behindBlanks : Text.trimStart (rest.dropWhile isAttributeNameRest) ≠ [] := fun none => by
        rw [none] at goesOn
        exact goesOn _ _ rfl
      rw [trimStart_append_more more behindBlanks]
      exact readBehindName_append_more (behindName.trimStart behindBlanks) more closed
    · simp only [readAttribute, if_neg start]
      rfl

/-! ## Tags -/

/-- The reading with more text behind it. -/
def TagReading.append (more : Text) : TagReading → TagReading
  | .read name attributes form rest => .read name attributes form (rest ++ more)
  | other => other

section

variable {name text : Text} {attributes : Attributes}

lemma readAttributes_opening {rest : Text} (ends : Text.trimStart text = '>' :: rest) :
    readAttributes name attributes text = .read name attributes .opening rest := by
  rw [readAttributes.eq_def]
  split
  · next same => exact absurd (ends.symm.trans same) (List.cons_ne_nil _ _)
  · next same =>
    obtain ⟨-, rfl⟩ := List.cons.inj (ends.symm.trans same)
    rfl
  · next same => exact absurd (List.cons.inj (ends.symm.trans same)).1 (by decide)
  · next notOpening _ => exact (notOpening _ ends).elim

lemma readAttributes_selfClosing {rest : Text} (ends : Text.trimStart text = '/' :: '>' :: rest) :
    readAttributes name attributes text = .read name attributes .selfClosing rest := by
  rw [readAttributes.eq_def]
  split
  · next same => exact absurd (ends.symm.trans same) (List.cons_ne_nil _ _)
  · next same => exact absurd (List.cons.inj (ends.symm.trans same)).1 (by decide)
  · next same =>
    obtain ⟨-, later⟩ := List.cons.inj (ends.symm.trans same)
    obtain ⟨-, rfl⟩ := List.cons.inj later
    rfl
  · next notSelfClosing => exact (notSelfClosing _ ends).elim

/-- Where a tag does not end, it has an attribute, or it is none. -/
lemma readAttributes_goesOn (notNil : Text.trimStart text ≠ [])
    (notOpening : ∀ rest, Text.trimStart text ≠ '>' :: rest)
    (notSelfClosing : ∀ rest, Text.trimStart text ≠ '/' :: '>' :: rest) :
    readAttributes name attributes text =
      match readAttribute name (Text.trimStart text) with
      | .absent => .inert
      | .broken fault => .broken fault
      | .read key value rest => readAttributes name (attributes.set key value) rest := by
  rw [readAttributes.eq_def]
  split
  · next same => exact (notNil same).elim
  · next same => exact (notOpening _ same).elim
  · next same => exact (notSelfClosing _ same).elim
  · split <;> simp_all

lemma readClosing_append_more (more : Text)
    (closed : ∀ fault, readClosing name text ≠ .broken fault) :
    readClosing name (text ++ more) = (readClosing name text).append more := by
  simp only [readClosing] at closed ⊢
  cases blank : Text.trimStart text with
  | nil =>
    rw [blank] at closed
    exact absurd rfl (closed _)
  | cons c rest =>
    rw [trimStart_append_more more (blank ▸ List.cons_ne_nil c rest), blank, List.cons_append]
    by_cases close : c = '>'
    · subst close
      rfl
    · split
      · next same => exact absurd same (List.cons_ne_nil _ _)
      · next same => exact absurd (List.cons.inj same).1 close
      · split
        · next same => exact absurd same (List.cons_ne_nil _ _)
        · next same => exact absurd (List.cons.inj same).1 close
        · rfl

end

/-- What does not start with a slash is no closing tag. -/
lemma readTag_cons {c : Char} (noSlash : c ≠ '/') (rest : Text) :
    readTag (c :: rest) = readTagName (fun name => readAttributes name []) (c :: rest) := by
  unfold readTag
  split
  · next same => exact absurd (List.cons.inj same).1 noSlash
  · rfl

section

variable {name text : Text} (ends : EndsLine text) (more : Text)

include ends

lemma ne_selfClosing_append_more (notSelfClosing : ∀ rest, text ≠ '/' :: '>' :: rest) (rest : Text) :
    text ++ more ≠ '/' :: '>' :: rest := by
  intro same
  obtain ⟨c, others, rfl⟩ := List.exists_cons_of_ne_nil ends.ne_nil
  obtain ⟨rfl, later⟩ := List.cons.inj same
  obtain ⟨d, tail, rfl⟩ := List.exists_cons_of_ne_nil (ends.tail (by decide)).ne_nil
  obtain ⟨rfl, -⟩ := List.cons.inj later
  exact notSelfClosing tail rfl

/-- A tag that does not end on its lines is not ended by the text behind them either. -/
lemma readAttributes_goesOn_append_more {attributes : Attributes}
    (notNil : Text.trimStart text ≠ []) (notOpening : ∀ rest, Text.trimStart text ≠ '>' :: rest)
    (notSelfClosing : ∀ rest, Text.trimStart text ≠ '/' :: '>' :: rest) :
    readAttributes name attributes (text ++ more) =
      match readAttribute name (Text.trimStart text ++ more) with
      | .absent => .inert
      | .broken fault => .broken fault
      | .read key value rest => readAttributes name (attributes.set key value) rest := by
  have behindBlanks := ends.trimStart notNil
  rw [← trimStart_append_more more notNil]
  refine readAttributes_goesOn ?_ ?_ ?_
  all_goals rw [trimStart_append_more more notNil]
  · exact List.append_ne_nil_of_left_ne_nil notNil more
  · intro rest same
    obtain ⟨c, others, eq⟩ := List.exists_cons_of_ne_nil notNil
    rw [eq] at same
    obtain ⟨rfl, -⟩ := List.cons.inj same
    exact notOpening others eq
  · exact ne_selfClosing_append_more behindBlanks more notSelfClosing

lemma readAttributes_append_more {attributes : Attributes}
    (closed : ∀ fault, readAttributes name attributes text ≠ .broken fault) :
    readAttributes name attributes (text ++ more) =
      (readAttributes name attributes text).append more := by
  fun_induction readAttributes name attributes text with
  | case1 => exact absurd rfl (closed _)
  | case2 attributes text rest eq =>
    refine readAttributes_opening ?_
    rw [trimStart_append_more more (eq ▸ List.cons_ne_nil _ _), eq, List.cons_append]
  | case3 attributes text rest eq =>
    refine readAttributes_selfClosing ?_
    rw [trimStart_append_more more (eq ▸ List.cons_ne_nil _ _), eq, List.cons_append,
      List.cons_append]
  | case4 attributes text read notNil notOpening notSelfClosing =>
    have behindBlanks := ends.trimStart notNil
    have same := readAttribute_append_more name behindBlanks more
    rw [read] at same
    rw [readAttributes_goesOn_append_more ends more notNil notOpening notSelfClosing,
      same (by simp) (by simp)]
    rfl
  | case5 => exact absurd rfl (closed _)
  | case6 attributes text key value rest read notNil notOpening notSelfClosing ih =>
    have behindBlanks := ends.trimStart notNil
    have same := readAttribute_append_more name behindBlanks more
    rw [read] at same
    -- With nothing behind the attribute the tag would be open.
    have nonempty : rest ≠ [] := by
      rintro rfl
      exact closed _ (by rw [readAttributes.eq_def]; rfl)
    obtain ⟨part, eq, -⟩ := append_of_readAttribute read
    have later : EndsLine rest := behindBlanks.suffix ⟨part, eq.symm⟩ nonempty
    rw [readAttributes_goesOn_append_more ends more notNil notOpening notSelfClosing,
      same (by simp) fun _ _ none => nonempty (AttributeReading.read.inj none).2.2]
    exact ih later closed

lemma readTagName_append_more {reader : Text → Text → TagReading}
    (stable : ∀ name after, EndsLine after → (∀ fault, reader name after ≠ .broken fault) →
      reader name (after ++ more) = (reader name after).append more)
    (closed : ∀ fault, readTagName reader text ≠ .broken fault) :
    readTagName reader (text ++ more) = (readTagName reader text).append more := by
  cases text with
  | nil => exact (ends.ne_nil rfl).elim
  | cons c rest =>
    rw [List.cons_append]
    simp only [readTagName] at closed ⊢
    by_cases letter : c.isAlpha = true
    · have later : EndsLine rest := ends.tail (by rintro rfl; exact absurd letter (by decide))
      have stops := later.stops (p := isTagNameRest) (by decide)
      simp only [if_pos letter, takeWhile_append_more more stops, dropWhile_append_more more stops]
        at closed ⊢
      exact stable _ _ (later.dropWhile (by decide)) closed
    · simp only [if_neg letter]
      rfl

/-- **Text behind the line does not change a tag** that is not left open on it. -/
theorem readTag_append_more (closed : ∀ fault, readTag text ≠ .broken fault) :
    readTag (text ++ more) = (readTag text).append more := by
  cases text with
  | nil => exact (ends.ne_nil rfl).elim
  | cons c rest =>
    by_cases slash : c = '/'
    · subst slash
      replace closed : ∀ fault, readTagName readClosing rest ≠ .broken fault := closed
      show readTagName readClosing (rest ++ more) = (readTagName readClosing rest).append more
      exact readTagName_append_more (ends.tail (by decide)) more
        (fun _ _ _ closed => readClosing_append_more more closed) closed
    · rw [readTag_cons slash] at closed ⊢
      rw [List.cons_append, readTag_cons slash, ← List.cons_append]
      exact readTagName_append_more ends more
        (fun _ _ ends closed => readAttributes_append_more ends more closed) closed

end

/-! ## Tokens -/

/-- A token that leaves nothing open: a region, or a tag behind which scanning goes on at once. -/
def Token.Closed (token : Token) : Prop :=
  token.isMarkup = true ∧ token.opensCode = false

instance : DecidablePred Token.Closed :=
  fun _ => inferInstanceAs (Decidable (_ ∧ _))

lemma closed_shift (distance : Nat) (token : Token) :
    (token.shift distance).Closed ↔ token.Closed := by
  cases token <;> exact Iff.rfl

lemma offsetWhere?_append_more {p : Text → Bool} {text : Text} {n : Nat} (ends : EndsLine text)
    (more : Text) (same : ∀ part, EndsLine part → p (part ++ more) = p part) (never : p [] = false)
    (found : Text.offsetWhere? p text = some n) : Text.offsetWhere? p (text ++ more) = some n := by
  induction text generalizing n with
  | nil => exact (ends.ne_nil rfl).elim
  | cons c rest ih =>
    rw [List.cons_append, Text.offsetWhere?, ← List.cons_append, same _ ends]
    rw [Text.offsetWhere?] at found
    split
    · next here => rwa [if_pos here] at found
    · next notHere =>
      rw [if_neg notHere] at found
      obtain ⟨m, later, rfl⟩ := Option.map_eq_some_iff.1 found
      have nonempty : rest ≠ [] := by
        rintro rfl
        rw [Text.offsetWhere?, never] at later
        exact nomatch later
      rw [ih (ends.suffix (List.suffix_cons c rest) nonempty) later]
      rfl

lemma drop_of_offsetWhere? {p : Text → Bool} {text : Text} {n : Nat}
    (found : Text.offsetWhere? p text = some n) : p (text.drop n) = true := by
  induction text generalizing n with
  | nil =>
    rw [Text.offsetWhere?] at found
    split at found
    · next here => rwa [List.drop_nil]
    · exact nomatch found
  | cons c rest ih =>
    rw [Text.offsetWhere?] at found
    split at found
    · next here =>
      obtain rfl := Option.some.inj found
      exact here
    · obtain ⟨m, later, rfl⟩ := Option.map_eq_some_iff.1 found
      exact ih later

/-- A comment that ends on its lines. -/
lemma commentLength?_append_more {text : Text} {n : Nat} (ends : EndsLine text) (more : Text)
    (found : commentLength? text = some n) :
    commentLength? (text ++ more) = some n ∧ n ≤ text.length := by
  obtain ⟨m, offset, rfl⟩ := Option.map_eq_some_iff.1 found
  have mark : "-->".toList <+: text.drop m :=
    List.isPrefixOf_iff_prefix.1 (drop_of_offsetWhere? offset)
  have length : 3 ≤ (text.drop m).length := mark.length_le
  rw [List.length_drop] at length
  refine ⟨?_, by omega⟩
  have same (part : Text) (ends : EndsLine part) :
      "-->".toList.isPrefixOf (part ++ more) = "-->".toList.isPrefixOf part := by
    have oneLine : '\n' ∉ "-->".toList := by decide
    rw [← List.isSome_isPrefixOf?_eq_isPrefixOf, isPrefixOf?_append_more ends more oneLine,
      Option.isSome_map, List.isSome_isPrefixOf?_eq_isPrefixOf]
  rw [commentLength?, offsetWhere?_append_more ends more same rfl offset]
  rfl

lemma readBrace_append_more {offset : Nat} {rest : Text} (more : Text)
    (closed : ∀ token ∈ (readBrace offset rest).1, token.Closed) :
    readBrace offset (rest ++ more) = readBrace offset rest ∧
      (readBrace offset rest).2 ≤ rest.length := by
  unfold readBrace at closed ⊢
  cases length : braceLength? .code 0 ('\x7b' :: rest) with
  | none =>
    rw [length] at closed
    exact Bool.noConfusion (closed _ rfl).1
  | some n =>
    have within : n ≤ rest.length + 1 := braceLength?_le length
    rw [← List.cons_append, braceLength?_append, length, Option.some_or]
    dsimp only
    rw [List.take_append_of_le_length (by omega)]
    exact ⟨rfl, by omega⟩

section

variable {offset : Nat} {rest : Text}

lemma readAngle_comment {body : Text} {n : Nat} (comment : "!--".toList.isPrefixOf? rest = some body)
    (length : commentLength? body = some n) : readAngle offset rest = (none, 3 + n) := by
  simp only [readAngle, comment, length]

lemma readAngle_inert (noComment : "!--".toList.isPrefixOf? rest = none)
    (read : readTag rest = .inert) : readAngle offset rest = (none, 0) := by
  simp only [readAngle, noComment, read]

lemma readAngle_tag {name after : Text} {attributes : Attributes} {form : TagForm}
    (noComment : "!--".toList.isPrefixOf? rest = none)
    (read : readTag rest = .read name attributes form after) :
    readAngle offset rest =
      (some (.tag ⟨name, attributes, form, offset, offset + 1 + (rest.length - after.length)⟩),
        rest.length - after.length + rawBodyLength name form after) := by
  simp only [readAngle, noComment, read]

end

lemma readAngle_append_more {offset : Nat} {rest : Text} (ends : EndsLine rest) (more : Text)
    (closed : ∀ token ∈ (readAngle offset rest).1, token.Closed) :
    readAngle offset (rest ++ more) = readAngle offset rest ∧
      (readAngle offset rest).2 ≤ rest.length := by
  have start := isPrefixOf?_append_more ends more (by decide : '\n' ∉ "!--".toList)
  cases comment : "!--".toList.isPrefixOf? rest with
  | some body =>
    rw [comment] at start
    cases length : commentLength? body with
    | none =>
      simp only [readAngle, comment, length] at closed
      exact Bool.noConfusion (closed _ rfl).1
    | some n =>
      have whole := Text.isPrefixOf?_eq_some_iff.1 comment
      have nonempty : body ≠ [] := by
        rintro rfl
        exact nomatch length
      obtain ⟨later, within⟩ :=
        commentLength?_append_more (ends.suffix ⟨_, whole⟩ nonempty) more length
      rw [readAngle_comment comment length, readAngle_comment start later, ← whole,
        List.length_append]
      exact ⟨rfl, Nat.add_le_add_left within 3⟩
  | none =>
    rw [comment] at start
    cases read : readTag rest with
    | inert =>
      have later := readTag_append_more ends more (read ▸ nofun)
      rw [read] at later
      rw [readAngle_inert comment read, readAngle_inert start later]
      exact ⟨rfl, Nat.zero_le _⟩
    | broken fault =>
      simp only [readAngle, comment, read] at closed
      exact Bool.noConfusion (closed _ rfl).1
    | read name attributes form after =>
      have later := readTag_append_more ends more (read ▸ nofun)
      rw [read] at later
      rw [readAngle_tag comment read] at closed ⊢
      have noRaw := rawBodyLength_eq_zero (closed _ rfl).2
      have width : (rest ++ more).length - (after ++ more).length = rest.length - after.length := by
        rw [List.length_append, List.length_append, Nat.add_sub_add_right]
      rw [readAngle_tag start later, width, noRaw, noRaw]
      exact ⟨rfl, Nat.sub_le _ _⟩

/-- **Text behind the line does not change a step** that leaves nothing open on it. -/
theorem readToken_append_more (offset : Nat) {c : Char} {rest : Text}
    (ends : EndsLine (c :: rest)) (more : Text)
    (closed : ∀ token ∈ (readToken offset c rest).1, token.Closed) :
    readToken offset c (rest ++ more) = readToken offset c rest ∧
      (readToken offset c rest).2 ≤ rest.length := by
  have later (notNewline : c ≠ '\n') : EndsLine rest := ends.tail notNewline
  unfold readToken at closed ⊢
  split
  · next backslash =>
    obtain ⟨d, tail, rfl⟩ := List.exists_cons_of_ne_nil (later (backslash ▸ by decide)).ne_nil
    rw [List.cons_append, List.head?_cons, List.head?_cons]
    refine ⟨rfl, ?_⟩
    split
    · exact Nat.succ_le_succ (Nat.zero_le _)
    · exact Nat.zero_le _
  · next notBackslash =>
    rw [if_neg notBackslash] at closed
    split
    · next brace =>
      rw [if_pos brace] at closed
      exact readBrace_append_more more closed
    · next notBrace =>
      rw [if_neg notBrace] at closed
      split
      · next angle =>
        rw [if_pos angle] at closed
        exact readAngle_append_more (later (angle ▸ by decide)) more closed
      · exact ⟨rfl, Nat.zero_le _⟩

/-! ## Scanning in two parts -/

/-- **Scanning goes on behind whole lines** on which nothing is left open. -/
theorem scanFrom_append {offset : Nat} {lead : Text} (ends : lead ≠ [] → EndsLine lead)
    (closed : ∀ token ∈ scanFrom offset lead, token.Closed) (more : Text) :
    scanFrom offset (lead ++ more) = scanFrom offset lead ++ scanFrom (offset + lead.length) more := by
  fun_induction scanFrom offset lead with
  | case1 offset => rfl
  | case2 offset c rest token? skipped read ih =>
    rw [List.forall_mem_append] at closed
    have here := readToken_append_more offset (ends (List.cons_ne_nil c rest)) more
      (by rw [read]; exact fun token found => closed.1 token (Option.mem_toList.2 found))
    rw [read] at here
    obtain ⟨same, within⟩ := here
    -- What a step leaves of whole lines is nothing, or whole lines again.
    have later (nonempty : rest.drop skipped ≠ []) : EndsLine (rest.drop skipped) :=
      (ends (List.cons_ne_nil c rest)).suffix
        ((List.drop_suffix skipped rest).trans (List.suffix_cons c rest)) nonempty
    have total : offset + 1 + skipped + (rest.drop skipped).length = offset + (c :: rest).length := by
      simp only [List.length_drop, List.length_cons] at within ⊢
      omega
    rw [List.cons_append, scanFrom, same]
    dsimp only
    rw [List.drop_append_of_le_length within, ih later closed.2, total, List.append_assoc]

/-- The character is one that something may start with. -/
def startsMarkup (c : Char) : Bool :=
  c == '\\' || c == '\x7b' || c == '<'

/-- No character of the text is one that something may start with. -/
def IsPlain (text : Text) : Prop :=
  ∀ c ∈ text, startsMarkup c = false

instance : DecidablePred IsPlain :=
  fun text => List.decidableBAll (fun c => startsMarkup c = false) text

/-- **Plain text is passed over.** -/
theorem scanFrom_plain (offset : Nat) {lead : Text} (plain : IsPlain lead) (more : Text) :
    scanFrom offset (lead ++ more) = scanFrom (offset + lead.length) more := by
  induction lead generalizing offset with
  | nil => rfl
  | cons c rest ih =>
    obtain ⟨first, later⟩ := List.forall_mem_cons.1 plain
    have nothing : readToken offset c (rest ++ more) = (none, 0) := by
      simp only [startsMarkup, Bool.or_eq_false_iff, beq_eq_false_iff_ne] at first
      rw [readToken, if_neg first.1.1, if_neg first.1.2, if_neg first.2]
    rw [List.cons_append, scanFrom, nothing]
    show scanFrom (offset + 1) (rest ++ more) = _
    rw [ih _ later, List.length_cons, Nat.add_assoc, Nat.add_comm 1]

end GlassPrompt
