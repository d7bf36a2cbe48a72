import GlassPrompt.Proofs.Markup.SelfDelimiting

/-!
# Tags that are written and read again

A tag can be written down from its name and its attributes, with any blanks between them.  What is
written is scanned as one tag, with the same name and the same attributes in the same order, whatever
characters stand within the values.

* `Spelling`, `WrittenAttribute`, `WrittenTag` — what is to be written, with the conditions under
  which it can be.
* `Follows` — how a text may go on behind an attribute or a name: neither the one nor the other can
  be read any further.
* `exists_readAttribute`, `readAttributes_written` — reading one attribute, and all of them.
* `scan_written` — reading back the tag.
-/

namespace GlassPrompt

/-! ## Writing -/

/-- How an attribute is spelled behind its name: not at all, as a text between two quotes of a kind
that it does not contain, or as a script in braces. -/
inductive Spelling
  | flag
  | quoted (quote : Char) (value : Text) (quotes : quote = '\'' ∨ quote = '"')
    (inside : quote ∉ value)
  | braces (script : Text) (closes : ClosesInBraces script)

namespace Spelling

/-- What is written behind the name. -/
def text : Spelling → Text
  | .flag => []
  | .quoted quote value _ _ => '=' :: (quote :: value ++ [quote])
  | .braces script _ => '=' :: ('\x7b' :: script ++ ['\x7d'])

/-- The value that is meant; the blanks around a script do not belong to it. -/
def value : Spelling → AttributeValue
  | .flag => .flag
  | .quoted _ value _ _ => .text value
  | .braces script _ => .text (Text.trim script)

end Spelling

/-- An attribute with the blanks in front of it. -/
structure WrittenAttribute where
  gap : Text
  name : Text
  spelling : Spelling
  blank : Text.isBlankText gap = true
  apart : gap ≠ []
  isName : isAttributeName name = true

namespace WrittenAttribute

def text (a : WrittenAttribute) : Text :=
  a.gap ++ (a.name ++ a.spelling.text)

/-- The attribute that is meant. -/
def entry (a : WrittenAttribute) : Text × AttributeValue :=
  (a.name, a.spelling.value)

end WrittenAttribute

/-- A tag that opens or closes itself, with the blanks in front of its end. -/
structure WrittenTag where
  name : Text
  attributes : List WrittenAttribute
  gap : Text
  selfClosing : Bool
  isName : isTagName name = true
  distinct : (attributes.map WrittenAttribute.name).Nodup
  blank : Text.isBlankText gap = true

namespace WrittenTag

def form (tag : WrittenTag) : TagForm :=
  if tag.selfClosing then .selfClosing else .opening

/-- What follows the name and the attributes. -/
def ending (tag : WrittenTag) : Text :=
  tag.gap ++ tag.form.tail

def text (tag : WrittenTag) : Text :=
  '<' :: (tag.name ++ (tag.attributes.flatMap WrittenAttribute.text ++ tag.ending))

end WrittenTag

/-! ## What follows a name or an attribute -/

/-- The text goes on in such a way that no attribute name reaches into it, and no value belongs to a
name in front of it. -/
structure Follows (text : Text) : Prop where
  stops : ∀ c ∈ text.head?, isAttributeNameRest c = false
  noValue : (Text.trimStart text).head? ≠ some '='

lemma isBlank_of_isNameStart {c : Char} (start : isNameStart c = true) : isBlank c = false := by
  by_contra blank
  rw [Bool.not_eq_false] at blank
  have noWord := isWord_of_isBlank blank
  have noDollar := ne_of_class blank (d := '$') (by decide)
  simp_all [isNameStart, isWord, Char.isAlphanum]

lemma isAttributeName_eq_cons {name : Text} (isName : isAttributeName name = true) :
    ∃ c rest, name = c :: rest ∧ isNameStart c = true := by
  cases name with
  | nil => exact nomatch isName
  | cons c rest => exact ⟨c, rest, rfl, (Bool.and_eq_true_iff.1 isName).1⟩

/-- No blanks stand at the start of a name. -/
lemma trimStart_name {name : Text} (isName : isAttributeName name = true) (behind : Text) :
    Text.trimStart (name ++ behind) = name ++ behind := by
  obtain ⟨c, rest, rfl, start⟩ := isAttributeName_eq_cons isName
  exact Text.trimStart_of_noBlank (isBlank_of_isNameStart start)

/-- No attribute name reaches into blanks. -/
lemma stops_gap {gap : Text} (blank : Text.isBlankText gap = true) (apart : gap ≠ [])
    (behind : Text) : ∀ c ∈ (gap ++ behind).head?, isAttributeNameRest c = false := by
  obtain ⟨d, rest, rfl⟩ := List.exists_cons_of_ne_nil apart
  intro c first
  obtain rfl : d = c := Option.some.inj first
  exact isAttributeNameRest_of_isBlank (Text.isBlankText_iff.1 blank d List.mem_cons_self)

lemma WrittenAttribute.trimStart_text (a : WrittenAttribute) (behind : Text) :
    Text.trimStart (a.text ++ behind) = a.name ++ (a.spelling.text ++ behind) := by
  rw [WrittenAttribute.text, List.append_assoc, Text.trimStart_of_blank a.blank, List.append_assoc,
    trimStart_name a.isName]

/-- An attribute may follow another one. -/
lemma WrittenAttribute.follows (a : WrittenAttribute) (behind : Text) : Follows (a.text ++ behind) := by
  constructor
  · rw [WrittenAttribute.text, List.append_assoc]
    exact stops_gap a.blank a.apart _
  · obtain ⟨c, rest, name, start⟩ := isAttributeName_eq_cons a.isName
    rw [a.trimStart_text, name]
    rintro ⟨⟩
    exact absurd start (by decide)

/-- The end of a tag starts with a slash or a `>`. -/
lemma TagForm.tail_eq_cons (form : TagForm) :
    ∃ c rest, form.tail = c :: rest ∧ (c = '/' ∨ c = '>') := by
  cases form with
  | selfClosing => exact ⟨'/', ['>'], rfl, .inl rfl⟩
  | opening | closing => exact ⟨'>', [], rfl, .inr rfl⟩

namespace WrittenTag

variable (tag : WrittenTag) (more : Text)

lemma trimStart_ending : Text.trimStart (tag.ending ++ more) = tag.form.tail ++ more := by
  obtain ⟨c, rest, tail, mark⟩ := tag.form.tail_eq_cons
  have noBlank : isBlank c = false := by rcases mark with rfl | rfl <;> decide
  rw [ending, List.append_assoc, Text.trimStart_of_blank tag.blank, tail]
  exact Text.trimStart_of_noBlank noBlank

/-- The end of a tag may follow an attribute. -/
lemma follows_ending : Follows (tag.ending ++ more) := by
  obtain ⟨c, rest, tail, mark⟩ := tag.form.tail_eq_cons
  constructor
  · rw [ending, List.append_assoc]
    by_cases gap : tag.gap = []
    · rw [gap, tail]
      rintro _ ⟨⟩
      rcases mark with rfl | rfl <;> decide
    · exact stops_gap tag.blank gap _
  · rw [trimStart_ending, tail]
    rintro ⟨⟩
    exact absurd mark (by decide)

lemma readAttributes_ending (name : Text) (attributes : Attributes) :
    readAttributes name attributes (tag.ending ++ more) = .read name attributes tag.form more := by
  have trimmed := tag.trimStart_ending more
  unfold form at trimmed ⊢
  split at trimmed
  · next selfClosing =>
    rw [if_pos selfClosing]
    exact readAttributes_selfClosing trimmed
  · next opening =>
    rw [if_neg opening]
    exact readAttributes_opening trimmed

end WrittenTag

/-! ## Reading back -/

lemma trimStart_trimStart (text : Text) :
    Text.trimStart (Text.trimStart text) = Text.trimStart text := by
  obtain ⟨lead, blank, whole⟩ := Text.exists_trimStart text
  conv_rhs => rw [whole, Text.trimStart_of_blank blank]

/-- Blanks in front of an attribute or of the end of a tag are passed over. -/
lemma readAttributes_trimStart (name : Text) (attributes : Attributes) (text : Text) :
    readAttributes name attributes (Text.trimStart text) = readAttributes name attributes text := by
  rw [readAttributes.eq_def, readAttributes.eq_def name attributes text, trimStart_trimStart]

lemma readBehindName_of_noValue {tag name text : Text} (noValue : text.head? ≠ some '=') :
    readBehindName tag name text = .read name .flag text := by
  cases text with
  | nil => rfl
  | cons c rest => exact readBehindName_flag fun equals => noValue (congrArg some equals)

/-- Behind an equals sign without blanks a value is read. -/
lemma readBehindName_value {tag name rest : Text} {c : Char} (noBlank : isBlank c = false) :
    readBehindName tag name (Text.trimStart ('=' :: c :: rest)) =
      readAttributeValue tag name (c :: rest) := by
  rw [Text.trimStart_of_noBlank (by decide)]
  exact congrArg (readAttributeValue tag name) (Text.trimStart_of_noBlank noBlank)

/-- An attribute is read up to its end; behind a flag the blanks are passed over as well. -/
lemma exists_readAttribute (tag : Text) (a : WrittenAttribute) {behind : Text}
    (follows : Follows behind) :
    ∃ rest, readAttribute tag (a.name ++ (a.spelling.text ++ behind)) =
        .read a.name a.spelling.value rest ∧
      Text.trimStart rest = Text.trimStart behind := by
  -- A name stops in front of an equals sign.
  have stopsAtEquals (text : Text) : ∀ c ∈ ('=' :: text).head?, isAttributeNameRest c = false := by
    rintro _ ⟨⟩
    decide
  cases spelling : a.spelling with
  | flag =>
    refine ⟨Text.trimStart behind, ?_, trimStart_trimStart behind⟩
    rw [Spelling.text, List.nil_append, readAttribute_name a.isName follows.stops,
      readBehindName_of_noValue follows.noValue]
    rfl
  | quoted quote value quotes inside =>
    refine ⟨behind, ?_, rfl⟩
    have noBlank : isBlank quote = false := by rcases quotes with rfl | rfl <;> decide
    rw [Spelling.text, List.cons_append, readAttribute_name a.isName (stopsAtEquals _)]
    exact (readBehindName_value noBlank).trans (readAttributeValue_quote quotes inside behind)
  | braces script closes =>
    refine ⟨behind, ?_, rfl⟩
    rw [Spelling.text, List.cons_append, readAttribute_name a.isName (stopsAtEquals _)]
    exact (readBehindName_value (by decide)).trans (readAttributeValue_braces closes behind)

/-- A name that is not there yet is added at the end. -/
lemma set_of_notMem {name : Text} {attributes : Attributes}
    (new : name ∉ attributes.map Prod.fst) (value : AttributeValue) :
    attributes.set name value = attributes ++ [(name, value)] := by
  induction attributes with
  | nil => rfl
  | cons first rest ih =>
    rw [List.map_cons, List.mem_cons, not_or] at new
    rw [Attributes.set, if_neg (Ne.symm new.1), ih new.2, List.cons_append]

section

variable (tag : WrittenTag) (more : Text)

/-- Other attributes and the end of the tag may follow an attribute. -/
lemma follows_written (written : List WrittenAttribute) :
    Follows (written.flatMap WrittenAttribute.text ++ (tag.ending ++ more)) := by
  cases written with
  | nil => exact tag.follows_ending more
  | cons a rest =>
    rw [List.flatMap_cons, List.append_assoc]
    exact a.follows _

/-- **All attributes are read back**, behind those that have been read before. -/
theorem readAttributes_written (name : Text) (written : List WrittenAttribute) (before : Attributes)
    (distinct : (before.map Prod.fst ++ written.map WrittenAttribute.name).Nodup) :
    readAttributes name before (written.flatMap WrittenAttribute.text ++ (tag.ending ++ more)) =
      .read name (before ++ written.map WrittenAttribute.entry) tag.form more := by
  induction written generalizing before with
  | nil =>
    rw [List.flatMap_nil, List.nil_append, List.map_nil, List.append_nil]
    exact tag.readAttributes_ending more name before
  | cons a rest ih =>
    have follows := follows_written tag more rest
    obtain ⟨remaining, read, trimmed⟩ := exists_readAttribute name a follows
    have new : a.name ∉ before.map Prod.fst := fun member =>
      List.disjoint_of_nodup_append distinct member List.mem_cons_self
    have later : ((before ++ [a.entry]).map Prod.fst ++ rest.map WrittenAttribute.name).Nodup := by
      rw [List.map_append, List.append_assoc]
      exact distinct
    rw [← a.trimStart_text] at read
    calc readAttributes name before
          ((a :: rest).flatMap WrittenAttribute.text ++ (tag.ending ++ more))
      _ = readAttributes name before
          (a.text ++ (rest.flatMap WrittenAttribute.text ++ (tag.ending ++ more))) := by
        rw [List.flatMap_cons, List.append_assoc]
      _ = readAttributes name (before.set a.name a.spelling.value) remaining :=
        readAttributes_attribute read
      _ = readAttributes name (before ++ [a.entry])
          (rest.flatMap WrittenAttribute.text ++ (tag.ending ++ more)) := by
        rw [← readAttributes_trimStart, trimmed, readAttributes_trimStart, set_of_notMem new]
        rfl
      _ = .read name (before ++ (a :: rest).map WrittenAttribute.entry) tag.form more := by
        rw [ih _ later, List.append_assoc, List.singleton_append, List.map_cons]

/-- What is written behind the `<` is read as the tag, in front of any text. -/
lemma readTag_written :
    readTag (tag.name ++ (tag.attributes.flatMap WrittenAttribute.text ++ tag.ending) ++ more) =
      .read tag.name (tag.attributes.map WrittenAttribute.entry) tag.form more := by
  have stops := (follows_written tag more tag.attributes).stops
  obtain ⟨c, rest, name, noSlash⟩ := isTagName_eq_cons tag.isName
  have opening {behind : Text} : readTag (tag.name ++ behind) =
      readTagName (fun name => readAttributes name []) (tag.name ++ behind) := by
    rw [name]
    exact readTag_cons (fun slash => noSlash (slash ▸ List.mem_cons_self)) _
  rw [List.append_assoc, List.append_assoc, opening, readTagName_name tag.isName,
    readAttributes_written tag more tag.name tag.attributes [] tag.distinct]
  · rfl
  · intro c first
    exact (Bool.or_eq_false_iff.1 (stops c first)).1

end

/-- **What is written is read back.**  The text of a tag is scanned as one tag that covers it, with the
name, the form and exactly the attributes that were written, in their order. -/
theorem scan_written (tag : WrittenTag) :
    scan tag.text 0 =
      [.tag ⟨tag.name, tag.attributes.map WrittenAttribute.entry, tag.form, 0, tag.text.length⟩] := by
  have read := readTag_written tag []
  have step := readToken_of_readTag 0 read
  rw [List.append_nil] at step
  rw [WrittenTag.text, scan_of_readToken step (Nat.le_add_right _ _), List.length_cons, Nat.zero_add,
    Nat.add_comm 1]

/-- A loop whose values contain the marks of tags, regions and quotes. -/
def writtenLoop : WrittenTag where
  name := "For".toList
  attributes :=
    [⟨[' '], "each".toList, .braces " f('\x7d') ".toList (by decide), rfl, by decide, rfl⟩,
      ⟨['\n', ' '], "as".toList, .quoted '"' "it's </a>/>".toList (.inr rfl) (by decide), rfl,
        by decide, rfl⟩,
      ⟨[' '], "$x".toList, .flag, rfl, by decide, rfl⟩]
  gap := []
  selfClosing := true
  isName := rfl
  distinct := by decide
  blank := rfl

/-- The text of the loop, and the tag that is read from it. -/
theorem scan_written_loop :
    scan "<For each=\x7b f('\x7d') \x7d\n as=\"it's </a>/>\" $x/>".toList 0 =
      [.tag ⟨"For".toList,
        [("each".toList, .text "f('\x7d')".toList), ("as".toList, .text "it's </a>/>".toList),
          ("$x".toList, .flag)],
        .selfClosing, 0, 43⟩] :=
  scan_written writtenLoop

end GlassPrompt
