import GlassPrompt.Proofs.Markup.RegionGrammar
import GlassPrompt.Proofs.Script.TemplateText
import GlassPrompt.Script.Literal

/-!
# The values of generated literals

A script reads a string literal from its opening quote up to the next quote without a backslash, on one
line, and takes each escape for the character it stands for.  What is written for a text is read as the
text again, in single and in double quotes, and so is what is written for it inside a template literal.

* `readStringBody?`, `readString?` — how a string literal is read.
* `readStringBody?_literalChar` — an escaped character is read as the character.
* `IsLiteralOf` — a literal on one line, with no quote inside but behind a backslash, that is read as a
  text.
* `isLiteralOf_stringLiteral` — every text has such a literal in quotes of both kinds.
* `IsTemplateBody` — literal text with no backtick and no substitution but behind a backslash.
* `literals_decoded` — the literals of a text are read as the text.
* `foldl_replaceChar` — replacements one after the other, each of which reads what the one before it has
  written.
* `stringLiteral_eq_foldl`, `templateLiteral_eq_foldl` — both kinds of literal as such replacements.
-/

namespace GlassPrompt

/-! ## Reading a string literal -/

/-- The value of a hexadecimal digit. -/
def hexValue? (c : Char) : Option Nat :=
  if c.isDigit then some (c.toNat - '0'.toNat)
  else if 'a' ≤ c ∧ c ≤ 'f' then some (c.toNat - 'a'.toNat + 10)
  else if 'A' ≤ c ∧ c ≤ 'F' then some (c.toNat - 'A'.toNat + 10)
  else none

/-- The character whose code has these hexadecimal digits.  Half of a surrogate pair is no character;
nothing that is written here has one. -/
def codeValue? (digits : Text) : Option Char :=
  (digits.mapM hexValue?).bind fun values =>
    let code := values.foldl (fun code value => 16 * code + value) 0
    if code.isValidChar then some (Char.ofNat code) else none

/-- Reads a string literal behind its opening quote: its value, and the rest of the script behind its
closing quote. -/
def readStringBody? (quote : Char) : Text → Option (Text × Text)
  | [] => none
  | '\\' :: 'u' :: a :: b :: c :: d :: rest =>
    (codeValue? [a, b, c, d]).bind fun value =>
      (readStringBody? quote rest).map (prependValue [value])
  | '\\' :: c :: rest =>
    (escapeValue? c).bind fun value => (readStringBody? quote rest).map (prependValue [value])
  | c :: rest =>
    if c = quote then some ([], rest)
    else if c = '\\' ∨ c = '\n' ∨ c = '\r' then none
    else (readStringBody? quote rest).map (prependValue [c])

/-- Reads a string literal in single or double quotes. -/
def readString? : Text → Option (Text × Text)
  | [] => none
  | quote :: rest => if quote = '\'' ∨ quote = '"' then readStringBody? quote rest else none

section

variable {quote c value : Char} {rest : Text}

lemma readStringBody?_code {a b d : Char} (code : codeValue? [a, b, c, d] = some value) :
    readStringBody? quote ('\\' :: 'u' :: a :: b :: c :: d :: rest) =
      (readStringBody? quote rest).map (prependValue [value]) := by
  rw [readStringBody?, code]
  rfl

lemma readStringBody?_escape (escape : escapeValue? c = some value) :
    readStringBody? quote ('\\' :: c :: rest) =
      (readStringBody? quote rest).map (prependValue [value]) := by
  have notCode : c ≠ 'u' := by
    rintro rfl
    have noEscape : escapeValue? 'u' = none := by decide
    exact nomatch noEscape.symm.trans escape
  rw [readStringBody?, escape]
  · rfl
  · rintro _ _ _ _ _ rfl
    exact absurd rfl notCode

lemma readStringBody?_plain (notQuote : c ≠ quote) (notBackslash : c ≠ '\\') (oneLine : c ≠ '\n')
    (noReturn : c ≠ '\r') :
    readStringBody? quote (c :: rest) = (readStringBody? quote rest).map (prependValue [c]) := by
  rw [readStringBody?]
  · simp only [notQuote, notBackslash, oneLine, noReturn, or_self, if_false]
  · rintro _ _ _ _ _ rfl
    exact absurd rfl notBackslash
  · rintro _ _ rfl
    exact absurd rfl notBackslash

end

/-- **An escaped character is read as the character.** -/
lemma readStringBody?_literalChar {quote : Char} (quotes : quote = '\'' ∨ quote = '"') (c : Char)
    (rest : Text) :
    readStringBody? quote (literalChar quote c ++ rest) =
      (readStringBody? quote rest).map (prependValue [c]) := by
  unfold literalChar
  split_ifs with backslash isQuote newline return_ tab lineSeparator paragraphSeparator
  · rw [backslash]
    exact readStringBody?_escape (by decide)
  · rw [isQuote]
    exact readStringBody?_escape (by rcases quotes with rfl | rfl <;> decide)
  · rw [newline]
    exact readStringBody?_escape (by decide)
  · rw [return_]
    exact readStringBody?_escape (by decide)
  · rw [tab]
    exact readStringBody?_escape (by decide)
  · rw [lineSeparator]
    exact readStringBody?_code (by decide)
  · rw [paragraphSeparator]
    exact readStringBody?_code (by decide)
  · exact readStringBody?_plain isQuote backslash newline return_

/-! ## String literals -/

/-- The characters that end a line of a script. -/
def isLineTerminator (c : Char) : Bool :=
  c == '\n' || c == '\r' || c == '\u2028' || c == '\u2029'

/-- A literal on one line, with no quote inside but behind a backslash, that is read as the text. -/
structure IsLiteralOf (quote : Char) (text literal : Text) : Prop where
  delimited : ∃ inside, literal = quote :: inside ++ [quote] ∧ IsLiteralBody quote inside
  oneLine : ∀ c ∈ literal, isLineTerminator c = false
  read : ∀ rest, readString? (literal ++ rest) = some (text, rest)

lemma isLiteralBody_append_of_plain {quote : Char} {plain rest : Text}
    (noBackslash : '\\' ∉ plain) (noQuote : quote ∉ plain) (more : IsLiteralBody quote rest) :
    IsLiteralBody quote (plain ++ rest) := by
  induction plain with
  | nil => exact more
  | cons c later ih =>
    obtain ⟨notBackslash, noBackslash⟩ := List.ne_and_not_mem_of_not_mem_cons noBackslash
    obtain ⟨notQuote, noQuote⟩ := List.ne_and_not_mem_of_not_mem_cons noQuote
    exact .plain notBackslash.symm notQuote.symm (ih noBackslash noQuote)

section

variable {quote : Char} (quotes : quote = '\'' ∨ quote = '"')

include quotes

lemma isLiteralBody_literalChar_append (c : Char) {rest : Text} (more : IsLiteralBody quote rest) :
    IsLiteralBody quote (literalChar quote c ++ rest) := by
  unfold literalChar
  split_ifs with backslash isQuote newline return_ tab lineSeparator paragraphSeparator
  · exact .escape more
  · exact .escape more
  · exact .escape more
  · exact .escape more
  · exact .escape more
  · have noQuote : quote ∉ "2028".toList := by rcases quotes with rfl | rfl <;> decide
    exact .escape (isLiteralBody_append_of_plain (by decide) noQuote more)
  · have noQuote : quote ∉ "2029".toList := by rcases quotes with rfl | rfl <;> decide
    exact .escape (isLiteralBody_append_of_plain (by decide) noQuote more)
  · exact .plain backslash isQuote more

lemma isLiteralBody_flatMap (text : Text) :
    IsLiteralBody quote (text.flatMap (literalChar quote)) := by
  induction text with
  | nil => exact .nil
  | cons c rest ih => exact isLiteralBody_literalChar_append quotes c ih

lemma isLineTerminator_quote : isLineTerminator quote = false := by
  rcases quotes with rfl | rfl <;> rfl

lemma isLineTerminator_of_mem_literalChar (c : Char) :
    ∀ d ∈ literalChar quote c, isLineTerminator d = false := by
  unfold literalChar
  split_ifs with backslash isQuote newline return_ tab lineSeparator paragraphSeparator
  · simp [isLineTerminator]
  · simpa using ⟨rfl, isLineTerminator_quote quotes⟩
  · simp [isLineTerminator]
  · simp [isLineTerminator]
  · simp [isLineTerminator]
  · simp [isLineTerminator]
  · simp [isLineTerminator]
  · simp [isLineTerminator, newline, return_, lineSeparator, paragraphSeparator]

lemma readStringBody?_flatMap (text rest : Text) :
    readStringBody? quote (text.flatMap (literalChar quote) ++ quote :: rest) = some (text, rest) := by
  induction text with
  | nil =>
    have notBackslash : quote ≠ '\\' := by rcases quotes with rfl | rfl <;> decide
    rw [List.flatMap_nil, List.nil_append, readStringBody?]
    · exact if_pos rfl
    · rintro _ _ _ _ _ rfl
      exact absurd rfl notBackslash
    · rintro _ _ rfl
      exact absurd rfl notBackslash
  | cons c more ih =>
    rw [List.flatMap_cons, List.append_assoc, readStringBody?_literalChar quotes, ih]
    rfl

/-- **A text in quotes is a literal of the text.** -/
theorem isLiteralOf_stringLiteral (text : Text) :
    IsLiteralOf quote text (stringLiteral quote text) where
  delimited := ⟨_, rfl, isLiteralBody_flatMap quotes text⟩
  oneLine c member := by
    rcases List.mem_append.1 member with front | last
    · rcases List.mem_cons.1 front with rfl | inside
      · exact isLineTerminator_quote quotes
      · obtain ⟨d, -, written⟩ := List.mem_flatMap.1 inside
        exact isLineTerminator_of_mem_literalChar quotes d c written
    · rw [List.mem_singleton.1 last]
      exact isLineTerminator_quote quotes
  read rest := by
    rw [stringLiteral, List.cons_append, List.cons_append, List.append_assoc, readString?,
      if_pos quotes]
    exact readStringBody?_flatMap quotes text rest

end

lemma preferredQuote_eq (text : Text) : preferredQuote text = '\'' ∨ preferredQuote text = '"' := by
  unfold preferredQuote
  split_ifs
  · exact .inr rfl
  · exact .inl rfl

/-! ## Literal text of a template -/

/-- Literal text inside a template literal: a backslash takes the next character with it, and without
one there is neither a backtick nor a dollar sign before a brace. -/
inductive IsTemplateBody : Text → Prop
  | nil : IsTemplateBody []
  | escape {c : Char} {rest : Text} (more : IsTemplateBody rest) :
    IsTemplateBody ('\\' :: c :: rest)
  | plain {c : Char} {rest : Text} (notBackslash : c ≠ '\\') (notBacktick : c ≠ '`')
    (noSubstitution : ¬ (c = '$' ∧ rest.head? = some '\x7b')) (more : IsTemplateBody rest) :
    IsTemplateBody (c :: rest)

theorem isTemplateBody_templateLiteral (text : Text) : IsTemplateBody (templateLiteral text) := by
  fun_induction templateLiteral text with
  | case1 => exact .nil
  | case2 rest ih => exact .escape (.plain (by decide) (by decide) (by simp) ih)
  | case3 c rest notDollar ih =>
    unfold templateChar
    split_ifs with backslash backtick newline return_
    · exact .escape ih
    · exact .escape ih
    · exact .escape ih
    · exact .escape ih
    · refine .plain backslash backtick ?_ ih
      -- A brace behind the dollar sign would be the next character of the text, and escaped with it.
      rintro ⟨rfl, brace⟩
      have same := head?_templateLiteral_append rest []
      rw [List.append_nil, List.append_nil] at same
      obtain ⟨more, rfl⟩ := List.head?_eq_some_iff.1 (same.1 brace)
      exact notDollar more rfl rfl

/-- **The literals of a text are read as the text**, in single quotes, in double quotes, in the quotes
that suit it and inside a template literal. -/
theorem literals_decoded (text : Text) :
    IsLiteralOf '\'' text (stringLiteral '\'' text) ∧
      IsLiteralOf '"' text (stringLiteral '"' text) ∧
      IsLiteralOf (preferredQuote text) text (quoted text) ∧
      IsTemplateBody (templateLiteral text) ∧
      ∀ rest, readLiteral? (templateLiteral text ++ '`' :: rest) = some (text, '`' :: rest) := by
  refine ⟨isLiteralOf_stringLiteral (.inl rfl) text, isLiteralOf_stringLiteral (.inr rfl) text,
    isLiteralOf_stringLiteral (preferredQuote_eq text) text, isTemplateBody_templateLiteral text,
    fun rest => ?_⟩
  rw [readLiteral?_templateLiteral (by simp), stopsLiteral_backtick]
  simp [prependValue]

/-- An escape by number and quotes of both kinds; what stands behind the literal is left. -/
example : readString? "'\\u00e9\\'\"' + x".toList = some ("\u00e9'\"".toList, " + x".toList) := by
  decide

/-! ## Escaping by replacements -/

/-- Replaces each occurrence of a character. -/
def replaceChar (text : Text) (rule : Char × Text) : Text :=
  text.flatMap fun c => if c = rule.1 then rule.2 else [c]

/-- What the first rule for a character writes for it; the character itself if there is none. -/
def writtenFor (rules : List (Char × Text)) (c : Char) : Text :=
  (rules.lookup c).getD [c]

lemma writtenFor_cons (rule : Char × Text) (rules : List (Char × Text)) (c : Char) :
    writtenFor (rule :: rules) c = if c = rule.1 then rule.2 else writtenFor rules c := by
  unfold writtenFor
  split_ifs with same
  · rw [same, List.lookup_cons_self, Option.getD_some]
  · rw [List.lookup_cons, beq_eq_false_iff_ne.2 same]

lemma writtenFor_of_noRule {rules : List (Char × Text)} {c : Char}
    (noRule : ∀ rule ∈ rules, c ≠ rule.1) : writtenFor rules c = [c] := by
  rw [writtenFor, List.lookup_eq_none_iff.2 fun rule isRule => bne_iff_ne.2 (noRule rule isRule),
    Option.getD_none]

/-- **Replacements one after the other are one replacement of each character**, if none of them
replaces what an earlier one has written. -/
theorem foldl_replaceChar {rules : List (Char × Text)}
    (apart : rules.Pairwise fun rule later => later.1 ∉ rule.2) (text : Text) :
    rules.foldl replaceChar text = text.flatMap (writtenFor rules) := by
  induction apart generalizing text with
  | nil => exact (List.flatMap_singleton' text).symm
  | @cons rule later notWritten _ ih =>
    rw [List.foldl_cons, ih, replaceChar, List.flatMap_assoc]
    refine List.flatMap_congr fun c _ => ?_
    rw [writtenFor_cons]
    split_ifs with same
    · -- What the first rule writes is left as it is.
      have kept : ∀ d ∈ rule.2, writtenFor later d = [d] := by
        intro d written
        refine writtenFor_of_noRule fun other isLater => ?_
        rintro rfl
        exact notWritten other isLater written
      rw [List.flatMap_congr kept, List.flatMap_singleton']
    · exact List.flatMap_singleton _ _

/-- What is written for the characters of a string literal, in the order of the replacements. -/
def stringRules (quote : Char) : List (Char × Text) :=
  [('\\', "\\\\".toList), (quote, ['\\', quote]), ('\n', "\\n".toList), ('\r', "\\r".toList),
    ('\t', "\\t".toList), ('\u2028', "\\u2028".toList), ('\u2029', "\\u2029".toList)]

/-- **A string literal, one replacement after the other.** -/
theorem stringLiteral_eq_foldl {quote : Char} (quotes : quote = '\'' ∨ quote = '"') (text : Text) :
    stringLiteral quote text = quote :: (stringRules quote).foldl replaceChar text ++ [quote] := by
  have apart : (stringRules quote).Pairwise fun rule later => later.1 ∉ rule.2 := by
    rcases quotes with rfl | rfl <;> decide
  have sameChars : literalChar quote = writtenFor (stringRules quote) := by
    funext c
    rw [stringRules, writtenFor_cons, writtenFor_cons, writtenFor_cons, writtenFor_cons,
      writtenFor_cons, writtenFor_cons, writtenFor_cons]
    rfl
  rw [foldl_replaceChar apart, ← sameChars]
  rfl

/-- Puts a backslash before each start of a substitution. -/
def escapeSubstitutions : Text → Text
  | [] => []
  | '$' :: '\x7b' :: rest => '\\' :: '$' :: '\x7b' :: escapeSubstitutions rest
  | c :: rest => c :: escapeSubstitutions rest

/-- The replacements in a template literal that come before the starts of substitutions are escaped. -/
def delimiterRules : List (Char × Text) :=
  [('\\', "\\\\".toList), ('`', "\\`".toList)]

/-- The replacements in a template literal that come after it. -/
def lineRules : List (Char × Text) :=
  [('\n', "\\n".toList), ('\r', "\\r".toList)]

section

variable {c : Char} {rest : Text}

lemma escapeSubstitutions_apart (apart : ¬ (c = '$' ∧ rest.head? = some '\x7b')) :
    escapeSubstitutions (c :: rest) = c :: escapeSubstitutions rest := by
  rw [escapeSubstitutions]
  rintro more rfl rfl
  exact apart ⟨rfl, rfl⟩

lemma escapeSubstitutions_delimiter (apart : ¬ (c = '$' ∧ rest.head? = some '\x7b')) :
    escapeSubstitutions (writtenFor delimiterRules c ++ rest) =
      writtenFor delimiterRules c ++ escapeSubstitutions rest := by
  simp only [delimiterRules, writtenFor_cons]
  split_ifs
  · rfl
  · rfl
  · exact escapeSubstitutions_apart apart

lemma templateChar_eq (c : Char) :
    templateChar c = (writtenFor delimiterRules c).flatMap (writtenFor lineRules) := by
  simp only [delimiterRules, writtenFor_cons]
  unfold templateChar
  split_ifs with _ _ newline return_
  · rfl
  · rfl
  · rw [newline]
    rfl
  · rw [return_]
    rfl
  · rw [writtenFor_of_noRule (by simp), List.flatMap_singleton, writtenFor_of_noRule]
    simpa [lineRules] using ⟨newline, return_⟩

/-- Escaping the delimiters puts no brace at the start. -/
lemma head?_delimiters (text : Text) :
    (text.flatMap (writtenFor delimiterRules)).head? = some '\x7b' ↔ text.head? = some '\x7b' := by
  cases text with
  | nil => rfl
  | cons c rest =>
    rw [List.flatMap_cons]
    simp only [delimiterRules, writtenFor_cons]
    split_ifs with backslash backtick
    · simp [backslash]
    · simp [backtick]
    · rfl

end

/-- **Literal text of a template, one replacement after the other.** -/
theorem templateLiteral_eq_foldl (text : Text) :
    templateLiteral text =
      lineRules.foldl replaceChar (escapeSubstitutions (delimiterRules.foldl replaceChar text)) := by
  rw [foldl_replaceChar (by decide), foldl_replaceChar (by decide)]
  fun_induction templateLiteral text with
  | case1 => rfl
  | case2 rest ih => exact congrArg (['\\', '$', '\x7b'] ++ ·) ih
  | case3 c rest notDollar ih =>
    have apart :
        ¬ (c = '$' ∧ (rest.flatMap (writtenFor delimiterRules)).head? = some '\x7b') := by
      rintro ⟨rfl, brace⟩
      obtain ⟨more, rfl⟩ := List.head?_eq_some_iff.1 ((head?_delimiters rest).1 brace)
      exact notDollar more rfl rfl
    rw [List.flatMap_cons, escapeSubstitutions_delimiter apart, List.flatMap_append, ← templateChar_eq,
      ih]

end GlassPrompt
