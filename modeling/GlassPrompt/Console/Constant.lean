import GlassPrompt.Console.TextConstant
import GlassPrompt.Text.Lines

/-!
# Constants

A constant is a number, a complex number, a text, bytes, a truth value or nothing, or a tuple, a set or a
mapping of constants.  Members of sets and keys of mappings cannot hold sets or mappings themselves.

* `Constant.Symbol` — what is read: constants already understood, and the signs between them.
* `Constant.expression?`, `roundGroup?`, `braceGroup?` — symbols in a row and in brackets taken together.
* `Constant.Token`, `tokens?` — a written constant taken apart.
* `Constant.gather?` — tokens taken together from the innermost brackets outwards.
* `isConstant` — a text is a constant.
-/

namespace GlassPrompt

namespace Constant

/-! ## Symbols -/

/-- A part of a written constant. -/
inductive Symbol where
  | number (signed imaginary : Bool)
  | text (bytes : Bool)
  /-- Another constant, which may or may not be a member of a set. -/
  | other (member : Bool)
  /-- Round brackets with nothing inside. -/
  | nothing
  /-- The word `set`, which makes an empty set with `nothing` behind it. -/
  | set
  | sign
  | comma
  | colon
  deriving DecidableEq, Repr

/-- The constant that symbols without commas and colons stand for.  A sign stands before a number
without one, or between a real and an imaginary number; texts of one kind in a row are one text. -/
def expression? : List Symbol → Option Symbol
  | [.number signed imaginary] => some (.number signed imaginary)
  | [.other member] => some (.other member)
  | [.nothing] => some (.other true)
  | [.set] => some .set
  | [.set, .nothing] => some (.other false)
  | [.sign, .number false imaginary] => some (.number true imaginary)
  | [.number _ false, .sign, .number false true] => some (.other true)
  | [.sign, .number false false, .sign, .number false true] => some (.other true)
  | .text bytes :: rest => if rest.all (· == .text bytes) then some (.other true) else none
  | _ => none

/-- Whether an understood constant may be a member of a set; the word `set` is no constant. -/
def Symbol.member? : Symbol → Option Bool
  | .number _ _ => some true
  | .other member => some member
  | _ => none

/-- Whether the constant that symbols stand for may be a member of a set. -/
def memberExpression? (symbols : List Symbol) : Option Bool :=
  (expression? symbols).bind Symbol.member?

/-- The symbols between commas; a comma at the end has nothing behind it. -/
def parts (symbols : List Symbol) : List (List Symbol) :=
  let all := symbols.splitOn .comma
  if all.getLast? = some [] then all.dropLast else all

/-- What round brackets with the given symbols inside stand for: a tuple if there is a comma. -/
def roundGroup? (symbols : List Symbol) : Option Symbol :=
  if symbols.isEmpty then some .nothing
  else if symbols.contains .comma then
    ((parts symbols).mapM memberExpression?).map fun members => .other (members.all id)
  else expression? symbols

/-- An entry of a set, or an entry of a mapping with a colon in it, that may stand there. -/
def isEntry (isMapping : Bool) (symbols : List Symbol) : Bool :=
  match isMapping, symbols.splitOn .colon with
  | false, [member] => memberExpression? member == some true
  | true, [key, value] => memberExpression? key == some true && (memberExpression? value).isSome
  | _, _ => false

/-- What braces with the given symbols inside stand for: a set, or a mapping if there are colons or
nothing. -/
def braceGroup? (symbols : List Symbol) : Option Symbol :=
  if symbols.isEmpty || (parts symbols).all (isEntry (symbols.contains .colon)) then
    some (.other false)
  else none

/-! ## Tokens -/

/-- A part of a written constant, before brackets are taken together. -/
inductive Token where
  | symbol (symbol : Symbol)
  | opening (isRound : Bool)
  | closing (isRound : Bool)
  /-- Blanks, a comment, or the break of a line that goes on. -/
  | gap
  | newline
  deriving DecidableEq, Repr

/-- The characters that are blank within a line. -/
def isGapChar (c : Char) : Bool :=
  c == ' ' || c == '\t' || c == '\x0c'

/-- The token that a character is on its own. -/
def Token.ofChar? (c : Char) : Option Token :=
  if isGapChar c then some .gap
  else match c with
    | '\n' => some .newline
    | '(' => some (.opening true)
    | ')' => some (.closing true)
    | '\x7b' => some (.opening false)
    | '\x7d' => some (.closing false)
    | ',' => some (.symbol .comma)
    | ':' => some (.symbol .colon)
    | '+' | '-' => some (.symbol .sign)
    | _ => none

/-- The symbol that a word is. -/
def Symbol.ofWord? (word : Text) : Option Symbol :=
  if word = "set".toList then some .set
  else if ["True".toList, "False".toList, "None".toList].contains word then some (.other true)
  else none

/-- The word or the text constant at the head of a text, and what follows it. -/
def readWordToken? (text : Text) : Option (Token × Text) :=
  let word := text.takeWhile isNameChar
  let rest := text.dropWhile isNameChar
  if rest.head? = some '\'' ∨ rest.head? = some '"' then
    (TextForm.ofLetters? word).bind fun form =>
      (readTextConstant? form rest).map (.symbol (.text form.bytes), ·)
  else (Symbol.ofWord? word).map (.symbol ·, rest)

/-- The numeral at the head of a text, and what follows it. -/
def readNumeralToken? (text : Text) : Option (Token × Text) :=
  (numeral? (readNumeral text).1).map fun imaginary =>
    (.symbol (.number false imaginary), (readNumeral text).2)

/-- The token at the head of a text, and what follows it.  A line that goes on behind a backslash has to
have a next one. -/
def readToken? : Text → Option (Token × Text)
  | [] => none
  | '\\' :: '\n' :: rest => if rest.isEmpty then none else some (.gap, rest)
  | '#' :: rest => some (.gap, rest.dropWhile (· != '\n'))
  | '.' :: '.' :: '.' :: rest => some (.symbol (.other true), rest)
  | c :: rest =>
    match Token.ofChar? c with
    | some token => some (token, rest)
    | none =>
      if c.isDigit ∨ c = '.' then readNumeralToken? (c :: rest) else readWordToken? (c :: rest)

theorem length_of_readWordToken? {text rest : Text} {token : Token}
    (h : readWordToken? text = some (token, rest)) : rest.length < text.length := by
  have all := congrArg List.length (List.takeWhile_append_dropWhile (p := isNameChar) (l := text))
  simp only [List.length_append] at all
  simp only [readWordToken?] at h
  split at h
  · simp only [Option.bind_eq_some_iff, Option.map_eq_some_iff, Prod.mk.injEq] at h
    obtain ⟨form, _, after, read, _, rfl⟩ := h
    have := length_of_readTextConstant? read
    omega
  · simp only [Option.map_eq_some_iff, Prod.mk.injEq] at h
    obtain ⟨symbol, word, _, rfl⟩ := h
    have : (text.takeWhile isNameChar).length ≠ 0 := by
      intro none
      rw [List.length_eq_zero_iff.mp none] at word
      simp [Symbol.ofWord?] at word
    omega

theorem length_of_readToken? {text rest : Text} {token : Token}
    (h : readToken? text = some (token, rest)) : rest.length < text.length := by
  unfold readToken? at h
  split at h
  · simp at h
  · split at h
    · simp at h
    · obtain ⟨_, rfl⟩ := Prod.mk.inj (Option.some.inj h)
      simp only [List.length_cons]
      omega
  · next tail =>
    obtain ⟨_, rfl⟩ := Prod.mk.inj (Option.some.inj h)
    have := (List.dropWhile_suffix (l := tail) (· != '\n')).length_le
    simp only [List.length_cons]
    omega
  · obtain ⟨_, rfl⟩ := Prod.mk.inj (Option.some.inj h)
    simp only [List.length_cons]
    omega
  · split at h
    · obtain ⟨_, rfl⟩ := Prod.mk.inj (Option.some.inj h)
      simp
    · split at h
      · simp only [readNumeralToken?, Option.map_eq_some_iff, Prod.mk.injEq] at h
        obtain ⟨_, found, _, rfl⟩ := h
        exact length_of_readNumeral found
      · exact length_of_readWordToken? h

/-- A written constant taken apart. -/
def tokens? (text : Text) : Option (List Token) :=
  if text.isEmpty then some []
  else match _h : readToken? text with
    | none => none
    | some (token, rest) => (tokens? rest).map (token :: ·)
termination_by text.length
decreasing_by exact length_of_readToken? _h

/-! ## Taking tokens together -/

/-- Brackets that are open, with the symbols before them. -/
structure OpenBrackets where
  isRound : Bool
  before : List Symbol
  deriving DecidableEq, Repr

/-- How many brackets may be open at a time. -/
def maxOpenBrackets : Nat :=
  200

/-- The symbols of tokens, brackets taken together; `brackets` are open, innermost first, with `symbols`
inside them.  Lines matter outside of brackets: all symbols stand on one line. -/
def gather? (brackets : List OpenBrackets) (symbols : List Symbol) :
    List Token → Option (List Symbol)
  | [] => if brackets.isEmpty then some symbols else none
  | .gap :: rest => gather? brackets symbols rest
  | .newline :: rest =>
    if brackets.isEmpty && !symbols.isEmpty then
      if rest.all fun token => token == .gap || token == .newline then some symbols else none
    else gather? brackets symbols rest
  | .symbol symbol :: rest => gather? brackets (symbols ++ [symbol]) rest
  | .opening isRound :: rest =>
    if brackets.length < maxOpenBrackets then gather? (⟨isRound, symbols⟩ :: brackets) [] rest else none
  | .closing isRound :: rest =>
    match brackets with
    | [] => none
    | innermost :: outer =>
      if innermost.isRound = isRound then
        (if isRound then roundGroup? symbols else braceGroup? symbols).bind fun symbol =>
          gather? outer (innermost.before ++ [symbol]) rest
      else none

/-! ## Constants -/

/-- The symbols start at the margin.  `indented` tells whether blanks stand before them so far, and
`broken` whether some did where a line was broken.  Lines of blanks and comments do not count, and a form
feed sets the margin anew. -/
def startsAtMarginFrom (inComment indented broken : Bool) : Text → Bool
  | [] => true
  | '\n' :: rest => startsAtMarginFrom false false false rest
  | '\\' :: '\n' :: rest =>
    if inComment then startsAtMarginFrom false false false rest
    else startsAtMarginFrom false indented (broken || indented) rest
  | c :: rest =>
    if inComment || c == '#' then startsAtMarginFrom true indented broken rest
    else if isGapChar c then startsAtMarginFrom false (c != '\x0c') broken rest
    else !indented && !broken

/-- The symbols start at the margin. -/
def startsAtMargin (text : Text) : Bool :=
  startsAtMarginFrom false false false text

end Constant

/-- The text is a constant; outside of brackets a tuple needs none of its own. -/
def isConstant (source : Text) : Bool :=
  let text := Text.unifyNewlines source
  match (Constant.tokens? text).bind (Constant.gather? [] []) with
  | none | some [] => false
  | some symbols =>
    !text.contains '\x00' && Constant.startsAtMargin text &&
      ((Constant.roundGroup? symbols).bind Constant.Symbol.member?).isSome

end GlassPrompt
