import GlassPrompt.Console.Numeral

/-!
# Texts as constants

A text constant stands in one or three quotes of a kind.  A letter before the quotes tells that it holds
bytes, or that backslashes are not escapes in it.

* `TextForm` — what the letters before the quotes say.
* `readInside?` — the characters up to the closing quotes.
* `readTextConstant?` — a text constant behind its letters, if it is well written.
-/

namespace GlassPrompt

/-- What a text constant holds, and whether backslashes stand for themselves in it. -/
structure TextForm where
  bytes : Bool
  raw : Bool
  deriving DecidableEq, Repr

/-- The form that the letters before the quotes ask for. -/
def TextForm.ofLetters? (letters : Text) : Option TextForm :=
  match letters.map Char.toLower with
  | [] | ['u'] => some ⟨false, false⟩
  | ['r'] => some ⟨false, true⟩
  | ['b'] => some ⟨true, false⟩
  | ['b', 'r'] | ['r', 'b'] => some ⟨true, true⟩
  | _ => none

/-- The characters up to the closing quotes, and what follows those.  A backslash keeps the character
behind it from closing; only three quotes may hold a newline. -/
def readInside? (closing : Text) : Text → Option (Text × Text)
  | '\\' :: c :: rest => (readInside? closing rest).map fun (inside, after) => ('\\' :: c :: inside, after)
  | c :: rest =>
    if closing.isPrefixOf (c :: rest) then some ([], rest.drop (closing.length - 1))
    else if c = '\n' ∧ closing.length = 1 then none
    else (readInside? closing rest).map fun (inside, after) => (c :: inside, after)
  | [] => none

theorem length_of_readInside? {closing text inside rest : Text}
    (h : readInside? closing text = some (inside, rest)) : rest.length < text.length := by
  induction text using readInside?.induct closing generalizing inside rest with
  | case1 c text ih =>
    simp only [readInside?, Option.map_eq_some_iff, Prod.mk.injEq] at h
    obtain ⟨⟨_, _⟩, found, _, rfl⟩ := h
    have := ih found
    simp only [List.length_cons]
    omega
  | case2 c text _ close =>
    rw [readInside?] at h
    · simp only [close, if_true, Option.some.injEq, Prod.mk.injEq] at h
      rw [← h.2, List.length_drop, List.length_cons]
      omega
    · assumption
  | case3 c text hne close broken =>
    rw [readInside?] at h
    · rw [if_neg close, if_pos broken] at h
      simp at h
    · assumption
  | case4 c text hne close broken ih =>
    rw [readInside?] at h
    · rw [if_neg close, if_neg broken] at h
      simp only [Option.map_eq_some_iff, Prod.mk.injEq] at h
      obtain ⟨⟨_, _⟩, found, _, rfl⟩ := h
      have := ih found
      simp only [List.length_cons]
      omega
    · assumption
  | case5 => simp [readInside?] at h

/-! ## Escapes -/

/-- The text starts with `n` hexadecimal digits. -/
def startsHex (n : Nat) (text : Text) : Bool :=
  let digits := text.take n
  digits.length == n && digits.all isHexDigit

/-- The text starts with the eight hexadecimal digits of a code point. -/
def startsCodePoint (text : Text) : Bool :=
  startsHex 8 text && ("000".toList.isPrefixOf text || "0010".toList.isPrefixOf text)

/-- The text starts with the name of a character in braces: letters, digits, blanks and hyphens. -/
def startsCharName : Text → Bool
  | '\x7b' :: c :: rest =>
    let isPart (c : Char) := c.isAlphanum || c == ' ' || c == '-'
    isPart c && (rest.dropWhile isPart).head? == some '\x7d'
  | _ => false

/-- A backslash and `c` before `rest` are well written. -/
def isEscape (bytes : Bool) (c : Char) (rest : Text) : Bool :=
  if c = 'x' then startsHex 2 rest
  else if bytes then true
  else if c = 'u' then startsHex 4 rest
  else if c = 'U' then startsCodePoint rest
  else if c = 'N' then startsCharName rest
  else true

/-- All escapes in the inside of a text constant are well written. -/
def hasGoodEscapes (bytes : Bool) : Text → Bool
  | '\\' :: c :: rest => isEscape bytes c rest && hasGoodEscapes bytes rest
  | _ :: rest => hasGoodEscapes bytes rest
  | [] => true

/-- The inside of a text constant is well written; bytes are ASCII. -/
def TextForm.accepts (form : TextForm) (inside : Text) : Bool :=
  (!form.bytes || inside.all fun c => c.toNat < 0x80) &&
    (form.raw || hasGoodEscapes form.bytes inside)

/-! ## Reading -/

/-- The inside of a text constant, given from its first quote on, and what follows it. -/
def readQuoted? : Text → Option (Text × Text)
  | [] => none
  | quote :: rest =>
    match [quote, quote].isPrefixOf? rest with
    | some rest => readInside? [quote, quote, quote] rest
    | none => readInside? [quote] rest

/-- What follows a text constant that is given from its first quote on, if it is well written. -/
def readTextConstant? (form : TextForm) (text : Text) : Option Text :=
  (readQuoted? text).bind fun (inside, after) => if form.accepts inside then some after else none

theorem length_of_readTextConstant? {form : TextForm} {text rest : Text}
    (h : readTextConstant? form text = some rest) : rest.length < text.length := by
  simp only [readTextConstant?, Option.bind_eq_some_iff] at h
  obtain ⟨⟨inside, after⟩, read, h⟩ := h
  split at h
  · obtain rfl := Option.some.inj h
    cases text with
    | nil => simp [readQuoted?] at read
    | cons quote text =>
      simp only [readQuoted?] at read
      split at read
      · next more heq =>
        have := length_of_readInside? read
        have := congrArg List.length (Text.isPrefixOf?_eq_some_iff.mp heq)
        simp only [List.length_append, List.length_cons] at this ⊢
        omega
      · have := length_of_readInside? read
        simp only [List.length_cons]
        omega
  · simp at h

end GlassPrompt
