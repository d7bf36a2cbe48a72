import GlassPrompt.Text.Digit

/-!
# Numerals

A number is written in decimal digits, with or without a fraction and an exponent, or as a whole number
in one of the bases 16, 8 and 2.  A decimal number that ends in `j` is imaginary.  An underscore may
stand between two digits.

* `readNumeral` — the characters of a numeral at the head of a text.
* `numeral?` — checks them, and tells whether the number is imaginary.
-/

namespace GlassPrompt

/-! ## Reading -/

/-- The characters of names and numbers: ASCII letters and digits, underscores and all that is not
ASCII. -/
def isNameChar (c : Char) : Bool :=
  c.isAlphanum || c == '_' || 0x80 ≤ c.toNat

/-- The text starts with the mark of a base other than ten. -/
def hasBaseMark : Text → Bool
  | '0' :: c :: _ => "xXoObB".toList.contains c
  | _ => false

/-- The characters end where a sign may follow, as the sign of an exponent. -/
def awaitsExponentSign (numeral : Text) : Bool :=
  !hasBaseMark numeral && (numeral.getLast? == some 'e' || numeral.getLast? == some 'E')

/-- The characters of a numeral at the head of a text, and what follows them. -/
def readNumeral (text : Text) : Text × Text :=
  let numeral := text.takeWhile fun c => isNameChar c || c == '.'
  let rest := text.dropWhile fun c => isNameChar c || c == '.'
  match rest with
  | sign :: digit :: more =>
    if awaitsExponentSign numeral && (sign == '+' || sign == '-') && digit.isDigit then
      (numeral ++ sign :: (digit :: more).takeWhile isNameChar, more.dropWhile isNameChar)
    else (numeral, rest)
  | _ => (numeral, rest)

/-! ## Checking -/

/-- Digits with single underscores between them, at least one. -/
def isDigitGroups (isDigit : Char → Bool) (text : Text) : Bool :=
  (text.splitOn '_').all fun group => !group.isEmpty && group.all isDigit

/-- The digits of a whole number in base 16, 8 or 2, given behind the mark of the base; an underscore
may come first. -/
def isBasedDigits (isDigit : Char → Bool) : Text → Bool
  | '_' :: digits => isDigitGroups isDigit digits
  | digits => isDigitGroups isDigit digits

/-- A whole number in base ten, of not too many digits.  A zero leads only if all digits are zeros. -/
def isWhole (digits : Text) : Bool :=
  isDigitGroups Char.isDigit digits &&
    if digits.head? = some '0' then digits.all fun c => c == '0' || c == '_'
    else digits.countP Char.isDigit ≤ maxDigits

/-- A number with a point: digits on one side of it at least. -/
def isPointed (before after : Text) : Bool :=
  let isPart (digits : Text) := digits.isEmpty || isDigitGroups Char.isDigit digits
  isPart before && isPart after && !(before.isEmpty && after.isEmpty)

/-- A decimal number without an exponent. -/
def isMantissa (isWhole : Text → Bool) (text : Text) : Bool :=
  match text.dropWhile (· != '.') with
  | _ :: after => isPointed (text.takeWhile (· != '.')) after
  | [] => isWhole text

/-- The digits of an exponent, with or without a sign. -/
def isExponent : Text → Bool
  | '+' :: digits => isDigitGroups Char.isDigit digits
  | '-' :: digits => isDigitGroups Char.isDigit digits
  | digits => isDigitGroups Char.isDigit digits

/-- A decimal number; `isWhole` checks it if it has neither a point nor an exponent. -/
def isDecimal (isWhole : Text → Bool) (text : Text) : Bool :=
  let isMark (c : Char) := c == 'e' || c == 'E'
  match text.dropWhile (!isMark ·) with
  | _ :: exponent =>
    isMantissa (isDigitGroups Char.isDigit) (text.takeWhile (!isMark ·)) && isExponent exponent
  | [] => isMantissa isWhole text

/-- Whether the number of a numeral is imaginary; there is no number if it is not well written. -/
def numeral? : Text → Option Bool
  | '0' :: 'x' :: digits | '0' :: 'X' :: digits =>
    if isBasedDigits isHexDigit digits then some false else none
  | '0' :: 'o' :: digits | '0' :: 'O' :: digits =>
    if isBasedDigits (fun c => '0' ≤ c && c ≤ '7') digits then some false else none
  | '0' :: 'b' :: digits | '0' :: 'B' :: digits =>
    if isBasedDigits (fun c => c == '0' || c == '1') digits then some false else none
  | text =>
    if text.getLast? = some 'j' ∨ text.getLast? = some 'J' then
      if isDecimal (isDigitGroups Char.isDigit) text.dropLast then some true else none
    else if isDecimal isWhole text then some false else none

/-! ## What follows a numeral -/

theorem append_of_readNumeral (text : Text) : (readNumeral text).1 ++ (readNumeral text).2 = text := by
  simp only [readNumeral]
  split
  · next sign digit more heq =>
    split
    · next cond =>
      have isName : isNameChar digit := by
        simp only [Bool.and_eq_true] at cond
        simp [isNameChar, Char.isAlphanum, cond.2]
      simp only [List.takeWhile_cons_of_pos isName, List.append_assoc, List.cons_append,
        List.takeWhile_append_dropWhile]
      rw [← heq, List.takeWhile_append_dropWhile]
    · exact List.takeWhile_append_dropWhile
  · exact List.takeWhile_append_dropWhile

theorem numeral?_nil : numeral? [] = none := by
  decide

/-- A numeral has one character at least. -/
theorem length_of_readNumeral {text : Text} {imaginary : Bool}
    (h : numeral? (readNumeral text).1 = some imaginary) :
    (readNumeral text).2.length < text.length := by
  have all := congrArg List.length (append_of_readNumeral text)
  have : (readNumeral text).1.length ≠ 0 := by
    intro none
    rw [List.length_eq_zero_iff.mp none, numeral?_nil] at h
    simp at h
  simp only [List.length_append] at all
  omega

end GlassPrompt
