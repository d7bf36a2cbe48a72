import GlassPrompt.Text.Basic
import GlassPrompt.Text.CodeRange
import GlassPrompt.Text.HiddenRanges

/-!
# Texts in quotes

A text is shown in single quotes, or in double quotes if it holds single quotes only.  Characters that
cannot be shown are written as their code points, in two, four or eight hexadecimal digits.

* `isHidden` — the characters that cannot be shown.
* `Text.inQuotes` — the text in quotes.
-/

namespace GlassPrompt

/-- The characters that cannot be shown: those of `hiddenRanges`. -/
def isHidden (c : Char) : Bool :=
  inRanges hiddenRanges c

namespace Text

/-- The hexadecimal numeral of a number, filled up with zeros to the given length. -/
def hexadecimal (length n : Nat) : Text :=
  let digits := Nat.toDigits 16 n
  List.replicate (length - digits.length) '0' ++ digits

/-- A character inside the given quotes. -/
def quotedChar (quote c : Char) : Text :=
  if c = '\\' ∨ c = quote then ['\\', c]
  else if c = '\n' then ['\\', 'n']
  else if c = '\r' then ['\\', 'r']
  else if c = '\t' then ['\\', 't']
  else if !isHidden c then [c]
  else if c.toNat < 0x100 then '\\' :: 'x' :: hexadecimal 2 c.toNat
  else if c.toNat < 0x10000 then '\\' :: 'u' :: hexadecimal 4 c.toNat
  else '\\' :: 'U' :: hexadecimal 8 c.toNat

/-- The text in quotes. -/
def inQuotes (text : Text) : Text :=
  let quote := if text.contains '\'' && !text.contains '"' then '"' else '\''
  quote :: text.flatMap (quotedChar quote) ++ [quote]

end Text

end GlassPrompt
