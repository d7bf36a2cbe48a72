import GlassPrompt.Text.Basic

/-!
# Blank characters

The blank characters are the Unicode white space together with the four information separators
`U+001C` to `U+001F`.  The zero-width space `U+200B` and the byte-order mark `U+FEFF` are not blank.

* `isBlank` — the character class.
* `Text.trim`, `Text.trimStart`, `Text.trimEnd` — blank characters removed at the ends.
* `Text.words` — the maximal runs of characters that are not blank.
* `Text.isBlankText` — a text of blank characters only.
-/

namespace GlassPrompt

/-- The blank characters. -/
def isBlank (c : Char) : Bool :=
  let n := c.toNat
  (0x09 ≤ n && n ≤ 0x0D) || (0x1C ≤ n && n ≤ 0x20) || n == 0x85 || n == 0xA0 || n == 0x1680 ||
    (0x2000 ≤ n && n ≤ 0x200A) || n == 0x2028 || n == 0x2029 || n == 0x202F || n == 0x205F ||
    n == 0x3000

/-- Spaces and tabs, the only characters that indent. -/
def isIndent (c : Char) : Bool :=
  c == ' ' || c == '\t'

namespace Text

/-- A text of blank characters only, such as the empty text. -/
def isBlankText (text : Text) : Bool :=
  text.all isBlank

/-- The text without the blank characters at its start. -/
def trimStart (text : Text) : Text :=
  text.dropWhile isBlank

/-- The text without the blank characters at its end. -/
def trimEnd (text : Text) : Text :=
  (text.reverse.dropWhile isBlank).reverse

/-- The text without the blank characters at its two ends. -/
def trim (text : Text) : Text :=
  trimEnd (trimStart text)

/-- The maximal runs of characters that are not blank, in order. -/
def words (text : Text) : List Text :=
  (text.splitOnP isBlank).filter fun word => !word.isEmpty

theorem length_trimStart_le (text : Text) : (trimStart text).length ≤ text.length :=
  (List.dropWhile_suffix isBlank).length_le

end Text

end GlassPrompt
