import GlassPrompt.Console.WidthRanges
import GlassPrompt.Text.CodeRange
import GlassPrompt.Text.Lines

/-!
# Cells and tabs

The console shows a character in no cell, in one or in two.  A tab is a blank that is followed by
further ones up to the next column of eight.

* `charCells`, `cells` — how many cells a character and a text take.
* `expandTabs` — a text with blanks for its tabs.
-/

namespace GlassPrompt

/-! ## Cells -/

/-- The characters that control the console and are not shown. -/
def isControl (c : Char) : Bool :=
  c.toNat < 0x20 || (0x7F ≤ c.toNat && c.toNat < 0xA0)

/-- The cells of a character on its own. -/
def charCells (c : Char) : Nat :=
  if isControl c || inRanges zeroWidthRanges c then 0
  else if inRanges wideRanges c then 2
  else 1

/-- The joiner; the character behind it is joined to the one before and takes no cell. -/
def joiner : Char :=
  '\u200d'

/-- The emoji selector; it widens some of the characters that it follows. -/
def emojiSelector : Char :=
  '\ufe0f'

/-- The cells of a text, where `last` is the last character in a cell to which a selector belongs. -/
def cellsFrom (last : Option Char) : Text → Nat
  | [] => 0
  | [c] => if c = emojiSelector then widened else if c = joiner then 0 else charCells c
  | c :: next :: rest =>
    if c = joiner then cellsFrom last rest
    else if c = emojiSelector then widened + cellsFrom none (next :: rest)
    else charCells c + cellsFrom (if charCells c = 0 then last else some c) (next :: rest)
where
  /-- The cell that a selector adds. -/
  widened : Nat :=
    if last.any (inRanges widenedRanges) then 1 else 0

/-- The cells of a text. -/
def cells (text : Text) : Nat :=
  cellsFrom none text

/-! ## Tabs -/

/-- The width of a tab stop. -/
def tabWidth : Nat :=
  8

/-- The parts of a line with blanks for the tabs between them, where `column` cells are taken. -/
def joinTabbed (column : Nat) : List Text → Text
  | [] => []
  | [part] => part
  | part :: rest =>
    let reached := column + cells (part ++ [' '])
    let blanks := (tabWidth - reached % tabWidth) % tabWidth
    part ++ ' ' :: List.replicate blanks ' ' ++ joinTabbed (reached + blanks) rest

/-- The text with blanks for its tabs. -/
def expandTabs (text : Text) : Text :=
  Text.unlines ((Text.lines text).map fun line => joinTabbed 0 (line.splitOn '\t'))

end GlassPrompt
