import GlassPrompt.Text.Blank

/-!
# Lines, margins and indentation

Two notions of a line are in use.  A *line* ends at a newline only.  A *row* also ends at the other
line boundaries of Unicode, and keeps its ending.

* `Text.lines`, `Text.unlines` — split at newlines and join again; they are inverse.
* `Text.unifyNewlines` — carriage returns taken for newlines.
* `Text.rows` — the rows of a text, endings included; they concatenate to the text (`rows_flatten`).
* `Text.dedentLines` — the common margin of spaces and tabs removed from every line.
* `Text.indent` — a text put before every row that is not blank.
-/

namespace GlassPrompt

/-- The characters that end a row. -/
def isRowEnd (c : Char) : Bool :=
  let n := c.toNat
  (0x0A ≤ n && n ≤ 0x0D) || (0x1C ≤ n && n ≤ 0x1E) || n == 0x85 || n == 0x2028 || n == 0x2029

namespace Text

/-! ## Lines and rows -/

/-- The lines of a text, without their newlines; there is at least one. -/
def lines (text : Text) : List Text :=
  text.splitOn '\n'

/-- The lines joined by newlines. -/
def unlines (lines : List Text) : Text :=
  ['\n'].intercalate lines

theorem unlines_lines (text : Text) : unlines (lines text) = text :=
  List.intercalate_splitOn '\n'

/-- A carriage return, alone or before a newline, becomes a newline. -/
def unifyNewlines : Text → Text
  | [] => []
  | '\r' :: '\n' :: rest => '\n' :: unifyNewlines rest
  | c :: rest => (if c = '\r' then '\n' else c) :: unifyNewlines rest

/-- The rows of a text, each with its ending; a carriage return and a newline end one row. -/
def rows : Text → List Text
  | [] => []
  | '\r' :: '\n' :: rest => ['\r', '\n'] :: rows rest
  | c :: rest =>
    if isRowEnd c then [c] :: rows rest
    else match rows rest with
      | [] => [[c]]
      | row :: more => (c :: row) :: more

theorem rows_flatten (text : Text) : (rows text).flatten = text := by
  fun_induction rows text <;> simp_all

/-- Every row that is not blank gets `margin` put before it. -/
def indent (margin text : Text) : Text :=
  (rows text).flatMap fun row => if isBlankText row then row else margin ++ row

/-! ## Margins -/

/-- The margin of a line; a line of spaces and tabs only has none. -/
def margin? (line : Text) : Option Text :=
  if line.all isIndent then none else some (line.takeWhile isIndent)

/-- The longest margin that all lines with a margin share. -/
def commonMargin (lines : List Text) : Text :=
  match lines.filterMap margin? with
  | [] => []
  | margin :: margins => margins.foldl commonStart margin

/-- The lines without their common margin; lines of spaces and tabs only become empty. -/
def dedentLines (lines : List Text) : List Text :=
  let margin := commonMargin lines
  lines.map fun line => if line.all isIndent then [] else line.drop margin.length

end Text

end GlassPrompt
