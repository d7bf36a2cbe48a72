import GlassPrompt.Text.Lines

/-!
# The text of an error

An error is shown as its message and, indented under it, what is known of its place and cause.

* `errorText` — a message with its details.
* `lineDetail`, `fileDetail` — where an error is.
* `lineErrorText`, `fileErrorText` — the texts of errors in a line and in a file.
-/

namespace GlassPrompt

/-- A message and, indented under it, its details. -/
def errorText (message : Text) (details : List Text) : Text :=
  Text.unlines (("Error: ".toList ++ message) :: details.map ("  ".toList ++ ·))

/-- The place of an error in a numbered line. -/
def lineDetail (number : Int) (line : Text) : Text :=
  "Line ".toList ++ Text.ofInt number ++ ": ".toList ++ line

/-- The place of an error in a file. -/
def fileDetail (path : Text) : Text :=
  "File: ".toList ++ path

/-- The text of an error in a line; without a number the line is not shown. -/
def lineErrorText (message : Text) (number : Option Int) (line : Option Text) : Text :=
  errorText message (number.toList.map fun n => lineDetail n (line.getD []))

/-- The text of an error in a file, with the text of its cause; an empty path is not shown. -/
def fileErrorText (message : Text) (path cause : Option Text) : Text :=
  errorText message (((path.filter (!·.isEmpty)).toList.map fileDetail) ++ cause.toList)

end GlassPrompt
