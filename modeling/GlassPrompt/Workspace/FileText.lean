import GlassPrompt.Text.Lines

/-!
# The text of a file

Files hold UTF-8.  Reading one as text turns every kind of line end into a newline.

* `fileText?` — the text of a file's content, if it is valid.
* `encodeText` — the content of a file that holds a text.
-/

namespace GlassPrompt

/-- The characters of UTF-8, if it is valid. -/
def decodeText? (content : ByteArray) : Option Text :=
  (String.fromUTF8? content).map String.toList

/-- The text of a file's content, with unified newlines. -/
def fileText? (content : ByteArray) : Option Text :=
  (decodeText? content).map Text.unifyNewlines

/-- The content of a file that holds the given text. -/
def encodeText (text : Text) : ByteArray :=
  (String.ofList text).toUTF8

end GlassPrompt
