import GlassPrompt.Text.Basic
import GlassPrompt.Text.CodeRange
import GlassPrompt.Text.LetterRanges

/-!
# Words and identifiers

* `isWord` — letters, numbers and the underscore, of every script.
* `isNameStart`, `isNameRest` — the characters of an identifier: it starts with an ASCII letter, an
  underscore or a dollar sign and goes on with word characters and dollar signs.
* `Text.isIdentifier` — one whole identifier.
* `Text.readIdentifier?` — the longest identifier at the head of a text.
-/

namespace GlassPrompt

/-- Letters, numbers and the underscore. -/
def isWord (c : Char) : Bool :=
  c.isAlphanum || c == '_' || (0x80 ≤ c.toNat && inRanges letterRanges c)

/-- The characters that an identifier may start with. -/
def isNameStart (c : Char) : Bool :=
  c.isAlpha || c == '_' || c == '$'

/-- The characters that an identifier may go on with. -/
def isNameRest (c : Char) : Bool :=
  isWord c || c == '$'

namespace Text

/-- The longest identifier at the head of a text, with what follows it. -/
def readIdentifier? : Text → Option (Text × Text)
  | [] => none
  | c :: rest =>
    if isNameStart c then some (c :: rest.takeWhile isNameRest, rest.dropWhile isNameRest) else none

/-- The text is one whole identifier. -/
def isIdentifier : Text → Bool
  | [] => false
  | c :: rest => isNameStart c && rest.all isNameRest

theorem append_of_readIdentifier? {text name rest : Text}
    (h : readIdentifier? text = some (name, rest)) : name ++ rest = text := by
  cases text with
  | nil => simp [readIdentifier?] at h
  | cons c cs =>
    simp only [readIdentifier?] at h
    split at h
    · obtain ⟨rfl, rfl⟩ := Prod.mk.inj (Option.some.inj h)
      simp [List.takeWhile_append_dropWhile]
    · simp at h

theorem length_of_readIdentifier? {text name rest : Text}
    (h : readIdentifier? text = some (name, rest)) : rest.length < text.length := by
  cases text with
  | nil => simp [readIdentifier?] at h
  | cons c cs =>
    simp only [readIdentifier?] at h
    split at h
    · obtain ⟨rfl, rfl⟩ := Prod.mk.inj (Option.some.inj h)
      have := (List.dropWhile_suffix (l := cs) isNameRest).length_le
      simp only [List.length_cons]
      omega
    · simp at h

end Text

end GlassPrompt
