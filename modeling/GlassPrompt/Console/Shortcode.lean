import GlassPrompt.Console.ShortcodeTable
import GlassPrompt.Text.Lines
import GlassPrompt.Text.Lower

/-!
# Emoji shortcodes

The console writes an emoji for its name between colons.  Behind the name `-emoji` or `-text` may ask
for one of the two presentations of the emoji.

* `emoji?` — the emoji of a name.
* `replaceShortcodes` — a text with its shortcodes replaced.
-/

namespace GlassPrompt

/-- The emoji of a name, if the line of the table is the name's. -/
def emojiOfLine? (name line : Text) : Option Text :=
  (name ++ [' ']).isPrefixOf? line

/-- The emoji of a name. -/
def emoji? (name : Text) : Option Text :=
  (Text.lines shortcodeTable.toList).findSome? (emojiOfLine? name)

/-- The endings that ask for a presentation, with the character that selects it. -/
def presentations : List (Text × Char) :=
  [("-emoji".toList, '\ufe0f'), ("-text".toList, '\ufe0e')]

/-- What a shortcode stands for, given without its colons. -/
def shortcode? (code : Text) : Option Text :=
  match presentations.find? fun (ending, _) => ending.isSuffixOf code with
  | some (ending, selector) =>
    (emoji? (Text.lower (code.take (code.length - ending.length)))).map (· ++ [selector])
  | none => emoji? (Text.lower code)

/-- The characters up to the next colon, if no blank comes before it, and what follows the colon. -/
def readShortcode? (text : Text) : Option (Text × Text) :=
  match text.dropWhile fun c => c != ':' && !isBlank c with
  | ':' :: rest => some (text.takeWhile fun c => c != ':' && !isBlank c, rest)
  | _ => none

theorem length_of_readShortcode? {text code rest : Text}
    (h : readShortcode? text = some (code, rest)) : rest.length < text.length := by
  have drop := (List.dropWhile_suffix (l := text) fun c => c != ':' && !isBlank c).length_le
  simp only [readShortcode?] at h
  split at h
  · next heq =>
    obtain ⟨_, rfl⟩ := Prod.mk.inj (Option.some.inj h)
    rw [heq, List.length_cons] at drop
    omega
  · simp at h

/-- The text with its shortcodes replaced, read from the left; a name that is not in the table stays,
with both of its colons. -/
def replaceShortcodes : Text → Text
  | [] => []
  | c :: rest =>
    match _h : if c = ':' then readShortcode? rest else none with
    | none => c :: replaceShortcodes rest
    | some (code, after) =>
      (shortcode? code).getD (':' :: code ++ [':']) ++ replaceShortcodes after
termination_by text => text.length
decreasing_by
  · simp
  · split at _h
    · have := length_of_readShortcode? _h
      simp only [List.length_cons]
      omega
    · simp at _h

end GlassPrompt
