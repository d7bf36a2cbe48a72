import GlassPrompt.Console.Colour
import GlassPrompt.Text.Blank

/-!
# Styles

A style of the console says which text attributes are on or off, and gives a colour, a background and a
link.  It is written as words: the names of attributes, `not` before an attribute that is off, a colour,
`on` before the background and `link` before an address.  What comes later counts.

* `TextAttribute`, `Style` — styles.
* `Style.read` — the style that a text stands for.
* `Style.text` — the written form of a style, the same for all texts that stand for it.
* `styleName` — the name by which a style is told from others.
-/

namespace GlassPrompt

/-! ## Text attributes -/

/-- What a style can say of the look of a text, its colours apart. -/
inductive TextAttribute where
  | bold
  | dim
  | italic
  | underline
  | blink
  | fastBlink
  | reverse
  | conceal
  | strike
  | doubleUnderline
  | frame
  | encircle
  | overline
  deriving DecidableEq, Repr

namespace TextAttribute

/-- All attributes, in the order in which a style is written. -/
def all : List TextAttribute :=
  [.bold, .dim, .italic, .underline, .blink, .fastBlink, .reverse, .conceal, .strike, .doubleUnderline,
    .frame, .encircle, .overline]

/-- The name of an attribute. -/
def name : TextAttribute → Text
  | .bold => "bold".toList
  | .dim => "dim".toList
  | .italic => "italic".toList
  | .underline => "underline".toList
  | .blink => "blink".toList
  | .fastBlink => "blink2".toList
  | .reverse => "reverse".toList
  | .conceal => "conceal".toList
  | .strike => "strike".toList
  | .doubleUnderline => "underline2".toList
  | .frame => "frame".toList
  | .encircle => "encircle".toList
  | .overline => "overline".toList

/-- The short name of an attribute, if it has one. -/
def shortName? : TextAttribute → Option Text
  | .bold => some ['b']
  | .dim => some ['d']
  | .italic => some ['i']
  | .underline => some ['u']
  | .reverse => some ['r']
  | .conceal => some ['c']
  | .strike => some ['s']
  | .doubleUnderline => some ['u', 'u']
  | .overline => some ['o']
  | .blink | .fastBlink | .frame | .encircle => none

/-- The attribute that a word names. -/
def ofWord? (word : Text) : Option TextAttribute :=
  all.find? fun a => a.name == word || a.shortName? == some word

theorem mem_all (a : TextAttribute) : a ∈ all := by
  cases a <;> decide

end TextAttribute

/-! ## Styles -/

/-- A style; of an attribute that is named several times the first entry counts. -/
structure Style where
  attributes : List (TextAttribute × Bool)
  colour : Option Text
  background : Option Text
  link : Option Text
  deriving DecidableEq, Repr

namespace Style

/-- The style that says nothing. -/
def plain : Style :=
  ⟨[], none, none, none⟩

/-- The style that turns an attribute on or off, and is otherwise the given one. -/
def set (style : Style) (a : TextAttribute) (isOn : Bool) : Style :=
  { style with attributes := (a, isOn) :: style.attributes }

/-- What a word asks for. -/
inductive WordRole where
  /-- The next word is the background. -/
  | background
  /-- The next word is an attribute that is off. -/
  | off
  /-- The next word is an address. -/
  | link
  | turnOn (a : TextAttribute)
  | colour
  deriving DecidableEq, Repr

/-- What a word in lower case asks for. -/
def WordRole.ofWord (word : Text) : WordRole :=
  if word = "on".toList then .background
  else if word = "not".toList then .off
  else if word = "link".toList then .link
  else match TextAttribute.ofWord? word with
    | some a => .turnOn a
    | none => .colour

/-- The style that words stand for, on top of a given one.  A word that another one belongs to has to
be followed by it; there capital letters are not taken for small ones, except in a colour. -/
def readWords (style : Style) : List Text → Except StyleFault Style
  | [] => .ok style
  | word :: rest =>
    match WordRole.ofWord (Text.lower word), rest with
    | .background, next :: rest =>
      match readColour next with
      | .error fault => .error fault
      | .ok colour => readWords { style with background := some colour } rest
    | .off, next :: rest =>
      match TextAttribute.ofWord? next with
      | none => .error .noStyle
      | some a => readWords (style.set a false) rest
    | .link, next :: rest => readWords { style with link := some next } rest
    | .turnOn a, rest => readWords (style.set a true) rest
    | .colour, rest =>
      match readColour word with
      | .error fault => .error fault
      | .ok colour => readWords { style with colour := some colour } rest
    | .background, [] | .off, [] | .link, [] => .error .noStyle

/-- The written form of the style that says nothing. -/
def plainText : Text :=
  "none".toList

/-- The style that a text stands for. -/
def read (text : Text) : Except StyleFault Style :=
  if Text.trim text = plainText then .ok plain else readWords plain (Text.words text)

/-- The words of an attribute that the style turns on or off. -/
def attributeWords (style : Style) (a : TextAttribute) : List Text :=
  match style.attributes.lookup a with
  | none => []
  | some true => [a.name]
  | some false => ["not".toList, a.name]

/-- The words of the style. -/
def words (style : Style) : List Text :=
  TextAttribute.all.flatMap style.attributeWords ++ style.colour.toList ++
    (style.background.toList.flatMap fun colour => ["on".toList, colour]) ++
    style.link.toList.flatMap fun address => ["link".toList, address]

/-- The written form of the style. -/
def text (style : Style) : Text :=
  if style.words.isEmpty then plainText else [' '].intercalate style.words

end Style

/-- The name by which a style is told from others: its written form, or the text in lower case if it
does not stand for a style. -/
def styleName (text : Text) : Except StyleFault Text :=
  match Style.read text with
  | .ok style => .ok style.text
  | .error .noStyle => .ok (Text.lower (Text.trim text))
  | .error .noNumber => .error .noNumber

end GlassPrompt
