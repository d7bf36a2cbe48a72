import GlassPrompt.Console.Cell
import GlassPrompt.Console.Handler
import GlassPrompt.Console.Segment
import GlassPrompt.Console.Shortcode
import GlassPrompt.Console.Style

/-!
# Console markup

A written line is shown without its style tags.  The styles themselves are not shown here, but an ending
tag has to end a style that is open, and what a style says has to be understood.

* `plainText` — what is shown of the text between style tags.
* `StyleTag`, `MarkupFault` — style tags, and what can be wrong with them.
* `Rendering` — what a line has come to, segment by segment.
* `consoleText` — what is shown of a written line.
-/

namespace GlassPrompt

/-! ## Plain text -/

/-- The control characters that are not shown. -/
def isDroppedControl (c : Char) : Bool :=
  c == '\x07' || c == '\x08' || c == '\x0b' || c == '\x0c' || c == '\r'

/-- The text without the control characters that are not shown. -/
def dropControls (text : Text) : Text :=
  text.filter (!isDroppedControl ·)

/-- A backslash before a square bracket is not shown. -/
def unescapeBrackets : Text → Text
  | [] => []
  | '\\' :: '[' :: rest => '[' :: unescapeBrackets rest
  | c :: rest => c :: unescapeBrackets rest

/-- Plain text as it is shown. -/
def plainText (text : Text) : Text :=
  dropControls (replaceShortcodes (unescapeBrackets text))

/-! ## Style tags -/

/-- A style tag: what stands before its first equals sign, and what stands behind that. -/
structure StyleTag where
  name : Text
  parameters : Option Text
  deriving DecidableEq, Repr

namespace StyleTag

/-- The tag of the text in its brackets. -/
def parse (text : Text) : StyleTag where
  name := text.takeWhile (· != '=')
  parameters := if text.contains '=' then some ((text.dropWhile (· != '=')).drop 1) else none

/-- The style that a tag asks for. -/
def style (tag : StyleTag) : Text :=
  tag.name ++ tag.parameters.toList.flatMap fun parameters => ' ' :: parameters

/-- The tag names a handler. -/
def isForHandler (tag : StyleTag) : Bool :=
  tag.name.head? == some '@'

end StyleTag

/-- What can be wrong with the style tags of a line. -/
inductive MarkupFault where
  /-- An ending tag ends nothing. -/
  | nothingToEnd
  /-- The parameters of a handler are not understood. -/
  | badHandler
  /-- A colour has no number where it should have one. -/
  | noNumber
  deriving DecidableEq, Repr

/-- The name of the style of a tag. -/
def tagStyleName (text : Text) : Except MarkupFault Text :=
  (styleName text).mapError fun _ => .noNumber

/-! ## Rendering -/

/-- A style that is open, and the number of characters shown before it. -/
structure OpenStyle where
  tag : StyleTag
  start : Nat
  deriving DecidableEq, Repr

/-- A part of the shown text, and its style. -/
structure StyledPart where
  start : Nat
  stop : Nat
  style : Text
  deriving DecidableEq, Repr

/-- What a line has come to: the text that is shown, the styles that are open, innermost first, and the
parts whose styles have ended. -/
structure Rendering where
  text : Text
  openStyles : List OpenStyle
  parts : List StyledPart
  deriving DecidableEq, Repr

/-- The innermost open style of a name, and the others. -/
def takeStyle? (name : Text) : List OpenStyle → Option (OpenStyle × List OpenStyle)
  | [] => none
  | style :: outer =>
    if style.tag.name = name then some (style, outer)
    else (takeStyle? name outer).map fun (found, others) => (found, style :: others)

namespace Rendering

/-- The start of a line. -/
def empty : Rendering :=
  ⟨[], [], []⟩

/-- The part of the shown text from the start of a style on. -/
def partOf (rendering : Rendering) (style : OpenStyle) : StyledPart :=
  ⟨style.start, rendering.text.length, style.tag.style⟩

/-- Starts the style of a tag. -/
def startStyle (rendering : Rendering) (tag : StyleTag) : Except MarkupFault Rendering :=
  (tagStyleName tag.name).map fun name =>
    { rendering with
      openStyles := ⟨{ tag with name }, rendering.text.length⟩ :: rendering.openStyles }

/-- The open style that an ending tag of the given name ends, and the others; without a name it is the
innermost one. -/
def takeEnded (rendering : Rendering) (name : Text) :
    Except MarkupFault (OpenStyle × List OpenStyle) :=
  if name.isEmpty then
    match rendering.openStyles with
    | [] => .error .nothingToEnd
    | style :: outer => .ok (style, outer)
  else
    match tagStyleName name with
    | .error fault => .error fault
    | .ok name =>
      match takeStyle? name rendering.openStyles with
      | none => .error .nothingToEnd
      | some taken => .ok taken

/-- Ends the style that an ending tag of the given name ends. -/
def endStyle (rendering : Rendering) (name : Text) : Except MarkupFault Rendering :=
  match rendering.takeEnded name with
  | .error fault => .error fault
  | .ok (style, others) =>
    if style.tag.isForHandler then
      if (style.tag.parameters.getD []).isEmpty || isHandler (style.tag.parameters.getD []) then
        .ok { rendering with openStyles := others }
      else .error .badHandler
    else .ok { rendering with openStyles := others, parts := rendering.partOf style :: rendering.parts }

/-- Adds a segment. -/
def add (rendering : Rendering) : Segment → Except MarkupFault Rendering
  | .plain text => .ok { rendering with text := rendering.text ++ plainText text }
  | .style text =>
    let tag := StyleTag.parse text
    match tag.name with
    | '/' :: name => rendering.endStyle (Text.trim name)
    | _ => rendering.startStyle tag

/-- The parts of the whole line; styles that are still open end with it. -/
def allParts (rendering : Rendering) : List StyledPart :=
  rendering.openStyles.map rendering.partOf ++ rendering.parts

/-- The style of a part matters: there is something in the part, or nothing that parts the line. -/
def isShown (rendering : Rendering) (part : StyledPart) : Bool :=
  (Text.slice rendering.text part.start part.stop).any (· != '\n') ||
    !(rendering.text.contains '\t' || rendering.text.contains '\n')

/-- Every style that matters can be shown; what is not a style shows nothing. -/
def hasGoodStyles (rendering : Rendering) : Bool :=
  (rendering.allParts.filter rendering.isShown).all fun part =>
    match Style.read part.style with
    | .error .noNumber => false
    | _ => true

end Rendering

/-! ## What is shown -/

/-- What the console shows of a written line. -/
def consoleText (line : Text) : Except MarkupFault Text :=
  match (segments line).foldlM Rendering.add .empty with
  | .error fault => .error fault
  | .ok rendering =>
    if rendering.hasGoodStyles then .ok (expandTabs rendering.text) else .error .noNumber

end GlassPrompt
