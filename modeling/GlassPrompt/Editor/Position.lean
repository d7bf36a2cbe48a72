import GlassPrompt.Text.Basic

/-!
# Positions in a text

An editor counts lines from zero, and characters in a line from zero.

* `Position`, `Range` — places for an editor.
* `Position.ofOffset` — the position of an offset; an offset outside the text counts as its nearest
  end.
-/

namespace GlassPrompt

/-- A line and a character in it. -/
structure Position where
  line : Nat
  character : Nat
  deriving DecidableEq, Repr

/-- A range of positions. -/
structure Range where
  start : Position
  stop : Position
  deriving DecidableEq, Repr

/-- The offset inside a text of the given length that is nearest to an integer. -/
def clampOffset (length : Nat) (offset : Int) : Nat :=
  min offset.toNat length

/-- The position behind a text. -/
def Position.after (text : Text) : Position where
  line := text.count '\n'
  character := (text.reverse.takeWhile (· != '\n')).length

/-- The position of an offset. -/
def Position.ofOffset (text : Text) (offset : Int) : Position :=
  .after (text.take (clampOffset text.length offset))

/-- The range between two offsets. -/
def Range.ofOffsets (text : Text) (start stop : Nat) : Range :=
  ⟨.ofOffset text start, .ofOffset text stop⟩

end GlassPrompt
