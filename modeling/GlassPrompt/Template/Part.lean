import GlassPrompt.Document.Block

/-!
# The parts of a template

A template is literal text with slots in it.  Expressions, inline code and loops stand in slots; hoisted
code and request settings leave nothing behind.

* `Occurrence` — what stands in a slot.
* `Part` — literal text or a slot.
* `partsOf` — the parts of a list of blocks.
-/

namespace GlassPrompt

/-- What stands in a slot of a template. -/
inductive Occurrence where
  | interpolation (source : Text)
  | code (source : Text)
  /-- The blocks of `body` for every `item` of `each`. -/
  | loop (each item : Text) (body : List Block)
  deriving Repr

namespace Occurrence

/-- The source text; for a loop, the expression it runs over. -/
def source : Occurrence → Text
  | .interpolation source => source
  | .code source => source
  | .loop each _ _ => each

/-- The occurrence is a loop. -/
def isLoop : Occurrence → Bool
  | .loop .. => true
  | _ => false

end Occurrence

/-- A part of a template. -/
inductive Part where
  | literal (text : Text)
  | slot (occurrence : Occurrence)
  deriving Repr

mutual

/-- The parts of a block. -/
def Block.parts : Block → List Part
  | .text text _ => [.literal text]
  | .interpolation source _ => [.slot (.interpolation source)]
  | .code source _ => [.slot (.code source)]
  | .hoisted _ _ => []
  | .request _ _ _ => []
  | .role _ openTag closeTag children _ =>
    .literal openTag :: (partsOf children ++ [.literal closeTag])
  | .loop each item _ _ children _ => [.slot (.loop each item children)]

/-- The parts of a list of blocks, in order. -/
def partsOf : List Block → List Part
  | [] => []
  | block :: rest => block.parts ++ partsOf rest

end

end GlassPrompt
