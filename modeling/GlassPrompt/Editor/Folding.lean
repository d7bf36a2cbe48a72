import GlassPrompt.Editor.Position
import GlassPrompt.Markup.Pairing
import GlassPrompt.Markup.Token

/-!
# Folding

Every pair of an opening and a closing tag can be folded.

* `foldablePairs` — the pairs of a document, in the order of their opening tags.
* `foldingRanges` — the lines that they span.
-/

namespace GlassPrompt

/-- The pairs of tags of a document. -/
def foldablePairs (text : Text) : List TagPair :=
  (Pairing.ofTags (tagsOf text)).pairs

/-- The lines from the start of an opening tag to the start of its closing tag. -/
structure FoldingRange where
  startLine : Nat
  endLine : Nat
  deriving DecidableEq, Repr

/-- The folding range of a pair. -/
def foldingRange (text : Text) (pair : TagPair) : FoldingRange where
  startLine := (Position.ofOffset text pair.opening.start).line
  endLine := (Position.ofOffset text pair.closing.start).line

/-- The folding ranges of a document. -/
def foldingRanges (text : Text) : List FoldingRange :=
  (foldablePairs text).map (foldingRange text)

end GlassPrompt
