import GlassPrompt.Script.Fragment
import GlassPrompt.Script.Literal
import GlassPrompt.Template.Reference

/-!
# Loops of the generated script

A loop becomes a call that joins one template literal for every item.

* `loopBody` — blocks as they are written inside a template literal.
* `loopCall` — the call for a loop.
-/

namespace GlassPrompt

/-- An expression inside a template literal. -/
def substitution (expression : Text) : Text :=
  '$' :: '\x7b' :: expression ++ ['\x7d']

/-- What a loop runs over: nothing at all if there is no expression, and an expression that is no
plain reference in parentheses. -/
def iterable (each : Text) : Text :=
  if Text.isBlankText each then ['[', ']']
  else if (referenceRoot? each).isSome then each
  else '(' :: each ++ [')']

/-- The call that joins `body` for every `item` of `each`. -/
def loopCall (each item body : Text) : Text :=
  iterable each ++ ".map((".toList ++ (if item.isEmpty then ['_'] else item) ++ ") => `".toList ++
    body ++ "`).join('')".toList

mutual

/-- A block as it is written inside a template literal. -/
def Block.inTemplate : Block → Text
  | .text text _ => templateLiteral text
  | .interpolation source _ => substitution source
  | .code source _ => substitution (invokeCode source)
  | .hoisted _ _ => []
  | .request _ _ _ => []
  | .role _ openTag closeTag children _ =>
    templateLiteral openTag ++ loopBody children ++ templateLiteral closeTag
  | .loop each item _ _ children _ => substitution (loopCall each item (loopBody children))

/-- Blocks as they are written inside a template literal. -/
def loopBody : List Block → Text
  | [] => []
  | block :: rest => block.inTemplate ++ loopBody rest

end

end GlassPrompt
