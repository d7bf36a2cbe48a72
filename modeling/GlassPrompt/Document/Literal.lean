import GlassPrompt.Text.Basic

/-!
# Literal text

In literal text a backslash before a brace makes the brace literal.

* `decodeBraces` — the text that is meant.
-/

namespace GlassPrompt

/-- Takes away each backslash that stands before a brace, reading from the left. -/
def decodeBraces : Text → Text
  | [] => []
  | '\\' :: '\x7b' :: rest => '\x7b' :: decodeBraces rest
  | '\\' :: '\x7d' :: rest => '\x7d' :: decodeBraces rest
  | c :: rest => c :: decodeBraces rest

end GlassPrompt
