import GlassPrompt.Text.Basic

/-!
# Constructs that the document leaves open

* `LexicalFault` — the ways in which a construct can be unterminated, with their messages.
* `LexicalError` — a fault at a place; it runs from where the construct starts to the end of the
  document.
-/

namespace GlassPrompt

/-- What is left open; a tag is given by its name. -/
inductive LexicalFault where
  | region
  | comment
  | tag (name : Text)
  | attributeValue (tag : Text)
  | attributeExpression (tag : Text)
  deriving DecidableEq, Repr

/-- The message of a fault. -/
def LexicalFault.message : LexicalFault → Text
  | .region => "Unterminated '\x7b' region".toList
  | .comment => "Unterminated comment".toList
  | .tag name => "Unterminated <".toList ++ name ++ "> tag".toList
  | .attributeValue name => "Unterminated attribute value in <".toList ++ name ++ "> tag".toList
  | .attributeExpression name =>
    "Unterminated attribute expression in <".toList ++ name ++ "> tag".toList

/-- A construct that starts at `start` and is still open where the document ends. -/
structure LexicalError where
  fault : LexicalFault
  start : Nat
  stop : Nat
  deriving DecidableEq, Repr

end GlassPrompt
