import GlassPrompt.Text.Basic

/-!
# Literals of the generated script

* `stringLiteral` — a text as a string literal on one line; `preferredQuote` chooses its quote.
* `templateLiteral` — a text as it is written inside a template literal.
-/

namespace GlassPrompt

/-- A character inside a string literal that ends at `quote`. -/
def literalChar (quote c : Char) : Text :=
  if c = '\\' then ['\\', '\\']
  else if c = quote then ['\\', quote]
  else if c = '\n' then ['\\', 'n']
  else if c = '\r' then ['\\', 'r']
  else if c = '\t' then ['\\', 't']
  else if c = '\u2028' then "\\u2028".toList
  else if c = '\u2029' then "\\u2029".toList
  else [c]

/-- A text as a string literal in the given quotes. -/
def stringLiteral (quote : Char) (text : Text) : Text :=
  quote :: text.flatMap (literalChar quote) ++ [quote]

/-- Single quotes, unless the text holds more of them than of double quotes. -/
def preferredQuote (text : Text) : Char :=
  if text.count '"' < text.count '\'' then '"' else '\''

/-- A text as a string literal in the quotes that suit it. -/
def quoted (text : Text) : Text :=
  stringLiteral (preferredQuote text) text

/-- A character inside a template literal, a dollar sign before a brace apart. -/
def templateChar (c : Char) : Text :=
  if c = '\\' then ['\\', '\\']
  else if c = '`' then ['\\', '`']
  else if c = '\n' then ['\\', 'n']
  else if c = '\r' then ['\\', 'r']
  else [c]

/-- A text as it is written inside a template literal. -/
def templateLiteral : Text → Text
  | [] => []
  | '$' :: '\x7b' :: rest => '\\' :: '$' :: '\x7b' :: templateLiteral rest
  | c :: rest => templateChar c ++ templateLiteral rest

end GlassPrompt
