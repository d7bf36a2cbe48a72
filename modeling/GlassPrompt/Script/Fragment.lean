import GlassPrompt.Markup.Region
import GlassPrompt.Text.Lines

/-!
# Laying out pieces of code

* `tidyCode` — a piece of code without blank lines at its ends and without a common margin.
* `invokeCode` — an expression that runs a piece of code and has the value it returns.
* `indentContinuation` — a text whose lines but the first are indented.
-/

namespace GlassPrompt

/-- The lines without the blank ones at the two ends. -/
def trimLines (lines : List Text) : List Text :=
  ((lines.dropWhile Text.isBlankText).reverse.dropWhile Text.isBlankText).reverse

/-- A piece of code without blank lines at its ends and without a common margin. -/
def tidyCode (source : Text) : Text :=
  Text.unlines (Text.dedentLines (trimLines (Text.lines source)))

/-- What follows the word `function` at the head of a text. -/
def skipFunctionWord? (text : Text) : Option Text :=
  if text.takeWhile isWord = "function".toList then some (text.dropWhile isWord) else none

/-- What follows `function`, or `async` and `function`, at the head of a text. -/
def skipFunctionStart? (code : Text) : Option Text :=
  let word := code.takeWhile isWord
  let rest := code.dropWhile isWord
  if word = "async".toList ∧ rest.head?.any isBlank then skipFunctionWord? (Text.trimStart rest)
  else skipFunctionWord? code

/-- The code is one function declaration: its body, from the first brace on, ends where the code
ends. -/
def isFunctionDeclaration (code : Text) : Bool :=
  match skipFunctionStart? code with
  | none => false
  | some head =>
    let body := head.dropWhile (· != '\x7b')
    !body.isEmpty && braceLength? .code 0 body == some body.length

/-- An expression that has the value that a piece of code returns: a function is called as it is, and
anything else becomes the body of a function that is called. -/
def invokeCode (source : Text) : Text :=
  let code := tidyCode source
  if isFunctionDeclaration code then '(' :: code ++ ")()".toList
  else "(() => \x7b\n".toList ++ Text.indent [' ', ' '] code ++ "\n\x7d)()".toList

/-- The text with `margin` before every line that is not empty, the first one apart. -/
def indentContinuation (margin text : Text) : Text :=
  match Text.lines text with
  | [] => []
  | first :: rest =>
    Text.unlines (first :: rest.map fun line => if line.isEmpty then line else margin ++ line)

end GlassPrompt
