import GlassPrompt.Console.Constant
import GlassPrompt.Text.Blank
import GlassPrompt.Text.Word

/-!
# Handlers

A style whose name starts with `@` hands its parameters to a handler.  They are the name of the handler
with or without arguments in round brackets, or a constant on its own.

* `isHandler` — parameters that a handler takes.
-/

namespace GlassPrompt

/-- The text is in round brackets, and on one line. -/
def isBracketed (text : Text) : Bool :=
  text.head? == some '(' && text.getLast? == some ')' && !text.contains '\n'

/-- A handler takes the parameters: its arguments are constants. -/
def isHandler (parameters : Text) : Bool :=
  let text := Text.trim parameters
  let arguments := text.dropWhile fun c => isWord c || c == '.'
  arguments.isEmpty || isConstant (if isBracketed arguments then arguments else text)

end GlassPrompt
