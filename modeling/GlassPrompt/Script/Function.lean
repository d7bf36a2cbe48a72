import GlassPrompt.Script.Loop
import GlassPrompt.Template.Index

/-!
# The function of a prompt

A prompt becomes a function that takes its arguments, evaluates every slot of the template and hands
both to the runtime.

* `promptName`, `exportedName` — the names of the function.
* `signature`, `mapping`, `templateLine` — pieces of its text.
* `PromptFunction` — a compiled prompt.
* `CompileOptions`, `Document.compile` — compiling a document.
-/

namespace GlassPrompt

/-! ## Names -/

/-- The ending of the files that hold prompts. -/
def promptExtension : Text :=
  ".glass".toList

/-- The ASCII letters and digits. -/
def isNamePart (c : Char) : Bool :=
  c.isAlphanum

/-- A word with its first letter in upper case. -/
def capitalise : Text → Text
  | [] => []
  | c :: rest => c.toUpper :: rest

/-- The words of a name joined, each with its first letter in upper case. -/
def pascalCase (name : Text) : Text :=
  (name.splitOnP (!isNamePart ·)).flatMap capitalise

/-- A text without the given ending, if it has it. -/
def dropEnding (ending text : Text) : Text :=
  if ending.isSuffixOf text then text.take (text.length - ending.length) else text

/-- The name of a prompt in the exported object: `get` and the words of its file name. -/
def promptName (fileName : Text) : Text :=
  let stem := dropEnding promptExtension fileName
  "get".toList ++ pascalCase (("get-".toList.isPrefixOf? stem).getD stem)

/-- The name of the function of a prompt. -/
def exportedName (fileName : Text) : Text :=
  promptName fileName ++ "Prompt".toList

/-! ## Pieces of the text -/

/-- Texts joined by a comma and a blank. -/
def commaList (texts : List Text) : Text :=
  [',', ' '].intercalate texts

/-- The first line of a function, or its first lines if one line would be wider than `width`. -/
def signature (width : Int) (typed : Bool) (name : Text) (arguments : List Declaration) : Text :=
  let head := "export function ".toList ++ name
  if arguments.isEmpty then head ++ "() \x7b".toList
  else if !typed then head ++ "(args) \x7b".toList
  else
    let fields := arguments.map fun argument => argument.name ++ ": ".toList ++ argument.type
    let line := head ++ "(args: \x7b ".toList ++ commaList fields ++ " \x7d) \x7b".toList
    if (line.length : Int) ≤ width then line
    else head ++ "(args: \x7b\n".toList ++
      fields.flatMap (fun field => "  ".toList ++ field ++ ",\n".toList) ++ "\x7d) \x7b".toList

/-- An object literal with numbers as keys. -/
def mapping (entries : List (Int × Text)) : Text :=
  if entries.isEmpty then "\x7b\x7d".toList
  else "\x7b\n".toList ++
    entries.flatMap (fun (index, value) => "    ".toList ++ Text.ofInt index ++ ": ".toList ++
      indentContinuation "    ".toList value ++ ",\n".toList) ++ "  \x7d".toList

/-- The line that holds the template, broken if it would be wider than `width`. -/
def templateLine (width : Int) (template : Text) : Text :=
  let line := "  const TEMPLATE = ".toList ++ quoted template
  if (line.length : Int) ≤ width then line
  else "  const TEMPLATE =\n    ".toList ++ quoted template

/-- The value of an entry. -/
def Entry.value (entry : Entry) : Text :=
  match entry.occurrence with
  | .interpolation source => source
  | .code source => invokeCode source
  | .loop each item body => loopCall each item (loopBody body)

/-- Entries as the mapping that is written for them. -/
def entryMapping (entries : List Entry) : Text :=
  mapping (entries.map fun entry => (↑entry.index, entry.value))

/-- The lines of hoisted code in a function; code without content has none. -/
def hoistedLines (source : Text) : List Text :=
  let code := tidyCode source
  if code.isEmpty then [] else Text.lines (Text.indent [' ', ' '] code)

/-- The function of the runtime that a prompt calls. -/
def entryPoint (isChat : Bool) : Text :=
  if isChat then "interpolateGlassChat".toList else "interpolateGlass".toList

/-- Lines, each with its newline. -/
def linesText (lines : List Text) : Text :=
  lines.flatMap (· ++ ['\n'])

/-- Import statements on lines of their own, with an empty line after them if there are any. -/
def importBlock (imports : List Text) : Text :=
  linesText imports ++ if imports.isEmpty then [] else ['\n']

/-! ## Compiling a document -/

/-- How prompts are compiled. -/
structure CompileOptions where
  /-- The name that the function is named after. -/
  fileName : Text
  /-- Arguments are written with their types. -/
  typed : Bool
  /-- Equal occurrences share a slot. -/
  share : Bool
  /-- The width that lines are kept to. -/
  printWidth : Int
  deriving DecidableEq, Repr

/-- A compiled prompt. -/
structure PromptFunction where
  /-- The function with the import statements that it needs. -/
  code : Text
  /-- The function alone. -/
  functionCode : Text
  exportName : Text
  functionName : Text
  arguments : List Declaration
  imports : List Text
  isChat : Bool
  request : Option RequestSettings
  issues : List Issue
  deriving Repr

namespace Document

/-- The import statements that a document needs, each once. -/
def importLines (document : Document) : List Text :=
  (document.imports.map ImportStatement.render).eraseDups

/-- The text of the function of a document. -/
def functionText (document : Document) (options : CompileOptions) : Text :=
  let arguments := document.arguments
  let template := Template.ofBlocks options.share document.blocks
  signature options.printWidth options.typed (exportedName options.fileName) arguments ++ ['\n'] ++
    (if arguments.isEmpty then []
      else "  const \x7b ".toList ++ commaList (arguments.map Declaration.name) ++
        " \x7d = args\n".toList) ++
    linesText (document.hoisted.flatMap hoistedLines) ++
    "  const interpolations = ".toList ++ entryMapping template.interpolations ++
    "\n  const kshots = ".toList ++ entryMapping template.loops ++ ['\n'] ++
    templateLine options.printWidth template.text ++
    "\n  return ".toList ++ entryPoint document.isChat ++ ['('] ++ quoted options.fileName ++
    ", TEMPLATE, \x7b ...interpolations, ...kshots \x7d)\n\x7d".toList

/-- Compiles a document. -/
def compile (document : Document) (options : CompileOptions) : PromptFunction where
  code := importBlock document.importLines ++ document.functionText options
  functionCode := document.functionText options
  exportName := exportedName options.fileName
  functionName := promptName options.fileName
  arguments := document.arguments
  imports := document.importLines
  isChat := document.isChat
  request := document.request?
  issues := document.allIssues

end Document

end GlassPrompt
