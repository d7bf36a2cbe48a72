import GlassPrompt.Editor.Diagnostic
import GlassPrompt.Script.Function

/-!
# The log

Every step logs what it found.  The lines of a step follow from its result.

* `LogLevel`, `LogLine` — lines and their weight.
* `Document.parseLog`, `Document.compileLog` — the lines of reading and compiling a document.
* `diagnosticsLog`, `foldingLog` — the lines of the editor's steps.
* `logText` — the lines that a level of detail shows.
-/

namespace GlassPrompt

/-! ## Lines -/

/-- The weight of a line. -/
inductive LogLevel where
  | debug
  | info
  | warning
  deriving DecidableEq, Repr

/-- The written name of a level. -/
def LogLevel.name : LogLevel → Text
  | .debug => "DEBUG".toList
  | .info => "INFO".toList
  | .warning => "WARNING".toList

/-- The least verbosity at which a level is shown. -/
def LogLevel.verbosity : LogLevel → Nat
  | .warning => 0
  | .info => 1
  | .debug => 2

/-- A line of the log. -/
structure LogLine where
  level : LogLevel
  message : Text
  deriving DecidableEq, Repr

/-- The text of a line. -/
def LogLine.text (line : LogLine) : Text :=
  line.level.name ++ ": ".toList ++ line.message ++ ['\n']

/-- The text of the lines that are shown at a verbosity. -/
def logText (verbosity : Nat) (lines : List LogLine) : Text :=
  (lines.filter (·.level.verbosity ≤ verbosity)).flatMap LogLine.text

/-! ## The lines of each step -/

/-- The line of an issue. -/
def Issue.logLine (issue : Issue) : LogLine :=
  ⟨.warning, issue.problem.message ++ " (offset ".toList ++ Text.ofNat issue.span.start ++ [')']⟩

namespace Document

/-- The lines of reading a document. -/
def parseLog (document : Document) : List LogLine :=
  (if hasFrontmatter document.source then
    [⟨.debug, "Parsed frontmatter with ".toList ++ Text.ofNat document.declarations.length ++
      " variables".toList⟩] else []) ++
    document.issues.map Issue.logLine ++
    [⟨.debug, "Built ".toList ++ Text.ofNat document.blocks.length ++ " top-level blocks, ".toList ++
      Text.ofNat document.imports.length ++ " imports, ".toList ++
      Text.ofNat document.issues.length ++ " issues".toList⟩]

/-- The lines of compiling a document. -/
def compileLog (document : Document) (options : CompileOptions) : List LogLine :=
  let template := Template.ofBlocks options.share document.blocks
  [⟨.debug, "Indexed ".toList ++ Text.ofNat template.entries.length ++ " placeholders".toList⟩,
    ⟨.debug, options.fileName ++ ": ".toList ++ Text.ofNat document.arguments.length ++
      " args, ".toList ++ Text.ofNat template.interpolations.length ++ " interpolations, ".toList ++
      Text.ofNat template.loops.length ++ " loops, entry point ".toList ++
      entryPoint document.isChat⟩] ++
    document.undeclared.map Issue.logLine

end Document

/-- The line of scanning the tags of a document. -/
def scanLog (text : Text) : LogLine :=
  ⟨.debug, "Scanned ".toList ++ Text.ofNat (tagsOf text).length ++ " tags".toList⟩

/-- The lines of the diagnostics of a document; its tags are scanned for each of the two kinds of tags
that are reported. -/
def diagnosticsLog (text : Text) : List LogLine :=
  [scanLog text, scanLog text] ++
    (match Document.parse text with
      | .error _ => []
      | .ok document => document.parseLog ++ document.undeclared.map Issue.logLine) ++
    [⟨.debug, "Computed ".toList ++ Text.ofNat (diagnostics text).length ++ " diagnostics".toList⟩]

/-- The lines of the folding ranges of a document. -/
def foldingLog (text : Text) : List LogLine :=
  [scanLog text]

end GlassPrompt
