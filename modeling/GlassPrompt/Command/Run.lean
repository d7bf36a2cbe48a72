import GlassPrompt.Command.Arguments
import GlassPrompt.Command.Log
import GlassPrompt.Command.Transcript
import GlassPrompt.Editor.Folding
import GlassPrompt.Workspace.Compile

/-!
# Running commands

* `Workspace.compilePaths` — compiles prompts and reports what is wrong with them.
* `Workspace.checkPaths` — prints the diagnostics of prompts.
* `Workspace.foldPath` — prints the folding ranges of a prompt.
* `Outcome`, `Workspace.run` — a whole run: the file tree after it, what it printed and its exit code.
-/

namespace GlassPrompt

/-- A text in a console style. -/
def styled (style : String) (text : Text) : Text :=
  '[' :: style.toList ++ [']'] ++ text ++ "[/".toList ++ style.toList ++ [']']

namespace Workspace

/-! ## Compiling -/

/-- The prompt files at a path: those below a folder, and another path as it is. -/
def promptsAt (workspace : Workspace) (path : Path) : Except FileError (List Path) :=
  match workspace.tree.checkFolder path with
  | .error error => .error error
  | .ok true => workspace.promptFiles path
  | .ok false => .ok [path]

/-- The prompt files at paths. -/
def collect (workspace : Workspace) (paths : List Path) : Transcript (List Path) :=
  match paths.mapM workspace.promptsAt with
  | .error error => Transcript.stop (.crash (.file error.fault))
  | .ok files => Transcript.pure files.flatten

/-- Compiles the prompt at a path and reports its issues. -/
def compilePath (workspace : Workspace) (verbosity : Nat) (language : Text) (deduplicate : Bool)
    (path : Path) : Transcript PromptFunction := do
  if (workspace.tree.at? path).isNone then
    Transcript.printLine .error
      (styled "red" ("Error: ".toList ++ path.text ++ " not found".toList))
    Transcript.stop (.exit 1)
  match workspace.compileFile path ⟨none, some language, none, .flag deduplicate⟩ with
  | .error (.inFile path problem) =>
    Transcript.printLine .error (styled "red" ['✗'] ++ [' '] ++ inFileText path problem)
    Transcript.stop (.exit 1)
  | .error .undecodable => Transcript.stop (.crash .undecodable)
  | .error .notAPath => Transcript.stop (.crash (.file .notAPath))
  | .error (.settings _) => Transcript.stop (.crash .badSettings)
  | .ok file =>
    Transcript.print .error
      (logText verbosity (file.document.parseLog ++ file.document.compileLog file.options))
    let _ ← Transcript.forEach (fun issue => Transcript.printLine .error
      (styled "yellow" "warning".toList ++ [' '] ++ path.name ++ ": ".toList ++
        issue.problem.message)) file.function.issues
    return file.function

/-- Compiles the prompts at paths. -/
def compilePaths (workspace : Workspace) (verbosity : Nat) (request : TranspileRequest) :
    Transcript (List PromptFunction) := do
  if !languages.contains request.language then
    Transcript.printLine .error
      (styled "red" ("Error: unknown language ".toList ++ request.language))
    Transcript.stop (.exit 1)
  let files ← workspace.collect request.paths
  if files.isEmpty then
    Transcript.printLine .error (styled "yellow" "No .glass files found".toList)
    Transcript.stop (.exit 1)
  Transcript.forEach
    (workspace.compilePath verbosity request.language request.deduplicate) files

/-! ## Diagnostics and folding ranges -/

/-- The text of the file at a path. -/
def readText (workspace : Workspace) (path : Path) : Transcript Text :=
  match workspace.tree.read path with
  | .error error => Transcript.stop (.crash (.file error.fault))
  | .ok content =>
    match fileText? content with
    | none => Transcript.stop (.crash .undecodable)
    | some text => Transcript.pure text

/-- The style of a severity. -/
def severityStyle : Severity → String
  | .error => "red"
  | .warning => "yellow"

/-- The line of a diagnostic; lines and characters are shown from one on. -/
def diagnosticLine (path : Path) (diagnostic : Diagnostic) : Text :=
  path.text ++ [':'] ++ Text.ofNat (diagnostic.range.start.line + 1) ++ [':'] ++
    Text.ofNat (diagnostic.range.start.character + 1) ++ ": ".toList ++
    styled (severityStyle diagnostic.severity) diagnostic.severity.name ++ [' '] ++
    diagnostic.message

/-- Prints the diagnostics of the prompt at a path; the value tells whether one is an error. -/
def checkPath (workspace : Workspace) (verbosity : Nat) (path : Path) : Transcript Bool := do
  let text ← workspace.readText path
  let found := diagnostics text
  Transcript.print .error (logText verbosity (diagnosticsLog text))
  if found.isEmpty then
    Transcript.printLine .output (styled "green" ['✓'] ++ [' '] ++ path.text)
  else
    let _ ← Transcript.forEach (fun d => Transcript.printLine .output (diagnosticLine path d)) found
  return found.any (·.severity == .error)

/-- Prints the diagnostics of prompts; the exit code tells whether one is an error. -/
def checkPaths (workspace : Workspace) (verbosity : Nat) (paths : List Path) : Transcript Unit := do
  let files ← workspace.collect paths
  let failed ← Transcript.forEach (workspace.checkPath verbosity) files
  if failed.any id then Transcript.stop (.exit 1)

/-- The lines of a folding range as an object. -/
def foldingRangeText (range : FoldingRange) : Text :=
  "  \x7b\n    \"start_line\": ".toList ++ Text.ofNat range.startLine ++
    ",\n    \"end_line\": ".toList ++ Text.ofNat range.endLine ++ "\n  \x7d".toList

/-- Folding ranges as a list of objects. -/
def foldingRangesText (ranges : List FoldingRange) : Text :=
  if ranges.isEmpty then "[]\n".toList
  else "[\n".toList ++ ",\n".toList.intercalate (ranges.map foldingRangeText) ++ "\n]\n".toList

/-- Prints the folding ranges of the prompt at a path. -/
def foldPath (workspace : Workspace) (verbosity : Nat) (path : Path) : Transcript Unit := do
  let text ← workspace.readText path
  Transcript.print .error (logText verbosity (foldingLog text))
  Transcript.print .output (foldingRangesText (foldingRanges text))

end Workspace

/-! ## A whole run -/

/-- A whole run: the file tree after it, what it printed, and how it ended. -/
structure Outcome where
  tree : FileTree
  printed : List Printed
  ended : Option Stop

namespace Outcome

/-- The outcome of a transcript that leaves the files alone. -/
def ofTranscript {α : Type} (tree : FileTree) (transcript : Transcript α) : Outcome where
  tree := tree
  printed := transcript.printed
  ended := match transcript.outcome with
    | .ok _ => none
    | .error stop => some stop

/-- The exit code: zero if the run did not stop early, and one at a failure that is not handled. -/
def exitCode (outcome : Outcome) : Nat :=
  match outcome.ended with
  | none => 0
  | some (.exit code) => code
  | some (.crash _) => 1

end Outcome

namespace Workspace

/-- The line that reports a written module. -/
def wroteLine (count : Nat) (path : Path) : Text :=
  styled "green" ['✓'] ++ " Wrote ".toList ++ Text.ofNat count ++ " functions to ".toList ++
    styled "cyan" path.text

/-- Writes the module of compiled prompts, or prints it. -/
def deliver (workspace : Workspace) (request : TranspileRequest) (functions : List PromptFunction) :
    FileTree × Transcript Unit :=
  let content := moduleText request.runtime functions
  if request.toConsole then (workspace.tree, Transcript.print .output content)
  else
    let folder := request.output.getD (.parse workspace.environment.defaultOutput)
    match workspace.tree.writeModule folder request.language content with
    | (tree, .error error) => (tree, Transcript.stop (.crash (.file error.fault)))
    | (tree, .ok path) => (tree, Transcript.printLine .error (wroteLine functions.length path))

/-- Compiles prompts into one module. -/
def transpile (workspace : Workspace) (verbosity : Nat) (request : TranspileRequest) : Outcome :=
  let compiled := workspace.compilePaths verbosity request
  match compiled.outcome with
  | .error stop => ⟨workspace.tree, compiled.printed, some stop⟩
  | .ok functions =>
    let (tree, delivered) := workspace.deliver request functions
    .ofTranscript tree (compiled.bind fun _ => delivered)

/-- Runs an invocation. -/
def run (workspace : Workspace) (invocation : Invocation) : Outcome :=
  match invocation.command with
  | .transpile request => workspace.transpile invocation.verbosity request
  | .check paths => .ofTranscript workspace.tree (workspace.checkPaths invocation.verbosity paths)
  | .fold path => .ofTranscript workspace.tree (workspace.foldPath invocation.verbosity path)

/-- The exit code of arguments that are not understood. -/
def usageExitCode : Nat :=
  2

/-- Runs the command that arguments stand for; `language` is the language without an option. -/
def runArguments (workspace : Workspace) (language : Text) (arguments : List Text) : Outcome :=
  match Invocation.read language arguments with
  | .error .usage => ⟨workspace.tree, [], some (.exit usageExitCode)⟩
  | .error .notAPath => ⟨workspace.tree, [], some (.crash (.file .notAPath))⟩
  | .ok invocation => workspace.run invocation

end Workspace

end GlassPrompt
