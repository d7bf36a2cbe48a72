import GlassPrompt.Script.Module
import GlassPrompt.Settings
import GlassPrompt.Workspace.FileText
import GlassPrompt.Workspace.Tree

/-!
# Compiling files

* `Workspace` — a file tree and what the environment says.
* `CompileFailure` — why a prompt file is not compiled.
* `Workspace.compileFile` — compiles one prompt file.
* `FileTree.writeModule` — writes a generated module.
* `Workspace.compileFolder` — compiles all prompts below a folder into one module.
-/

namespace GlassPrompt

/-! ## One file -/

/-- The width that generated lines are kept to. -/
def standardWidth : Int :=
  100

/-- A file tree and what the environment says. -/
structure Workspace where
  tree : FileTree
  environment : Environment

/-- What can be wrong with a prompt file. -/
inductive FileProblem where
  | file (error : FileError)
  | frontmatter (error : FrontmatterError)
  deriving DecidableEq, Repr

/-- The text of the problem. -/
def FileProblem.text : FileProblem → Text
  | .file error => error.text
  | .frontmatter error => error.text

/-- Why a prompt file is not compiled. -/
inductive CompileFailure where
  /-- The settings are not valid. -/
  | settings (faults : List OptionFault)
  /-- The file does not hold valid text. -/
  | undecodable
  /-- The path holds a null character, so it is none. -/
  | notAPath
  /-- The file cannot be read, or its frontmatter is broken. -/
  | inFile (path : Path) (problem : FileProblem)
  deriving DecidableEq, Repr

/-- The text of a problem with the file at a path. -/
def inFileText (path : Path) (problem : FileProblem) : Text :=
  fileErrorText ("Could not transpile ".toList ++ path.name) (some path.text) (some problem.text)

/-- A compiled prompt file: its function, with the settings and the document that it comes from. -/
structure CompiledFile where
  settings : Settings
  document : Document
  deriving Repr

namespace CompiledFile

/-- How the document is compiled. -/
def options (file : CompiledFile) : CompileOptions where
  fileName := file.settings.fileName
  typed := file.settings.isTyped
  share := file.settings.deduplicate
  printWidth := standardWidth

/-- The function of the prompt. -/
def function (file : CompiledFile) : PromptFunction :=
  file.document.compile file.options

end CompiledFile

namespace Workspace

/-- Compiles the prompt file at a path.  The settings are checked before the file is read. -/
def compileFile (workspace : Workspace) (path : Path) (overrides : Settings.Overrides) :
    Except CompileFailure CompiledFile :=
  match Settings.forPath workspace.environment path overrides with
  | .error faults => .error (.settings faults)
  | .ok settings =>
    match workspace.tree.read path with
    | .error ⟨.notAPath, _⟩ => .error .notAPath
    | .error error => .error (.inFile path (.file error))
    | .ok content =>
      match fileText? content with
      | none => .error .undecodable
      | some text =>
        match Document.parse text with
        | .error error => .error (.inFile path (.frontmatter error))
        | .ok document => .ok ⟨settings, document⟩

/-- Compiles the prompt files at paths, up to the first failure. -/
def compileFiles (workspace : Workspace) (overrides : Settings.Overrides) :
    List Path → Except CompileFailure (List CompiledFile)
  | [] => .ok []
  | path :: rest =>
    match workspace.compileFile path overrides with
    | .error failure => .error failure
    | .ok file => (workspace.compileFiles overrides rest).map (file :: ·)

/-- The prompt files below a folder. -/
def promptFiles (workspace : Workspace) (folder : Path) : Except FileError (List Path) :=
  workspace.tree.named promptExtension folder

end Workspace

/-! ## A whole folder -/

/-- The name of the generated module in a language. -/
def moduleFileName (language : Text) : Text :=
  if language = typedLanguage then "glass.ts".toList else "glass.js".toList

/-- Writes a module into a folder, which is made if it is missing. -/
def FileTree.writeModule (tree : FileTree) (folder : Path) (language content : Text) :
    FileTree × Except FileError Path :=
  match tree.makeFolders folder with
  | (tree, some error) => (tree, .error error)
  | (tree, none) =>
    let path := folder.append [moduleFileName language]
    match tree.write path (encodeText content) with
    | .error error => (tree, .error error)
    | .ok tree => (tree, .ok path)

/-- What a caller may say about compiling a folder. -/
structure FolderOptions where
  output : Option Text
  language : Option Text
  runtime : Option Text
  deduplicate : OptionValue
  deriving DecidableEq, Repr

/-- Why a folder is not compiled. -/
inductive FolderFailure where
  | compile (failure : CompileFailure)
  | file (error : FileError)
  deriving DecidableEq, Repr

/-- A module that has been written. -/
structure FolderResult where
  path : Path
  content : Text
  functions : List PromptFunction
  deriving Repr

namespace Workspace

/-- Compiles all prompts below a folder. -/
def compilePrompts (workspace : Workspace) (overrides : Settings.Overrides) (folder : Path) :
    Except FolderFailure (List CompiledFile) :=
  match workspace.promptFiles folder with
  | .error error => .error (.file error)
  | .ok paths => (workspace.compileFiles overrides paths).mapError .compile

/-- Compiles all prompts below a folder and writes their module. -/
def compileFolder (workspace : Workspace) (folder : Path) (options : FolderOptions) :
    FileTree × Except FolderFailure FolderResult :=
  let overrides : Settings.Overrides :=
    ⟨some folder.text, options.language, none, options.deduplicate⟩
  match workspace.compilePrompts overrides folder with
  | .error failure => (workspace.tree, .error failure)
  | .ok files =>
    let functions := files.map CompiledFile.function
    let said (text : Option Text) := text.filter (!·.isEmpty)
    let output := (said options.output).getD workspace.environment.defaultOutput
    let language := (said options.language).getD workspace.environment.defaultLanguage
    let content := moduleText options.runtime functions
    match workspace.tree.writeModule (.parse output) language content with
    | (tree, .error error) => (tree, .error (.file error))
    | (tree, .ok path) => (tree, .ok ⟨path, content, functions⟩)

end Workspace

end GlassPrompt
