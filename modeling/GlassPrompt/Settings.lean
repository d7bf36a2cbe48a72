import GlassPrompt.Workspace.Path

/-!
# Settings of a compilation

Settings come from the caller as named options, and from the environment where the caller gives none.

* `Environment` — the settings that the environment may change.
* `OptionName`, `OptionValue`, `OptionFault` — what a caller passes, and what can be wrong with it.
* `Settings` — checked settings.
* `Settings.ofOptions` — checks named options; all faults are found, not only the first.
* `Settings.forPath` — the settings for a prompt file.
-/

namespace GlassPrompt

/-! ## The environment -/

/-- What the environment says about compiling. -/
structure Environment where
  language : Option Text
  outputDirectory : Option Text
  deriving DecidableEq, Repr

namespace Environment

/-- An environment that says nothing. -/
def silent : Environment :=
  ⟨none, none⟩

/-- An environment can hold the value: it has no null character. -/
def canHold (value : Text) : Bool :=
  !value.contains '\x00'

/-- The language that is taken if the caller names none. -/
def defaultLanguage (environment : Environment) : Text :=
  environment.language.getD "typescript".toList

/-- The output folder that is taken if the caller names none. -/
def defaultOutput (environment : Environment) : Text :=
  environment.outputDirectory.getD "src".toList

end Environment

/-! ## Options and settings -/

/-- The value of an option as the caller passes it. -/
inductive OptionValue where
  | text (value : Text)
  | flag (value : Bool)
  | number (value : Int)
  /-- Nothing, or a compound value. -/
  | other
  deriving DecidableEq, Repr

/-- What can be wrong with an option, given by its name. -/
inductive OptionFault where
  | missing (name : Text)
  | notText (name : Text)
  | notALanguage (name : Text)
  | notABoolean (name : Text)
  /-- A text or a number that stands for no truth value. -/
  | unreadableBoolean (name : Text)
  | unknown (name : Text)
  deriving DecidableEq, Repr

/-- Checked settings. -/
structure Settings where
  workspaceFolder : Text
  folderPath : Text
  fileName : Text
  language : Text
  outputDirectory : Text
  deduplicate : Bool
  deriving DecidableEq, Repr

/-- The language of typed output. -/
def typedLanguage : Text :=
  "typescript".toList

/-- The languages that prompts are compiled to. -/
def languages : List Text :=
  [typedLanguage, "javascript".toList]

/-- The settings ask for types. -/
def Settings.isTyped (settings : Settings) : Bool :=
  settings.language == typedLanguage

/-- The names of an option: the usual one, and one with underscores. -/
structure OptionName where
  name : Text
  alternative : Text
  deriving DecidableEq, Repr

namespace OptionName

/-- The folder that the caller works in. -/
def workspaceFolder : OptionName := ⟨"workspaceFolder".toList, "workspace_folder".toList⟩

/-- The folder of the prompt. -/
def folderPath : OptionName := ⟨"folderPath".toList, "folder_path".toList⟩

/-- The name that the function is named after; the only option that has to be passed. -/
def fileName : OptionName := ⟨"fileName".toList, "file_name".toList⟩

/-- The language of the output. -/
def language : OptionName := ⟨"language".toList, "language".toList⟩

/-- The folder of the output. -/
def outputDirectory : OptionName := ⟨"outputDirectory".toList, "output_directory".toList⟩

/-- Whether equal occurrences share a slot. -/
def deduplicate : OptionName := ⟨"deduplicate".toList, "deduplicate".toList⟩

/-- The options, in the order in which they are checked. -/
def all : List OptionName :=
  [workspaceFolder, folderPath, fileName, language, outputDirectory, deduplicate]

end OptionName

/-- Options as the caller passes them. -/
abbrev Options := List (Text × OptionValue)

/-- The name under which an option is passed; the usual name comes first. -/
def OptionName.passedAs? (option : OptionName) (options : Options) : Option Text :=
  if (options.lookup option.name).isSome then some option.name
  else if (options.lookup option.alternative).isSome then some option.alternative
  else none

/-- The value of an option. -/
def OptionName.value? (option : OptionName) (options : Options) : Option OptionValue :=
  (options.lookup option.name).or (options.lookup option.alternative)

/-! ## Checking one option -/

/-- The texts that stand for truth values, in lower case. -/
def booleanWords : List (Text × Bool) :=
  [("0".toList, false), ("off".toList, false), ("f".toList, false), ("false".toList, false),
    ("n".toList, false), ("no".toList, false), ("1".toList, true), ("on".toList, true),
    ("t".toList, true), ("true".toList, true), ("y".toList, true), ("yes".toList, true)]

/-- The text of an option that has to be one; `default` stands for an option that is not passed. -/
def checkText (option : OptionName) (default : Option Text) (options : Options) :
    Except OptionFault Text :=
  match option.value? options, default with
  | some (.text text), _ => .ok text
  | some _, _ => .error (.notText option.name)
  | none, some text => .ok text
  | none, none => .error (.missing option.name)

/-- The language that an option names; a language that comes from the environment is taken as it is. -/
def checkLanguage (option : OptionName) (default : Text) (options : Options) :
    Except OptionFault Text :=
  match option.value? options with
  | none => .ok default
  | some (.text text) =>
    if languages.contains text then .ok text else .error (.notALanguage option.name)
  | some _ => .error (.notALanguage option.name)

/-- The truth value that an option stands for. -/
def checkBoolean (option : OptionName) (options : Options) : Except OptionFault Bool :=
  match option.value? options with
  | none => .ok false
  | some (.flag value) => .ok value
  | some (.number value) =>
    if value = 0 then .ok false else if value = 1 then .ok true
    else .error (.unreadableBoolean option.name)
  | some (.text text) =>
    match booleanWords.lookup (text.map Char.toLower) with
    | some value => .ok value
    | none => .error (.unreadableBoolean option.name)
  | some .other => .error (.notABoolean option.name)

/-! ## Checking all options -/

/-- The fault of a check that failed. -/
def faultOf {α : Type} : Except OptionFault α → List OptionFault
  | .ok _ => []
  | .error fault => [fault]

namespace Settings

/-- The names of options that are no settings, or that are passed under both names. -/
def unknownOptions (options : Options) : List OptionFault :=
  let known := OptionName.all.filterMap (·.passedAs? options)
  (options.filter fun (name, _) => !known.contains name).map fun (name, _) => .unknown name

/-- Checks options: the settings, or all faults in the order of the options. -/
def ofOptions (environment : Environment) (options : Options) :
    Except (List OptionFault) Settings :=
  let here : Text := ['.']
  let workspaceFolder := checkText .workspaceFolder (some here) options
  let folderPath := checkText .folderPath (some here) options
  let fileName := checkText .fileName none options
  let language := checkLanguage .language environment.defaultLanguage options
  let outputDirectory := checkText .outputDirectory (some environment.defaultOutput) options
  let deduplicate := checkBoolean .deduplicate options
  match workspaceFolder, folderPath, fileName, language, outputDirectory, deduplicate,
      unknownOptions options with
  | .ok workspaceFolder, .ok folderPath, .ok fileName, .ok language, .ok outputDirectory,
      .ok deduplicate, [] =>
    .ok { workspaceFolder, folderPath, fileName, language, outputDirectory, deduplicate }
  | _, _, _, _, _, _, unknown =>
    .error (faultOf workspaceFolder ++ faultOf folderPath ++ faultOf fileName ++ faultOf language ++
      faultOf outputDirectory ++ faultOf deduplicate ++ unknown)

/-- What a caller may say about a prompt file. -/
structure Overrides where
  workspaceFolder : Option Text
  language : Option Text
  outputDirectory : Option Text
  deduplicate : OptionValue
  deriving DecidableEq, Repr

/-- The settings for a prompt file: the folder and the name come from its path.  An empty text says
nothing. -/
def forPath (environment : Environment) (path : Path) (overrides : Overrides) :
    Except (List OptionFault) Settings :=
  let said (text : Option Text) := text.filter (!·.isEmpty)
  let parent := path.parent.text
  let workspace := ((said overrides.workspaceFolder).map fun folder => (Path.parse folder).text).getD
    parent
  ofOptions environment <|
    [(OptionName.workspaceFolder.name, .text workspace), (OptionName.folderPath.name, .text parent),
      (OptionName.fileName.name, .text path.stem),
      (OptionName.deduplicate.name, overrides.deduplicate)] ++
    (said overrides.language).toList.map (fun text => (OptionName.language.name, .text text)) ++
    (said overrides.outputDirectory).toList.map fun text =>
      (OptionName.outputDirectory.name, .text text)

end Settings

end GlassPrompt
