import GlassPrompt.Proofs.Command.ReportLines
import GlassPrompt.Proofs.Workspace.Paths

/-!
# Compiling a folder, by a call and by a run

A folder can be compiled by a call or by a run of the command line.  The two make up the settings of a
prompt in different ways, but its function comes out the same, and so do the files.  A run reports the
issues of a prompt before it looks at the next one, though.  If the console does not understand a line
with the name of a prompt in it, the run breaks off where the call goes on.

* `ModulePlan.yields_iff`, `ModulePlan.yields_congr` — plans that differ in their settings.
* `folderArguments`, `folderRequest`, `folderOptions` — the run and the call, with `read_folderArguments`.
* `folderPlan_eq` — the plan of the call is that of the run, up to its settings.
* `folderRun_sameFiles` — the files after both, and whether they fail.
-/

namespace GlassPrompt

/-! ## Settings that yield the same functions -/

/-- The settings of a prompt in a known language. -/
lemma forPath_of_known {environment : Environment} {path : Path} {folder : Option Text}
    {language : Text} {deduplicate : Bool} (known : languages.contains language = true) :
    Settings.forPath environment path ⟨folder, some language, none, .flag deduplicate⟩ = .ok
      { workspaceFolder := ((folder.filter (!·.isEmpty)).map fun folder =>
          (Path.parse folder).text).getD path.parent.text
        folderPath := path.parent.text
        fileName := path.stem
        language := language
        outputDirectory := environment.defaultOutput
        deduplicate := deduplicate } := by
  have member : language ∈ languages := List.contains_iff_mem.1 known
  rcases List.mem_pair.1 member with rfl | rfl
  · rfl
  · rfl

/-- The function of a prompt does not depend on the folder that the caller works in. -/
lemma map_function_compileFile {workspace : Workspace} {path : Path} {language : Text}
    {deduplicate : Bool} (known : languages.contains language = true) (folder other : Option Text) :
    (workspace.compileFile path ⟨folder, some language, none, .flag deduplicate⟩).map
        CompiledFile.function =
      (workspace.compileFile path ⟨other, some language, none, .flag deduplicate⟩).map
        CompiledFile.function := by
  unfold Workspace.compileFile
  rw [forPath_of_known known, forPath_of_known known]
  dsimp only
  cases workspace.tree.read path with
  | error error =>
    obtain ⟨fault, place⟩ := error
    cases fault <;> rfl
  | ok content =>
    dsimp only
    cases fileText? content with
    | none => rfl
    | some text =>
      dsimp only
      cases Document.parse text with
      | error error => rfl
      | ok document => rfl

namespace ModulePlan

variable {plan : ModulePlan} {workspace : Workspace} {functions : List PromptFunction}

lemma yields_iff : plan.Yields workspace functions ↔ ∃ paths, plan.prompts = .ok paths ∧
    List.Forall₂ (fun path function =>
      (workspace.compileFile path plan.overrides).map CompiledFile.function = .ok function)
      paths functions := by
  have each (path : Path) (function : PromptFunction) :
      (workspace.compileFile path plan.overrides).map CompiledFile.function = .ok function ↔
        ∃ file, workspace.compileFile path plan.overrides = .ok file ∧ function = file.function := by
    cases workspace.compileFile path plan.overrides <;> simp [Except.map, eq_comm]
  simp only [each, forall₂_exists_map]
  constructor
  · rintro ⟨paths, files, ⟨found, all⟩, rfl⟩
    exact ⟨paths, found, files, all, rfl⟩
  · rintro ⟨paths, found, files, all, rfl⟩
    exact ⟨paths, files, ⟨found, all⟩, rfl⟩

/-- All prompts are compiled, or the plan fails. -/
lemma fails_iff : plan.Fails workspace ↔ ∀ functions, ¬ plan.Yields workspace functions := by
  constructor
  · intro fails functions yields
    exact yields.not_fails fails
  · intro none
    rcases fails_or_yields plan workspace with fails | ⟨functions, yields⟩
    · exact fails
    · exact absurd yields (none functions)

/-- Settings count only as far as functions depend on them. -/
lemma yields_congr {overrides : Settings.Overrides}
    (same : ∀ path, (workspace.compileFile path overrides).map CompiledFile.function =
      (workspace.compileFile path plan.overrides).map CompiledFile.function) :
    ({ plan with overrides } : ModulePlan).Yields workspace functions ↔
      plan.Yields workspace functions := by
  simp only [yields_iff, same]

end ModulePlan

/-! ## A run and a call for a folder -/

/-- The arguments of a run that compiles a folder, behind the name of the command. -/
def folderArguments (folder output language : Text) (runtime : Option Text) (deduplicate : Bool) :
    List Text :=
  folder :: "-o".toList :: output :: "--language".toList :: language ::
    (runtime.toList.flatMap (fun text => ["--runtime-module".toList, text]) ++
      if deduplicate then ["--deduplicate".toList] else [])

/-- The run that compiles a folder. -/
def folderRequest (folder output : Path) (language : Text) (runtime : Option Text)
    (deduplicate : Bool) : TranspileRequest :=
  ⟨[folder], some output, language, runtime, false, deduplicate⟩

/-- The call that compiles a folder. -/
def folderOptions (output : Path) (language : Text) (runtime : Option Text) (deduplicate : Bool) :
    FolderOptions :=
  ⟨some output.text, some language, runtime, .flag deduplicate⟩

/-! ### The arguments -/

section

variable {forms : List OptionForm} {word : Text}

lemma readArguments?_word (isWord : word.head? ≠ some '-') (rest : List Text) :
    readArguments? forms true none (word :: rest) =
      (readArguments? forms true none rest).map fun read =>
        { read with words := word :: read.words } := by
  have noEnd : word ≠ "--".toList := by
    rintro rfl
    exact isWord rfl
  have noOption : ¬ (word.head? = some '-' ∧ word.length ≠ 1) := fun option => isWord option.1
  rw [readArguments?]
  simp only [noEnd, noOption, if_false, if_true]

lemma readArguments?_option {read : ReadOptions} (isOption : word.head? = some '-' ∧ word.length ≠ 1)
    (noEnd : word ≠ "--".toList) (reads : readOption? forms word = some read) (rest : List Text) :
    readArguments? forms true none (word :: rest) =
      (readArguments? forms true read.awaited rest).map fun more =>
        { more with options := read.options ++ more.options } := by
  rw [readArguments?]
  simp only [noEnd, if_false, isOption, ne_eq, not_false_eq_true, and_self, if_true, reads]

/-- An option with a value takes the next argument, whatever that looks like. -/
lemma readArguments?_value {key : OptionKey} (isOption : word.head? = some '-' ∧ word.length ≠ 1)
    (noEnd : word ≠ "--".toList) (reads : readOption? forms word = some ⟨[], some key⟩) (value : Text)
    (rest : List Text) :
    readArguments? forms true none (word :: value :: rest) =
      (readArguments? forms true none rest).map fun more =>
        { more with options := ⟨key, some value⟩ :: more.options } := by
  rw [readArguments?_option isOption noEnd reads, readArguments?]
  simp [Function.comp_def]

end

/-- The options of a run that compiles a folder. -/
def folderGiven (output language : Text) (runtime : Option Text) (deduplicate : Bool) :
    List GivenOption :=
  ⟨.output, some output⟩ :: ⟨.language, some language⟩ ::
    (runtime.toList.map (fun text => ⟨.runtime, some text⟩) ++
      if deduplicate then [⟨.deduplicate, none⟩] else [])

section

variable {folder : Text} (output language : Text) (runtime : Option Text) (deduplicate : Bool)

lemma readArguments?_folder (isWord : folder.head? ≠ some '-') :
    readArguments? transpileOptions true none
        (folderArguments folder output language runtime deduplicate) =
      some ⟨folderGiven output language runtime deduplicate, [folder]⟩ := by
  have flag : readArguments? transpileOptions true none
      (if deduplicate then ["--deduplicate".toList] else []) =
        some ⟨if deduplicate then [⟨.deduplicate, none⟩] else [], []⟩ := by
    cases deduplicate <;> decide
  have said : readArguments? transpileOptions true none
      (runtime.toList.flatMap (fun text => ["--runtime-module".toList, text]) ++
        if deduplicate then ["--deduplicate".toList] else []) =
      some ⟨runtime.toList.map (fun text => ⟨.runtime, some text⟩) ++
        if deduplicate then [⟨.deduplicate, none⟩] else [], []⟩ := by
    cases runtime with
    | none => exact flag
    | some text =>
      have shape (rest : List Text) :
          (some text).toList.flatMap (fun text => ["--runtime-module".toList, text]) ++ rest =
            "--runtime-module".toList :: text :: rest := rfl
      rw [shape, @readArguments?_value transpileOptions "--runtime-module".toList .runtime
        (by decide) (by decide) (by decide), flag]
      rfl
  rw [folderArguments, readArguments?_word isWord,
    @readArguments?_value transpileOptions "-o".toList .output (by decide) (by decide)
      (by decide),
    @readArguments?_value transpileOptions "--language".toList .language (by decide)
      (by decide) (by decide), said]
  rfl

lemma given_folder :
    let arguments : Arguments := ⟨folderGiven output language runtime deduplicate, [folder]⟩
    arguments.value? .output = some output ∧ arguments.value? .language = some language ∧
      arguments.value? .runtime = runtime ∧ arguments.count .stdout = 0 ∧
      (arguments.count .deduplicate != 0) = deduplicate := by
  cases runtime <;> cases deduplicate <;> exact ⟨rfl, rfl, rfl, rfl, rfl⟩

/-- The arguments stand for the run, if the folder does not look like an option. -/
theorem read_folderArguments (isWord : folder.head? ≠ some '-') (noNull : '\x00' ∉ folder)
    (noNullOutput : '\x00' ∉ output) (preset : Text) :
    Invocation.read preset
        ("transpile".toList :: folderArguments folder output language runtime deduplicate) =
      .ok ⟨0, .transpile
        (folderRequest (.parse folder) (.parse output) language runtime deduplicate)⟩ := by
  have command : readArguments? programOptions false none ("transpile".toList ::
      folderArguments folder output language runtime deduplicate) =
        some ⟨[], "transpile".toList :: folderArguments folder output language runtime deduplicate⟩ := by
    generalize folderArguments folder output language runtime deduplicate = rest
    rfl
  have request : TranspileRequest.read preset
      (folderArguments folder output language runtime deduplicate) =
        .ok (folderRequest (.parse folder) (.parse output) language runtime deduplicate) := by
    obtain ⟨givenOutput, givenLanguage, givenRuntime, noStdout, flag⟩ :=
      @given_folder folder output language runtime deduplicate
    have path {word : Text} (free : '\x00' ∉ word) : readPath word = .ok (.parse word) := by
      rw [readPath, if_neg (by simpa using free)]
    have paths : readPaths [folder] = .ok [.parse folder] := by
      rw [readPaths, List.mapM_cons, path noNull]
      rfl
    rw [TranspileRequest.read, readArguments?_folder output language runtime deduplicate isWord]
    dsimp only
    rw [givenOutput, givenLanguage, givenRuntime, noStdout, flag, readPath?, path noNullOutput, paths]
    rfl
  rw [Invocation.read, command]
  dsimp only
  rw [Command.read, if_pos rfl, request]
  rfl

end

/-! ### The plans -/

section

variable {workspace : Workspace} {folder output : Path} {paths : List Path} {language : Text}
  {runtime : Option Text} {deduplicate : Bool}

/-- A folder with prompts is a folder. -/
lemma promptsAt_of_found (found : workspace.promptFiles folder = .ok paths) (nonempty : paths ≠ []) :
    workspace.promptsAt folder = .ok paths := by
  have isFolder : workspace.tree.checkFolder folder = .ok true := by
    unfold Workspace.promptFiles FileTree.named at found
    split at found
    · exact nomatch found
    · assumption
    · exact absurd (Except.ok.inj found).symm nonempty
  rw [Workspace.promptsAt, isFolder]
  exact found

variable (found : workspace.promptFiles folder = .ok paths) (nonempty : paths ≠ [])
  (known : languages.contains language = true)
include found nonempty known

omit known in
lemma prompts_folderRequest :
    (workspace.requestPlan (folderRequest folder output language runtime deduplicate)).prompts =
      .ok paths := by
  simp only [Workspace.requestPlan, folderRequest, List.mapM_cons, List.mapM_nil,
    promptsAt_of_found found nonempty]
  exact congrArg Except.ok (List.append_nil paths)

/-- **The call asks for what the run asks for**, up to the folder that the caller works in. -/
lemma folderPlan_eq (read : output.IsRead) :
    workspace.folderPlan folder (folderOptions output language runtime deduplicate) =
      { workspace.requestPlan (folderRequest folder output language runtime deduplicate) with
        overrides := ⟨some folder.text, some language, none, .flag deduplicate⟩ } := by
  have saidOutput : (some output.text).filter (!·.isEmpty) = some output.text := by
    rw [Option.filter, Path.isEmpty_text read]
    rfl
  have saidLanguage : (some language).filter (!·.isEmpty) = some language := by
    have member : language ∈ languages := List.contains_iff_mem.1 known
    rcases List.mem_pair.1 member with rfl | rfl <;> rfl
  unfold Workspace.folderPlan folderOptions
  dsimp only
  rw [prompts_folderRequest found nonempty, found, saidOutput, saidLanguage, Option.getD_some,
    Path.parse_text read]
  rfl

lemma folder_yields_iff (read : output.IsRead) {functions : List PromptFunction} :
    (workspace.folderPlan folder (folderOptions output language runtime deduplicate)).Yields workspace
        functions ↔
      (workspace.requestPlan (folderRequest folder output language runtime deduplicate)).Yields
        workspace functions := by
  rw [folderPlan_eq found nonempty known read]
  exact ModulePlan.yields_congr fun path => map_function_compileFile known _ _

lemma folder_fails_iff (read : output.IsRead) :
    (workspace.folderPlan folder (folderOptions output language runtime deduplicate)).Fails workspace ↔
      (workspace.requestPlan (folderRequest folder output language runtime deduplicate)).Fails
        workspace := by
  simp only [ModulePlan.fails_iff, folder_yields_iff found nonempty known read]

lemma folder_write_eq (read : output.IsRead) (functions : List PromptFunction) :
    (workspace.folderPlan folder (folderOptions output language runtime deduplicate)).write
        workspace.tree functions =
      (workspace.requestPlan (folderRequest folder output language runtime deduplicate)).write
        workspace.tree functions := by
  rw [folderPlan_eq found nonempty known read]
  rfl

end

/-! ### The files after the run and after the call -/

section

variable {workspace : Workspace}

/-- A call fails with a prompt exactly if its plan fails. -/
lemma compileFolder_failure_iff {folder : Path} {options : FolderOptions} {paths : List Path}
    (found : workspace.promptFiles folder = .ok paths) :
    (∃ failure, (workspace.compileFolder folder options).2 = .error (.compile failure)) ↔
      (workspace.folderPlan folder options).Fails workspace := by
  cases compiled : workspace.compileFiles (workspace.folderPlan folder options).overrides paths with
  | error failure =>
    obtain ⟨path, member, failed⟩ := exists_failure_of_compileFiles compiled
    simp only [Workspace.folderPlan] at compiled
    refine ⟨fun _ => .inr ⟨paths, path, failure, found, member, failed⟩, fun _ => ⟨failure, ?_⟩⟩
    simp [Workspace.compileFolder, Workspace.compilePrompts, found, compiled, Except.mapError]
  | ok files =>
    have yields := ModulePlan.yields_of_compileFiles found compiled
    refine ⟨?_, fun fails => absurd fails yields.not_fails⟩
    rintro ⟨failure, failed⟩
    rw [compileFolder_of_yields yields] at failed
    dsimp only at failed
    split at failed <;> simp at failed

/-- A run in which all prompts can be compiled stops only at an issue that cannot be reported. -/
lemma exists_unreportable {verbosity : Nat} {request : TranspileRequest} {stop : Stop}
    {paths : List Path} {functions : List PromptFunction}
    (known : languages.contains request.language = true)
    (found : (workspace.requestPlan request).prompts = .ok paths) (nonempty : paths ≠ [])
    (yields : (workspace.requestPlan request).Yields workspace functions)
    (stopped : (workspace.compilePaths verbosity request).outcome = .error stop) :
    ∃ path ∈ paths, '[' ∈ path.name ∧ ∃ file, workspace.compileFile path
      (workspace.requestPlan request).overrides = .ok file ∧ ¬ file.Reportable path := by
  obtain ⟨others, files, ⟨again, each⟩, rfl⟩ := yields
  obtain rfl := Except.ok.inj (found.symm.trans again)
  by_contra reportable
  push Not at reportable
  have members := (List.forall₂_and_left _ _).2 ⟨fun path (member : path ∈ paths) => member, each⟩
  have all := members.imp fun path file ⟨member, compiled⟩ => by
    have reported : file.Reportable path := by
      by_cases bracket : '[' ∈ path.name
      · exact reportable path member bracket file compiled
      · exact reportable_of_not_mem compiled bracket
    exact And.intro compiled reported
  have compiled : (workspace.compilePaths verbosity request).outcome = .ok _ :=
    outcome_compilePaths_eq_ok.2 ⟨known, paths, files, found, nonempty, all, rfl⟩
  exact nomatch stopped.symm.trans compiled

end

section

variable {workspace : Workspace} {paths : List Path} {language : Text}

variable {folder : Text} (found : workspace.promptFiles (.parse folder) = .ok paths)
  (nonempty : paths ≠ []) (known : languages.contains language = true)
include found nonempty known

/-- **A run and a call compile a folder to the same files**, and they both fail with a prompt or neither
does; or else the run breaks off at a prompt with an opening square bracket in its name, where the
console does not understand the line of an issue.  Then nothing is written, but the call goes on. -/
theorem folderRun_sameFiles (output : Text) (runtime : Option Text) (deduplicate : Bool) :
    let request := folderRequest (.parse folder) (.parse output) language runtime deduplicate
    let called := workspace.compileFolder (.parse folder)
      (folderOptions (.parse output) language runtime deduplicate)
    (folder.head? ≠ some '-' → '\x00' ∉ folder → '\x00' ∉ output → ∀ preset,
      workspace.runArguments preset
          ("transpile".toList :: folderArguments folder output language runtime deduplicate) =
        workspace.run ⟨0, .transpile request⟩) ∧
    ∀ verbosity,
      let run := workspace.run ⟨verbosity, .transpile request⟩
      (run.tree = called.1 ∧
        ((∃ stop, (workspace.compilePaths verbosity request).outcome = .error stop ∧
            run.ended = some stop) ↔
          ∃ failure, called.2 = .error (.compile failure))) ∨
      (run.tree = workspace.tree ∧ (¬ ∃ failure, called.2 = .error (.compile failure)) ∧
        ∃ path ∈ paths, '[' ∈ path.name ∧ ∃ file, workspace.compileFile path
          (workspace.requestPlan request).overrides = .ok file ∧ ¬ file.Reportable path) := by
  intro request called
  have read := Path.isRead_parse output
  have sameFailure := @folder_fails_iff workspace (.parse folder) (.parse output) paths language
    runtime deduplicate found nonempty known read
  have failure : (∃ failure, called.2 = .error (.compile failure)) ↔
      (workspace.requestPlan request).Fails workspace :=
    (compileFolder_failure_iff found).trans sameFailure
  rw [failure]
  constructor
  · intro isWord noNull noNullOutput preset
    rw [Workspace.runArguments,
      read_folderArguments output language runtime deduplicate isWord noNull noNullOutput preset]
  intro verbosity run
  cases compiled : (workspace.compilePaths verbosity request).outcome with
  | ok functions =>
    have yields := yields_of_compilePaths compiled
    have written : run.tree = ((workspace.requestPlan request).write workspace.tree functions).1 :=
      (transpile_of_compiled compiled).1
    refine .inl ⟨?_, by simp, fun fails => absurd fails yields.not_fails⟩
    have alike := (folder_yields_iff found nonempty known read).2 yields
    rw [written, show called = _ from compileFolder_of_yields alike,
      folder_write_eq found nonempty known read]
  | error stop =>
    obtain ⟨unchanged, ended⟩ := transpile_of_stop compiled
    rcases fails_or_yields (workspace.requestPlan request) workspace with fails | ⟨functions, yields⟩
    · obtain ⟨_, same⟩ := compileFolder_of_fails (sameFailure.2 fails)
      refine .inl ⟨?_, fun _ => fails, fun _ => ⟨stop, rfl, ended⟩⟩
      rw [show called = _ from same]
      exact unchanged
    · exact .inr ⟨unchanged, yields.not_fails, exists_unreportable known
        (prompts_folderRequest found nonempty) nonempty yields compiled⟩

end

/-- A folder with one prompt, in which a tag closes nothing. -/
def strayClosing (name : Text) : Workspace :=
  ⟨⟨[([['p']], .folder), ([['p'], name], .file (encodeText "</User>".toList))]⟩, .silent⟩

/-- The arguments `p -o out --language javascript --deduplicate` and the call make the same module. -/
theorem folderRun_sameFiles_strayClosing :
    let arguments := folderArguments ['p'] "out".toList "javascript".toList none true
    let called := (strayClosing "a.glass".toList).compileFolder (.parse ['p'])
      (folderOptions (.parse "out".toList) "javascript".toList none true)
    ((strayClosing "a.glass".toList).runArguments "typescript".toList
        ("transpile".toList :: arguments)).tree = called.1 ∧
      (called.1.at? (.parse "out/glass.js".toList)).isSome = true := by
  intro arguments called
  have found : (strayClosing "a.glass".toList).promptFiles (.parse ['p']) =
      .ok [⟨[], [['p'], "a.glass".toList]⟩] := by
    decide +kernel
  have known : languages.contains "javascript".toList = true := by decide +kernel
  obtain ⟨read, alike⟩ := folderRun_sameFiles found (by decide) known "out".toList none true
  refine ⟨?_, by decide +kernel⟩
  rw [read (by decide) (by decide) (by decide +kernel)]
  rcases alike 0 with ⟨same, -⟩ | ⟨-, -, path, member, bracket, -⟩
  · exact same
  · obtain rfl := List.mem_singleton.1 member
    exact absurd bracket (by decide +kernel)

/-- The name of a prompt that asks for a colour without numbers. -/
def rgbName : Text :=
  "[rgb(,,)].glass".toList

/-- The line that reports a closing tag in a prompt of that name. -/
lemma consoleText_rgbName : consoleText (warningLine ⟨[], [['p'], rgbName]⟩
    ⟨.unopened "User".toList, ⟨0, 7⟩⟩) = .error .noNumber := by
  have line : warningLine ⟨[], [['p'], rgbName]⟩ ⟨.unopened "User".toList, ⟨0, 7⟩⟩ =
      styled "yellow" "warning".toList ++
        (' ' :: rgbName ++ ": </User> has no matching <User> tag".toList) := by
    decide +kernel
  rw [line]
  refine @consoleText_rgb _ [' '] [.plain ".glass: </User> has no matching <User> tag".toList] ?_
  decide +kernel

/-- In a prompt named `[rgb(,,)].glass` a tag closes nothing.  The run breaks off where it is to report
that, and the call writes the module. -/
theorem not_sameFiles_rgbName : ¬ ∀ (workspace : Workspace) (folder output language : Text)
    (runtime : Option Text) (deduplicate : Bool) (paths : List Path),
    workspace.promptFiles (.parse folder) = .ok paths → paths ≠ [] →
      languages.contains language = true →
      (workspace.runArguments "typescript".toList
          ("transpile".toList :: folderArguments folder output language runtime deduplicate)).tree =
        (workspace.compileFolder (.parse folder)
          (folderOptions (.parse output) language runtime deduplicate)).1 := by
  intro same
  have found : (strayClosing rgbName).promptFiles (.parse ['p']) = .ok [⟨[], [['p'], rgbName]⟩] := by
    decide +kernel
  have known : languages.contains "typescript".toList = true := by decide +kernel
  have equal := same _ ['p'] "out".toList _ none false _ found (by decide) known
  have unchanged : ((strayClosing rgbName).runArguments "typescript".toList ("transpile".toList ::
      folderArguments ['p'] "out".toList "typescript".toList none false)).tree =
        (strayClosing rgbName).tree := by
    rw [Workspace.runArguments, read_folderArguments "out".toList "typescript".toList none false
      (by decide) (by decide) (by decide +kernel)]
    cases compiled : ((strayClosing rgbName).compilePaths 0 (folderRequest (.parse ['p'])
        (.parse "out".toList) "typescript".toList none false)).outcome with
    | error stop => exact (transpile_of_stop compiled).1
    | ok functions =>
      obtain ⟨-, paths, files, asked, -, each, -⟩ := outcome_compilePaths_eq_ok.1 compiled
      rw [prompts_folderRequest found (by decide)] at asked
      obtain rfl := Except.ok.inj asked
      obtain ⟨file, _, ⟨here, reportable⟩, -, -⟩ := List.forall₂_cons_left_iff.1 each
      have issues : ((strayClosing rgbName).compileFile ⟨[], [['p'], rgbName]⟩
          ⟨none, some "typescript".toList, none, .flag false⟩).map (·.function.issues) =
            .ok [⟨.unopened "User".toList, ⟨0, 7⟩⟩] := by
        decide +kernel
      replace here : (strayClosing rgbName).compileFile ⟨[], [['p'], rgbName]⟩
          ⟨none, some "typescript".toList, none, .flag false⟩ = .ok file := here
      rw [here] at issues
      obtain ⟨text, shown⟩ := reportable ⟨.unopened "User".toList, ⟨0, 7⟩⟩
        (List.mem_of_mem_head? (congrArg List.head? (Except.ok.inj issues)))
      exact nomatch consoleText_rgbName.symm.trans shown
  have written : (((strayClosing rgbName).compileFolder (.parse ['p'])
      (folderOptions (.parse "out".toList) "typescript".toList none false)).1.at?
        (.parse "out/glass.ts".toList)).isSome = true := by
    decide +kernel
  have missing : ((strayClosing rgbName).tree.at? (.parse "out/glass.ts".toList)).isSome = false := by
    decide +kernel
  rw [← equal, unchanged, missing] at written
  exact nomatch written

end GlassPrompt
