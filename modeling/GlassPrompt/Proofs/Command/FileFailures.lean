import GlassPrompt.Proofs.Command.FolderRuns

/-!
# Failures of a prompt file

A prompt file may be missing, a folder, or no text; its path may be none; and its frontmatter may be
broken.  A failure is reported with the path of the file and what has gone wrong, unless the file does
not hold valid text or the path has a null character: then it is passed on as it is, and a run breaks off
without a line that names the file.

* `Settings.Overrides.Valid`, `exists_forPath` — overrides that the settings allow.
* `FileTree.FailsAt`, `compileFile_eq_error_iff` — how a prompt file fails.
* `reportLine?`, `compilePath_of_failure` — what a run says about it.
* `FirstFailure`, `run_of_firstFailure` — a run up to its first prompt that fails.
* `fileFailures_reported` — which failures are reported with their file;
  `not_fileFailures_reported` is a file whose failure is not.
-/

namespace GlassPrompt

open Text

/-! ## Settings that are allowed -/

/-- The language is one that prompts are compiled to, or none is said; and equal occurrences share a slot
or do not. -/
structure Settings.Overrides.Valid (overrides : Settings.Overrides) : Prop where
  language : ∀ language ∈ overrides.language, language = [] ∨ language ∈ languages
  deduplicate : ∃ flag, overrides.deduplicate = .flag flag

lemma exists_forPath {overrides : Settings.Overrides} (valid : overrides.Valid)
    (environment : Environment) (path : Path) :
    ∃ settings, Settings.forPath environment path overrides = .ok settings := by
  obtain ⟨workspaceFolder, language, outputDirectory, deduplicate⟩ := overrides
  obtain ⟨known, flag, isFlag⟩ := valid
  obtain rfl : deduplicate = .flag flag := isFlag
  -- Empty texts say nothing, so only texts with a first character are options.
  rcases language with - | language
  · rcases outputDirectory with - | - | ⟨c, rest⟩ <;> exact ⟨_, rfl⟩
  · rcases known language rfl with rfl | member
    · rcases outputDirectory with - | - | ⟨c, rest⟩ <;> exact ⟨_, rfl⟩
    · rcases List.mem_pair.1 member with rfl | rfl <;>
        rcases outputDirectory with - | - | ⟨c, rest⟩ <;> exact ⟨_, rfl⟩

/-! ## How a prompt file fails -/

namespace FileTree

variable {tree : FileTree} {path : Path}

lemma locateFrom_isPath {here : Route} {parts : List Text} {fault : FileFault}
    (failed : tree.locateFrom here parts = .error fault) : fault ≠ .notAPath := by
  induction parts generalizing here with
  | nil => cases failed
  | cons part rest ih =>
    rw [locateFrom] at failed
    split at failed
    · obtain rfl := Except.error.inj failed
      exact FileFault.noConfusion
    · obtain rfl := Except.error.inj failed
      exact FileFault.noConfusion
    · split_ifs at failed
      · exact ih failed
      · obtain rfl := Except.error.inj failed
        exact FileFault.noConfusion
      · exact ih failed

/-- A path is none exactly if it has a null character. -/
lemma read_notAPath_iff :
    (∃ error, tree.read path = .error error ∧ error.fault = .notAPath) ↔ '\x00' ∈ path.text := by
  unfold read locate
  by_cases null : '\x00' ∈ path.text
  · rw [if_pos (List.contains_iff_mem.2 null)]
    exact iff_of_true ⟨_, rfl, rfl⟩ null
  · rw [if_neg (mt List.contains_iff_mem.1 null)]
    refine iff_of_false ?_ null
    rintro ⟨error, failed, isFault⟩
    split at failed
    · next fault located =>
      obtain rfl := Except.error.inj failed
      split at located
      · exact absurd isFault (Except.error.inj located ▸ nofun)
      · exact locateFrom_isPath located isFault
    · split at failed
      · exact absurd isFault (Except.error.inj failed ▸ nofun)
      · exact absurd isFault (Except.error.inj failed ▸ nofun)
      · exact nomatch failed

lemma at?_of_null (null : '\x00' ∈ path.text) : (tree.at? path).isNone = true := by
  unfold at? locate
  rw [if_pos (List.contains_iff_mem.2 null)]
  rfl

/-- What is wrong with the file at a path: it cannot be read, or its frontmatter is broken. -/
inductive HasProblem (tree : FileTree) (path : Path) : FileProblem → Prop
  | unread {error : FileError} (failed : tree.read path = .error error)
    (isPath : error.fault ≠ .notAPath) : HasProblem tree path (.file error)
  | frontmatter {content : ByteArray} {text : Text} {error : FrontmatterError}
    (read : tree.read path = .ok content) (decoded : fileText? content = some text)
    (broken : Document.parse text = .error error) : HasProblem tree path (.frontmatter error)

/-- How compiling the file at a path fails with settings that are allowed. -/
inductive FailsAt (tree : FileTree) (path : Path) : CompileFailure → Prop
  | inFile {problem : FileProblem} (isWrong : tree.HasProblem path problem) :
    FailsAt tree path (.inFile path problem)
  | undecodable {content : ByteArray} (read : tree.read path = .ok content)
    (invalid : decodeText? content = none) : FailsAt tree path .undecodable
  | notAPath (null : '\x00' ∈ path.text) : FailsAt tree path .notAPath

end FileTree

lemma fileText?_eq_none_iff {content : ByteArray} :
    fileText? content = none ↔ decodeText? content = none :=
  Option.map_eq_none_iff

section

variable {workspace : Workspace} {path : Path} {overrides : Settings.Overrides}
  (valid : overrides.Valid)

include valid

lemma compileFile_of_unread {error : FileError} (failed : workspace.tree.read path = .error error) :
    workspace.compileFile path overrides =
      if error.fault = .notAPath then .error .notAPath else .error (.inFile path (.file error)) := by
  obtain ⟨settings, allowed⟩ := exists_forPath valid workspace.environment path
  obtain ⟨fault, place⟩ := error
  unfold Workspace.compileFile
  rw [allowed, failed]
  cases fault <;> rfl

lemma compileFile_of_invalid {content : ByteArray} (read : workspace.tree.read path = .ok content)
    (invalid : fileText? content = none) :
    workspace.compileFile path overrides = .error .undecodable := by
  obtain ⟨settings, allowed⟩ := exists_forPath valid workspace.environment path
  simp only [Workspace.compileFile, allowed, read, invalid]

lemma compileFile_of_decoded {content : ByteArray} {text : Text}
    (read : workspace.tree.read path = .ok content) (decoded : fileText? content = some text) :
    ∃ settings, workspace.compileFile path overrides =
      ((Document.parse text).mapError fun error => .inFile path (.frontmatter error)).map
        fun document => ⟨settings, document⟩ := by
  obtain ⟨settings, allowed⟩ := exists_forPath valid workspace.environment path
  refine ⟨settings, ?_⟩
  simp only [Workspace.compileFile, allowed, read, decoded]
  cases Document.parse text <;> rfl

/-- **How a prompt file fails**: nothing else can be wrong with it. -/
theorem compileFile_eq_error_iff {failure : CompileFailure} :
    workspace.compileFile path overrides = .error failure ↔ workspace.tree.FailsAt path failure := by
  constructor
  · intro failed
    cases read : workspace.tree.read path with
    | error error =>
      rw [compileFile_of_unread valid read] at failed
      split at failed
      · next isNull =>
        obtain rfl := Except.error.inj failed
        exact .notAPath (FileTree.read_notAPath_iff.1 ⟨error, read, isNull⟩)
      · next isPath =>
        obtain rfl := Except.error.inj failed
        exact .inFile (.unread read isPath)
    | ok content =>
      cases decoded : fileText? content with
      | none =>
        rw [compileFile_of_invalid valid read decoded] at failed
        obtain rfl := Except.error.inj failed
        exact .undecodable read (fileText?_eq_none_iff.1 decoded)
      | some text =>
        obtain ⟨settings, compiled⟩ := compileFile_of_decoded valid read decoded
        rw [compiled] at failed
        cases broken : Document.parse text with
        | error error =>
          rw [broken] at failed
          obtain rfl := Except.error.inj failed
          exact .inFile (.frontmatter read decoded broken)
        | ok document =>
          rw [broken] at failed
          exact nomatch failed
  · intro fails
    cases fails with
    | inFile isWrong =>
      cases isWrong with
      | unread failed isPath => rw [compileFile_of_unread valid failed, if_neg isPath]
      | frontmatter read decoded broken =>
        obtain ⟨settings, compiled⟩ := compileFile_of_decoded valid read decoded
        rw [compiled, broken]
        rfl
    | undecodable read invalid =>
      exact compileFile_of_invalid valid read (fileText?_eq_none_iff.2 invalid)
    | notAPath null =>
      obtain ⟨error, failed, isNull⟩ := FileTree.read_notAPath_iff.2 null
      rw [compileFile_of_unread valid failed, if_pos isNull]

end

/-! ## Stops -/

/-- The exit code of a stop is one. -/
def Stop.IsFailure : Stop → Prop
  | .exit code => code = 1
  | .crash _ => True

namespace Transcript

variable {α β : Type}

/-- However the transcript stops, the exit code is one. -/
def StopsWithOne (transcript : Transcript α) : Prop :=
  ∀ how, transcript.outcome = .error how → how.IsFailure

lemma stopsWithOne_stop {how : Stop} (isFailure : how.IsFailure) :
    (stop how : Transcript α).StopsWithOne := by
  rintro _ ⟨⟩
  exact isFailure

lemma stopsWithOne_pure (value : α) : (Pure.pure value : Transcript α).StopsWithOne :=
  nofun

lemma stopsWithOne_print (channel : Channel) (text : Text) : (print channel text).StopsWithOne :=
  nofun

lemma stopsWithOne_bind {first : Transcript α} {next : α → Transcript β} (isFirst : first.StopsWithOne)
    (isNext : ∀ value, (next value).StopsWithOne) : (first >>= next).StopsWithOne := by
  intro how stopped
  show how.IsFailure
  change (Transcript.bind first next).outcome = .error how at stopped
  unfold Transcript.bind at stopped
  split at stopped
  · next early =>
    obtain rfl := Except.error.inj stopped
    exact isFirst _ early
  · next value _ => exact isNext value how stopped

lemma stopsWithOne_printLine (channel : Channel) (line : Text) :
    (printLine channel line).StopsWithOne := by
  unfold printLine
  split
  · exact stopsWithOne_stop trivial
  · exact stopsWithOne_print channel _

lemma stopsWithOne_forEach {step : α → Transcript β} (each : ∀ a, (step a).StopsWithOne)
    (list : List α) : (forEach step list).StopsWithOne := by
  induction list with
  | nil => exact stopsWithOne_pure []
  | cons a rest ih =>
    exact stopsWithOne_bind (each a) fun b => stopsWithOne_bind ih fun more => stopsWithOne_pure _

/-- Where a member of a list stops, the transcript over the list stops, having printed what those before
it print. -/
lemma forEach_of_stop {step : α → Transcript β} {before after : List α} {a : α} {values : List β}
    {how : Stop} (each : List.Forall₂ (fun a b => (step a).outcome = .ok b) before values)
    (stopped : (step a).outcome = .error how) :
    forEach step (before ++ a :: after) =
      ⟨before.flatMap (fun b => (step b).printed) ++ (step a).printed, .error how⟩ := by
  induction each with
  | nil =>
    rw [List.nil_append, forEach, bind, stopped]
    rfl
  | cons first _ ih =>
    rw [List.cons_append, forEach, bind, first]
    dsimp only
    rw [ih, bind, List.flatMap_cons, List.append_assoc]

end Transcript

/-! ## What a run says of a prompt -/

/-- The line that says that there is nothing at a path. -/
def missingLine (path : Path) : Text :=
  styled "red" ("Error: ".toList ++ path.text ++ " not found".toList)

/-- The line that says what is wrong with the file at a path. -/
def problemLine (path : Path) (problem : FileProblem) : Text :=
  styled "red" ['✗'] ++ [' '] ++ inFileText path problem

/-- Prints a line and stops. -/
def Transcript.stopWithLine {α : Type} (line : Text) : Transcript α :=
  Transcript.printLine .error line >>= fun _ => Transcript.stop (.exit 1)

/-- What a run does when a prompt is not compiled. -/
def CompileFailure.report : CompileFailure → Transcript PromptFunction
  | .inFile path problem => .stopWithLine (problemLine path problem)
  | .undecodable => .stop (.crash .undecodable)
  | .notAPath => .stop (.crash (.file .notAPath))
  | .settings _ => .stop (.crash .badSettings)

/-- What a run does when a prompt is compiled. -/
def CompiledFile.report (verbosity : Nat) (path : Path) (file : CompiledFile) :
    Transcript PromptFunction := do
  Transcript.print .error
    (logText verbosity (file.document.parseLog ++ file.document.compileLog file.options))
  let _ ← Transcript.forEach (fun issue => Transcript.printLine .error (warningLine path issue))
    file.function.issues
  return file.function

namespace Transcript

lemma stopsWithOne_stopWithLine {α : Type} (line : Text) :
    (stopWithLine line : Transcript α).StopsWithOne :=
  stopsWithOne_bind (stopsWithOne_printLine _ line) fun _ => stopsWithOne_stop rfl

/-- A line that the console understands is the last one. -/
lemma stopWithLine_of_understood {α : Type} {line text : Text} (understood : consoleText line = .ok text) :
    (stopWithLine line : Transcript α) = ⟨[⟨.error, text ++ ['\n']⟩], .error (.exit 1)⟩ := by
  show bind (printLine .error line) _ = _
  rw [printLine, understood]
  rfl

end Transcript

lemma CompileFailure.stopsWithOne_report (failure : CompileFailure) : failure.report.StopsWithOne := by
  cases failure with
  | inFile path problem => exact Transcript.stopsWithOne_stopWithLine _
  | undecodable | notAPath | settings => exact Transcript.stopsWithOne_stop trivial

lemma CompiledFile.stopsWithOne_report (verbosity : Nat) (path : Path) (file : CompiledFile) :
    (file.report verbosity path).StopsWithOne :=
  Transcript.stopsWithOne_bind (Transcript.stopsWithOne_print _ _) fun _ =>
    Transcript.stopsWithOne_bind
      (Transcript.stopsWithOne_forEach (fun _ => Transcript.stopsWithOne_printLine _ _) _)
      fun _ => Transcript.stopsWithOne_pure _

lemma path_infix_missingLine (path : Path) : path.text <:+: missingLine path := by
  have inMessage : path.text <:+: "Error: ".toList ++ path.text ++ " not found".toList :=
    List.infix_append _ _ _
  unfold missingLine styled
  rw [List.append_assoc, List.append_assoc]
  exact inMessage.trans (List.infix_append _ _ _)

lemma infix_of_middleLine (first second third : Text) : second <:+: unlines [first, second, third] := by
  rw [unlines_cons_cons, unlines_cons_cons, unlines_singleton]
  exact ⟨first ++ ['\n'], '\n' :: third, by simp⟩

lemma path_infix_problemLine (path : Path) (problem : FileProblem) :
    path.text <:+: problemLine path problem := by
  by_cases empty : path.text = []
  · rw [empty]
    exact List.nil_infix
  · have shown : (some path.text).filter (fun text => !text.isEmpty) = some path.text :=
      Option.filter_eq_some_iff.2 ⟨rfl, by rw [List.isEmpty_eq_false_iff.2 empty]; rfl⟩
    have inLine : path.text <:+: "  ".toList ++ fileDetail path.text :=
      ((List.suffix_append _ _).trans (List.suffix_append _ _)).isInfix
    have inText : path.text <:+: inFileText path problem := by
      rw [inFileText, fileErrorText, shown]
      exact inLine.trans (infix_of_middleLine _ _ _)
    exact inText.trans (List.suffix_append _ _).isInfix

namespace Workspace

variable {workspace : Workspace} {path : Path}

/-- **What a run does with a prompt**: it says that there is none, or why it is not compiled, or it
reports the issues of its function. -/
lemma compilePath_eq (verbosity : Nat) (language : Text) (deduplicate : Bool) (path : Path) :
    workspace.compilePath verbosity language deduplicate path =
      if (workspace.tree.at? path).isNone then .stopWithLine (missingLine path)
      else match workspace.compileFile path ⟨none, some language, none, .flag deduplicate⟩ with
        | .error failure => failure.report
        | .ok file => file.report verbosity path := by
  unfold compilePath
  dsimp only
  split
  · rfl
  · cases workspace.compileFile path ⟨none, some language, none, .flag deduplicate⟩ with
    | error failure => cases failure <;> rfl
    | ok file => rfl

lemma stopsWithOne_compilePath (verbosity : Nat) (language : Text) (deduplicate : Bool) (path : Path) :
    (workspace.compilePath verbosity language deduplicate path).StopsWithOne := by
  rw [compilePath_eq]
  split
  · exact Transcript.stopsWithOne_stopWithLine _
  · split
    · next failure _ => exact failure.stopsWithOne_report
    · next file _ => exact file.stopsWithOne_report verbosity path

lemma stopsWithOne_collect (paths : List Path) : (workspace.collect paths).StopsWithOne := by
  unfold collect
  split
  · exact Transcript.stopsWithOne_stop trivial
  · exact Transcript.stopsWithOne_pure _

/-- What a run does with the prompts that it finds. -/
def compileFound (workspace : Workspace) (verbosity : Nat) (request : TranspileRequest)
    (files : List Path) : Transcript (List PromptFunction) :=
  if files.isEmpty then .stopWithLine (styled "yellow" "No .glass files found".toList)
  else Transcript.forEach (workspace.compilePath verbosity request.language request.deduplicate) files

lemma compilePaths_eq (verbosity : Nat) (request : TranspileRequest) :
    workspace.compilePaths verbosity request =
      if languages.contains request.language then
        workspace.collect request.paths >>= workspace.compileFound verbosity request
      else .stopWithLine (styled "red" ("Error: unknown language ".toList ++ request.language)) := by
  unfold compilePaths compileFound
  dsimp only
  cases languages.contains request.language with
  | false => rfl
  | true =>
    refine congrArg (workspace.collect request.paths >>= ·) (funext fun files => ?_)
    split <;> rfl

lemma stopsWithOne_compilePaths (verbosity : Nat) (request : TranspileRequest) :
    (workspace.compilePaths verbosity request).StopsWithOne := by
  rw [compilePaths_eq]
  split
  · refine Transcript.stopsWithOne_bind (stopsWithOne_collect _) fun files => ?_
    unfold compileFound
    split
    · exact Transcript.stopsWithOne_stopWithLine _
    · exact Transcript.stopsWithOne_forEach (stopsWithOne_compilePath verbosity _ _) files
  · exact Transcript.stopsWithOne_stopWithLine _

variable {request : TranspileRequest}

/-- A request whose language is known and that has prompts compiles them one after the other. -/
lemma compilePaths_of_prompts {paths : List Path} (verbosity : Nat)
    (known : languages.contains request.language = true)
    (found : (workspace.requestPlan request).prompts = .ok paths) (nonempty : paths ≠ []) :
    workspace.compilePaths verbosity request =
      Transcript.forEach (workspace.compilePath verbosity request.language request.deduplicate)
        paths := by
  have collected : workspace.collect request.paths = Transcript.pure paths := by
    unfold collect
    unfold requestPlan at found
    cases collected : request.paths.mapM workspace.promptsAt with
    | error error =>
      rw [collected] at found
      exact nomatch found
    | ok files =>
      rw [collected] at found
      exact congrArg Transcript.pure (Except.ok.inj found)
  rw [compilePaths_eq, if_pos known, collected]
  show Transcript.bind (Transcript.pure paths) _ = _
  rw [Transcript.bind, Transcript.pure]
  dsimp only
  rw [compileFound, if_neg (mt List.isEmpty_iff.1 nonempty), List.nil_append]

end Workspace

/-! ## Runs with a prompt that fails -/

/-- The first prompt of a run that is not compiled: those before it are compiled and reported on. -/
structure Workspace.FirstFailure (workspace : Workspace) (request : TranspileRequest) (path : Path)
    (failure : CompileFailure) : Prop where
  known : request.language ∈ languages
  failed : workspace.compileFile path (workspace.requestPlan request).overrides = .error failure
  prompts : ∃ before after files,
    (workspace.requestPlan request).prompts = .ok (before ++ path :: after) ∧
      List.Forall₂ (fun path file => workspace.compileFile path
        (workspace.requestPlan request).overrides = .ok file ∧ file.Reportable path) before files

section

variable {workspace : Workspace} {request : TranspileRequest}

/-- **A run with a prompt that fails exits with one.** -/
lemma exitCode_of_fails (verbosity : Nat) (fails : (workspace.requestPlan request).Fails workspace) :
    (workspace.run ⟨verbosity, .transpile request⟩).exitCode = 1 := by
  show (workspace.transpile verbosity request).exitCode = 1
  cases compiled : (workspace.compilePaths verbosity request).outcome with
  | ok functions => exact absurd fails (yields_of_compilePaths compiled).not_fails
  | error how =>
    have isFailure := workspace.stopsWithOne_compilePaths verbosity request how compiled
    rw [Outcome.exitCode, (transpile_of_stop compiled).2]
    cases how with
    | exit code => exact isFailure
    | crash crash => rfl

/-- **A run stops at its first prompt that fails**, and what it says of that one comes last. -/
lemma run_of_firstFailure {path : Path} {failure : CompileFailure} (verbosity : Nat)
    (first : workspace.FirstFailure request path failure) :
    ∃ printed how,
      (workspace.compilePath verbosity request.language request.deduplicate path).outcome =
          .error how ∧
        workspace.run ⟨verbosity, .transpile request⟩ = ⟨workspace.tree, printed ++
          (workspace.compilePath verbosity request.language request.deduplicate path).printed,
          some how⟩ := by
  obtain ⟨known, failed, before, after, files, found, each⟩ := first
  cases stopped : (workspace.compilePath verbosity request.language request.deduplicate path).outcome with
  | ok function =>
    obtain ⟨file, compiled, -⟩ := outcome_compilePath_eq_ok.1 stopped
    exact nomatch failed.symm.trans compiled
  | error how =>
    have compiled : List.Forall₂ (fun path function => (workspace.compilePath verbosity request.language
        request.deduplicate path).outcome = .ok function) before (files.map CompiledFile.function) :=
      List.forall₂_map_right_iff.2 (each.imp fun _ file both =>
        outcome_compilePath_eq_ok.2 ⟨file, both.1, both.2, rfl⟩)
    have nonempty : before ++ path :: after ≠ [] :=
      List.append_ne_nil_of_right_ne_nil _ (List.cons_ne_nil _ _)
    have whole := Workspace.compilePaths_of_prompts verbosity (List.contains_iff_mem.2 known) found nonempty
    rw [Transcript.forEach_of_stop compiled stopped] at whole
    refine ⟨before.flatMap fun path => (workspace.compilePath verbosity request.language
      request.deduplicate path).printed, how, rfl, ?_⟩
    show workspace.transpile verbosity request = _
    rw [Workspace.transpile, whole]

lemma valid_requestPlan (known : request.language ∈ languages) :
    (workspace.requestPlan request).overrides.Valid where
  language := by
    rintro _ ⟨⟩
    exact .inr known
  deduplicate := ⟨request.deduplicate, rfl⟩

/-- **What a run says of its first prompt that fails.** -/
lemma run_reports {path : Path} {failure : CompileFailure} (verbosity : Nat)
    (first : workspace.FirstFailure request path failure) :
    (failure = .undecodable →
        (workspace.run ⟨verbosity, .transpile request⟩).ended = some (.crash .undecodable)) ∧
      (failure ≠ .undecodable → ∃ line, path.text <:+: line ∧ ∀ text, consoleText line = .ok text →
        (workspace.run ⟨verbosity, .transpile request⟩).ended = some (.exit 1) ∧
          (workspace.run ⟨verbosity, .transpile request⟩).printed.getLast? =
            some ⟨.error, text ++ ['\n']⟩) := by
  obtain ⟨printed, how, stopped, run⟩ := run_of_firstFailure verbosity first
  have fails := (compileFile_eq_error_iff (valid_requestPlan first.known)).1 first.failed
  have failed : workspace.compileFile path ⟨none, some request.language, none, .flag request.deduplicate⟩ =
      .error failure := first.failed
  rw [Workspace.compilePath_eq, failed] at stopped run
  rw [run]
  -- A line is the last thing that is said, before the run exits.
  have ends {line : Text} (stops : (Transcript.stopWithLine line : Transcript PromptFunction).outcome =
      .error how) {text : Text} (understood : consoleText line = .ok text) :
      some how = some (.exit 1) ∧ (printed ++ (Transcript.stopWithLine line :
        Transcript PromptFunction).printed).getLast? = some ⟨.error, text ++ ['\n']⟩ := by
    rw [Transcript.stopWithLine_of_understood understood] at stops ⊢
    exact ⟨congrArg some (Except.error.inj stops).symm, List.getLast?_concat⟩
  split at stopped
  · next missing =>
    refine ⟨fun undecodable => ?_, fun _ => ⟨missingLine path, path_infix_missingLine path, fun text => ?_⟩⟩
    · subst undecodable
      cases fails with
      | undecodable read invalid => exact Bool.noConfusion (missing.symm.trans (FileTree.at?_of_read read))
    · rw [if_pos missing]
      exact ends stopped
  · next there =>
    rw [if_neg there]
    cases fails with
    | @inFile problem isWrong =>
      refine ⟨nofun, fun _ => ⟨problemLine path problem, path_infix_problemLine path problem, fun text => ?_⟩⟩
      exact ends stopped
    | undecodable read invalid =>
      refine ⟨fun _ => ?_, fun other => absurd rfl other⟩
      exact congrArg some (Except.error.inj stopped).symm
    | notAPath null => exact absurd (FileTree.at?_of_null null) there

end

/-- **Which failures of a prompt file are reported with the file.**  With settings that are allowed, a
prompt file is compiled exactly if it can be read, holds valid text and has no broken frontmatter.  A
failure is reported with the path of the file and with what is wrong, unless the content of the file is
not valid or the path has a null character; so one of the two happens exactly if neither is the case.  A
run with a prompt that fails exits with one, and the line that it prints last names the prompt, if the
console understands the line and the content of the prompt is valid. -/
theorem fileFailures_reported (workspace : Workspace) (path : Path) {overrides : Settings.Overrides}
    (valid : overrides.Valid) :
    ((∃ file, workspace.compileFile path overrides = .ok file) ↔
      ∃ content text document, workspace.tree.read path = .ok content ∧
        fileText? content = some text ∧ Document.parse text = .ok document) ∧
    (∀ failure, workspace.compileFile path overrides = .error failure ↔
      workspace.tree.FailsAt path failure) ∧
    ((∃ file, workspace.compileFile path overrides = .ok file) ∨
        (∃ problem, workspace.compileFile path overrides = .error (.inFile path problem) ∧
          workspace.tree.HasProblem path problem) ↔
      '\x00' ∉ path.text ∧ ∀ content, workspace.tree.read path = .ok content →
        (decodeText? content).isSome = true) ∧
    ∀ (verbosity : Nat) (request : TranspileRequest),
      ((workspace.requestPlan request).Fails workspace →
        (workspace.run ⟨verbosity, .transpile request⟩).exitCode = 1) ∧
      ∀ failure, workspace.FirstFailure request path failure →
        (failure = .undecodable →
          (workspace.run ⟨verbosity, .transpile request⟩).ended = some (.crash .undecodable)) ∧
        (failure ≠ .undecodable → ∃ line, path.text <:+: line ∧ ∀ text, consoleText line = .ok text →
          (workspace.run ⟨verbosity, .transpile request⟩).ended = some (.exit 1) ∧
            (workspace.run ⟨verbosity, .transpile request⟩).printed.getLast? =
              some ⟨.error, text ++ ['\n']⟩) := by
  have unreported {failure : CompileFailure} (fails : workspace.tree.FailsAt path failure)
      (other : ∀ problem, failure ≠ .inFile path problem) :
      ¬ ((∃ file, workspace.compileFile path overrides = .ok file) ∨
        ∃ problem, workspace.compileFile path overrides = .error (.inFile path problem) ∧
          workspace.tree.HasProblem path problem) := by
    rw [(compileFile_eq_error_iff valid).2 fails]
    rintro (⟨file, compiled⟩ | ⟨problem, failed, -⟩)
    · exact nomatch compiled
    · exact other problem (Except.error.inj failed)
  refine ⟨?_, fun failure => compileFile_eq_error_iff valid, ⟨fun known => ⟨?_, ?_⟩, ?_⟩,
    fun verbosity request => ⟨exitCode_of_fails verbosity, fun failure => run_reports verbosity⟩⟩
  · obtain ⟨settings, allowed⟩ := exists_forPath valid workspace.environment path
    constructor
    · rintro ⟨file, compiled⟩
      obtain ⟨-, content, text, read, decoded, parsed⟩ := compileFile_eq_ok_iff.1 compiled
      exact ⟨content, text, file.document, read, decoded, parsed⟩
    · rintro ⟨content, text, document, read, decoded, parsed⟩
      exact ⟨⟨settings, document⟩,
        compileFile_eq_ok_iff.2 ⟨allowed, content, text, read, decoded, parsed⟩⟩
  · intro null
    exact unreported (.notAPath null) nofun known
  · intro content read
    by_contra invalid
    exact unreported (.undecodable read (Option.not_isSome_iff_eq_none.1 invalid)) nofun known
  · rintro ⟨noNull, decodes⟩
    cases compiled : workspace.compileFile path overrides with
    | ok file => exact .inl ⟨file, rfl⟩
    | error failure =>
      cases (compileFile_eq_error_iff valid).1 compiled with
      | inFile isWrong => exact .inr ⟨_, rfl, isWrong⟩
      | undecodable read invalid =>
        have valid := decodes _ read
        rw [invalid] at valid
        exact nomatch valid
      | notAPath null => exact absurd null noNull

/-- A run for one prompt. -/
def promptRequest (path : Path) : TranspileRequest :=
  ⟨[path], none, typedLanguage, none, false, false⟩

lemma valid_promptRequest (workspace : Workspace) (path : Path) :
    (workspace.requestPlan (promptRequest path)).overrides.Valid :=
  valid_requestPlan List.mem_cons_self

/-- A prompt file with a byte that is no text. -/
def invalidPrompt : Workspace :=
  ⟨⟨[(["p.glass".toList], .file ⟨#[0xff]⟩)]⟩, .silent⟩

def invalidPath : Path :=
  ⟨[], ["p.glass".toList]⟩

/-- There is no file at this path. -/
def missingPath : Path :=
  ⟨[], ["q.glass".toList]⟩

lemma failsAt_invalidPath : invalidPrompt.tree.FailsAt invalidPath .undecodable :=
  .undecodable rfl (by decide +kernel)

/-- A file that is missing is reported and a run for it exits with one; a run for a file without valid
text breaks off. -/
theorem fileFailures_reported_missing :
    invalidPrompt.compileFile missingPath (invalidPrompt.requestPlan (promptRequest missingPath)).overrides =
        .error (.inFile missingPath (.file ⟨.notFound, missingPath⟩)) ∧
      (invalidPrompt.run ⟨0, .transpile (promptRequest missingPath)⟩).exitCode = 1 ∧
      (invalidPrompt.run ⟨0, .transpile (promptRequest invalidPath)⟩).ended =
        some (.crash .undecodable) := by
  have missing := fileFailures_reported invalidPrompt missingPath (valid_promptRequest invalidPrompt missingPath)
  have invalid := fileFailures_reported invalidPrompt invalidPath (valid_promptRequest invalidPrompt invalidPath)
  have notFound := (missing.2.1 _).2 (.inFile (.unread rfl nofun))
  have undecodable := (invalid.2.1 _).2 failsAt_invalidPath
  refine ⟨notFound, ?_, ?_⟩
  · exact (missing.2.2.2 0 _).1 (.inr ⟨[missingPath], missingPath, _, rfl, List.mem_cons_self, notFound⟩)
  · exact ((invalid.2.2.2 0 _).2 .undecodable
      ⟨List.mem_cons_self, undecodable, [], [], [], rfl, .nil⟩).1 rfl

/-- The failure of a file without valid text is passed on without the file. -/
theorem not_fileFailures_reported : ¬ ∀ (workspace : Workspace) (path : Path)
    (overrides : Settings.Overrides), overrides.Valid →
      (∃ file, workspace.compileFile path overrides = .ok file) ∨
        ∃ problem, workspace.compileFile path overrides = .error (.inFile path problem) := by
  intro reported
  have valid := valid_promptRequest invalidPrompt invalidPath
  have undecodable := (compileFile_eq_error_iff valid).2 failsAt_invalidPath
  rcases reported invalidPrompt invalidPath _ valid with ⟨file, compiled⟩ | ⟨problem, failed⟩
  · exact nomatch undecodable.symm.trans compiled
  · exact nomatch undecodable.symm.trans failed

end GlassPrompt
