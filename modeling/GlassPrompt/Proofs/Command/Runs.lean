import GlassPrompt.Command.Run
import GlassPrompt.Proofs.Workspace.Plan

/-!
# Compiling is all or nothing

Compiling a folder and running the command line go different ways: the command reports on every prompt
before it looks at the next one, and any report may break off.  Both write only after the last prompt
has been compiled, so a prompt that fails leaves the files as they were.

* `outcome_forEach_eq_ok` — what a transcript over a list comes to.
* `CompiledFile.Reportable`, `outcome_compilePath_eq_ok` — when a prompt is compiled and reported on.
* `Workspace.requestPlan`, `outcome_compilePaths_eq_ok` — when a whole request is.
* `transpile_of_stop`, `transpile_of_compiled` — the files after a run, and how it ends.
* `compiling_allOrNothing` — what folders and runs do to the files.
-/

namespace GlassPrompt

/-! ## Transcripts -/

namespace Transcript

variable {α β : Type}

@[simp] lemma outcome_bind_eq_ok {first : Transcript α} {next : α → Transcript β} {value : β} :
    (first >>= next).outcome = .ok value ↔
      ∃ middle, first.outcome = .ok middle ∧ (next middle).outcome = .ok value := by
  show (Transcript.bind first next).outcome = .ok value ↔ _
  rw [Transcript.bind]
  cases first.outcome <;> simp

@[simp] lemma outcome_pure (value : α) : (Pure.pure value : Transcript α).outcome = .ok value := rfl

@[simp] lemma outcome_stop (how : Stop) : (stop how : Transcript α).outcome = .error how := rfl

@[simp] lemma outcome_print (channel : Channel) (text : Text) :
    (print channel text).outcome = .ok () := rfl

lemma outcome_printLine_eq_ok {channel : Channel} {line : Text} :
    (printLine channel line).outcome = .ok () ↔ ∃ text, consoleText line = .ok text := by
  unfold printLine
  cases consoleText line <;> simp

/-- A transcript for each member of a list comes to the values of all of them. -/
lemma outcome_forEach_eq_ok {step : α → Transcript β} {list : List α} {values : List β} :
    (forEach step list).outcome = .ok values ↔
      List.Forall₂ (fun a b => (step a).outcome = .ok b) list values := by
  induction list generalizing values with
  | nil => simp [forEach, pure, eq_comm]
  | cons a rest ih =>
    have unfolded : forEach step (a :: rest) =
        (step a >>= fun b => forEach step rest >>= fun more => Pure.pure (b :: more)) := rfl
    rw [unfolded, List.forall₂_cons_left_iff]
    simp only [outcome_bind_eq_ok, outcome_pure, ih, Except.ok.injEq]
    constructor
    · rintro ⟨b, first, more, later, rfl⟩
      exact ⟨b, more, first, later, rfl⟩
    · rintro ⟨b, more, first, later, rfl⟩
      exact ⟨b, first, more, later, rfl⟩

/-- Lines are all printed exactly if the console understands each of them. -/
lemma outcome_printLines {channel : Channel} {line : α → Text} {list : List α} :
    (∃ units, (forEach (fun a => printLine channel (line a)) list).outcome = .ok units) ↔
      ∀ a ∈ list, ∃ text, consoleText (line a) = .ok text := by
  simp only [outcome_forEach_eq_ok]
  induction list with
  | nil => simp
  | cons a rest ih =>
    rw [List.forall_mem_cons, ← ih, ← @outcome_printLine_eq_ok channel]
    constructor
    · rintro ⟨units, each⟩
      obtain ⟨_, more, first, later, -⟩ := List.forall₂_cons_left_iff.1 each
      exact ⟨first, more, later⟩
    · rintro ⟨first, more, later⟩
      exact ⟨() :: more, .cons first later⟩

end Transcript

/-! ## One prompt -/

/-- The line that reports an issue of a prompt. -/
def warningLine (path : Path) (issue : Issue) : Text :=
  styled "yellow" "warning".toList ++ [' '] ++ path.name ++ ": ".toList ++ issue.problem.message

/-- All issues of the prompt can be reported: the console understands the lines. -/
def CompiledFile.Reportable (path : Path) (file : CompiledFile) : Prop :=
  ∀ issue ∈ file.function.issues, ∃ text, consoleText (warningLine path issue) = .ok text

section

variable {workspace : Workspace} {path : Path}

/-- A file that can be read is there. -/
lemma FileTree.at?_of_read {tree : FileTree} {content : ByteArray} (read : tree.read path = .ok content) :
    (tree.at? path).isNone = false := by
  unfold FileTree.read at read
  unfold at?
  split at read
  · exact nomatch read
  · next route located =>
    rw [located]
    dsimp only
    split at read
    · exact nomatch read
    · exact nomatch read
    · next found => rw [found, Option.isNone_some]

/-- A prompt that is compiled is there. -/
lemma at?_of_compileFile {overrides : Settings.Overrides} {file : CompiledFile}
    (compiled : workspace.compileFile path overrides = .ok file) :
    (workspace.tree.at? path).isNone = false := by
  obtain ⟨-, content, -, read, -⟩ := compileFile_eq_ok_iff.1 compiled
  exact FileTree.at?_of_read read

/-- **A prompt is compiled and reported on** exactly if it can be compiled and its issues can be
reported. -/
theorem outcome_compilePath_eq_ok {verbosity : Nat} {language : Text} {deduplicate : Bool}
    {function : PromptFunction} :
    (workspace.compilePath verbosity language deduplicate path).outcome = .ok function ↔
      ∃ file, workspace.compileFile path ⟨none, some language, none, .flag deduplicate⟩ = .ok file ∧
        file.Reportable path ∧ function = file.function := by
  unfold Workspace.compilePath
  cases compiled : workspace.compileFile path ⟨none, some language, none, .flag deduplicate⟩ with
  | error failure =>
    by_cases missing : (workspace.tree.at? path).isNone = true
    · simp [missing]
    · cases failure <;> simp [missing]
  | ok file =>
    have reported : file.Reportable path ↔ _ :=
      (@Transcript.outcome_printLines Issue .error (warningLine path) file.function.issues).symm
    simp only [at?_of_compileFile compiled, Bool.false_eq_true, if_false, Except.ok.injEq,
      Transcript.outcome_bind_eq_ok, Transcript.outcome_print, Transcript.outcome_pure,
      exists_eq_left', reported]
    constructor
    · rintro ⟨_, -, units, said, rfl⟩
      exact ⟨⟨units, said⟩, rfl⟩
    · rintro ⟨⟨units, said⟩, rfl⟩
      exact ⟨(), trivial, units, said, rfl⟩

end

/-! ## All prompts of a request -/

/-- The module that is asked for with a request. -/
def Workspace.requestPlan (workspace : Workspace) (request : TranspileRequest) : ModulePlan where
  overrides := ⟨none, some request.language, none, .flag request.deduplicate⟩
  prompts := (request.paths.mapM workspace.promptsAt).map List.flatten
  runtime := request.runtime
  folder := request.output.getD (.parse workspace.environment.defaultOutput)
  language := request.language

section

variable {workspace : Workspace} {verbosity : Nat} {request : TranspileRequest}

lemma outcome_collect_eq_ok {paths : List Path} :
    (workspace.collect request.paths).outcome = .ok paths ↔
      (workspace.requestPlan request).prompts = .ok paths := by
  unfold Workspace.collect Workspace.requestPlan
  dsimp only
  cases request.paths.mapM workspace.promptsAt <;> simp [Except.map, Transcript.pure]

/-- **A request is compiled** exactly if its language is known and there are prompts, all of which can
be compiled and reported on. -/
theorem outcome_compilePaths_eq_ok {functions : List PromptFunction} :
    (workspace.compilePaths verbosity request).outcome = .ok functions ↔
      languages.contains request.language = true ∧
        ∃ paths files, (workspace.requestPlan request).prompts = .ok paths ∧ paths ≠ [] ∧
          List.Forall₂ (fun path file => workspace.compileFile path
            (workspace.requestPlan request).overrides = .ok file ∧ file.Reportable path) paths files ∧
          functions = files.map CompiledFile.function := by
  unfold Workspace.compilePaths
  by_cases known : languages.contains request.language = true
  · simp only [known, Bool.not_true, Bool.false_eq_true, if_false, Transcript.outcome_bind_eq_ok,
      outcome_collect_eq_ok, true_and]
    constructor
    · rintro ⟨paths, found, compiled⟩
      by_cases empty : paths = []
      · simp [empty] at compiled
      · simp only [List.isEmpty_iff, empty, if_false] at compiled
        rw [Transcript.outcome_forEach_eq_ok] at compiled
        simp only [outcome_compilePath_eq_ok, ← and_assoc] at compiled
        obtain ⟨files, all, rfl⟩ := forall₂_exists_map.1 compiled
        exact ⟨paths, files, found, empty, all, rfl⟩
    · rintro ⟨paths, files, found, nonempty, all, rfl⟩
      refine ⟨paths, found, ?_⟩
      simp only [List.isEmpty_iff, nonempty, if_false]
      rw [Transcript.outcome_forEach_eq_ok]
      simp only [outcome_compilePath_eq_ok, ← and_assoc]
      exact forall₂_exists_map.2 ⟨files, all, rfl⟩
  · rw [Bool.not_eq_true] at known
    simp only [known, Bool.not_false, if_true, Transcript.outcome_bind_eq_ok, Transcript.outcome_stop,
      reduceCtorEq, false_and, exists_false, and_false, Bool.false_eq_true]

lemma yields_of_compilePaths {functions : List PromptFunction}
    (compiled : (workspace.compilePaths verbosity request).outcome = .ok functions) :
    (workspace.requestPlan request).Yields workspace functions := by
  obtain ⟨-, paths, files, found, -, each, rfl⟩ := outcome_compilePaths_eq_ok.1 compiled
  exact ⟨paths, files, ⟨found, each.imp fun _ _ => And.left⟩, rfl⟩

/-! ## A whole run -/

/-- A run that stops before all prompts are compiled leaves the files alone. -/
lemma transpile_of_stop {how : Stop}
    (stopped : (workspace.compilePaths verbosity request).outcome = .error how) :
    (workspace.transpile verbosity request).tree = workspace.tree ∧
      (workspace.transpile verbosity request).ended = some how := by
  simp [Workspace.transpile, stopped]

/-- A run that compiles all prompts prints the module, or writes it. -/
lemma transpile_of_compiled {functions : List PromptFunction}
    (compiled : (workspace.compilePaths verbosity request).outcome = .ok functions) :
    (workspace.transpile verbosity request).tree =
        (if request.toConsole then workspace.tree
          else ((workspace.requestPlan request).write workspace.tree functions).1) ∧
      (request.toConsole = false → ∀ error,
        ((workspace.requestPlan request).write workspace.tree functions).2 = .error error →
          (workspace.transpile verbosity request).ended = some (.crash (.file error.fault))) := by
  simp only [Workspace.transpile, compiled, Workspace.deliver, Outcome.ofTranscript,
    ModulePlan.write, ModulePlan.text, Workspace.requestPlan, Transcript.bind]
  by_cases printed : request.toConsole = true
  · simp [printed]
  · simp only [printed]
    generalize workspace.tree.writeModule _ _ _ = written
    obtain ⟨after, result⟩ := written
    cases result with
    | error error => simp
    | ok path => simp

end

/-! ## All or nothing -/

section

variable (workspace : Workspace)

/-- A folder with a prompt that fails leaves the files alone, and one that is compiled has written its
module. -/
theorem compileFolder_allOrNothing (folder : Path) (options : FolderOptions) :
    let plan := workspace.folderPlan folder options
    let called := workspace.compileFolder folder options
    (plan.Fails workspace → called.1 = workspace.tree ∧ ∃ failure, called.2 = .error failure) ∧
      ∀ result, called.2 = .ok result →
        plan.Yields workspace result.functions ∧ result.path = plan.path ∧
          result.content = plan.text result.functions ∧
          workspace.tree.HasWritten called.1 plan.path (encodeText result.content) := by
  intro plan called
  constructor
  · intro fails
    obtain ⟨failure, eq⟩ := compileFolder_of_fails fails
    exact ⟨congrArg Prod.fst eq, failure, congrArg Prod.snd eq⟩
  · intro result succeeded
    rcases fails_or_yields plan workspace with fails | ⟨functions, yields⟩
    · obtain ⟨failure, eq⟩ := compileFolder_of_fails fails
      simp [called, eq] at succeeded
    · simp only [called, compileFolder_of_yields yields] at succeeded ⊢
      rcases plan.write_cases workspace.tree functions with ⟨done, written⟩ | ⟨error, failed, -⟩
      · rw [done] at succeeded
        obtain rfl := Except.ok.inj succeeded
        exact ⟨yields, rfl, rfl, written⟩
      · simp [plan, failed] at succeeded

/-- A run with a prompt that fails, or that prints the module, leaves the files alone, and one that ends
well has written the module otherwise. -/
theorem run_allOrNothing (verbosity : Nat) (request : TranspileRequest) :
    let plan := workspace.requestPlan request
    let outcome := workspace.run ⟨verbosity, .transpile request⟩
    (plan.Fails workspace → outcome.tree = workspace.tree ∧ outcome.ended ≠ none) ∧
      (request.toConsole = true → outcome.tree = workspace.tree) ∧
      (outcome.ended = none → request.toConsole = false →
        plan.HasWritten workspace outcome.tree) ∧
      (outcome.tree = workspace.tree ∨ plan.HasWritten workspace outcome.tree ∨
        (∃ fault, outcome.ended = some (.crash (.file fault))) ∧
          workspace.tree.MadeParents outcome.tree plan.path) := by
  intro plan outcome
  have run : outcome = workspace.transpile verbosity request := rfl
  cases compiled : (workspace.compilePaths verbosity request).outcome with
  | error how =>
    obtain ⟨unchanged, ended⟩ := transpile_of_stop compiled
    rw [← run] at unchanged ended
    simp [unchanged, ended]
  | ok functions =>
    have yields := yields_of_compilePaths compiled
    obtain ⟨tree, ended⟩ := transpile_of_compiled compiled
    rw [← run] at tree ended
    by_cases printed : request.toConsole = true
    · rw [if_pos printed] at tree
      simp [tree, printed, yields.not_fails, plan]
    · rw [if_neg printed] at tree
      rw [Bool.not_eq_true] at printed
      refine ⟨fun fails => absurd fails yields.not_fails, by simp [printed], ?_, .inr ?_⟩
      · intro endsWell _
        rcases plan.write_cases workspace.tree functions with ⟨-, written⟩ | ⟨error, failed, -⟩
        · exact ⟨functions, yields, tree ▸ written⟩
        · simp [ended printed error failed] at endsWell
      · rcases plan.write_cases workspace.tree functions with ⟨-, written⟩ | ⟨error, failed, made⟩
        · exact .inl ⟨functions, yields, tree ▸ written⟩
        · exact .inr ⟨⟨error.fault, ended printed error failed⟩, tree ▸ made⟩

/-- Only runs that compile prompts change files. -/
lemma runArguments_tree (language : Text) (arguments : List Text) :
    (workspace.runArguments language arguments).tree = workspace.tree ∨
      ∃ verbosity request, Invocation.read language arguments = .ok ⟨verbosity, .transpile request⟩ ∧
        workspace.runArguments language arguments =
          workspace.run ⟨verbosity, .transpile request⟩ := by
  unfold Workspace.runArguments
  cases read : Invocation.read language arguments with
  | error fault => cases fault <;> exact .inl rfl
  | ok invocation =>
    obtain ⟨verbosity, command⟩ := invocation
    cases command with
    | transpile request => exact .inr ⟨verbosity, request, rfl, rfl⟩
    | check paths => exact .inl rfl
    | fold path => exact .inl rfl

/-- **Compiling is all or nothing.**  If the prompts of a folder or of a run cannot be found, or one of
them cannot be read or compiled, the files stay as they are; and so they do if the module is printed.  A
folder that is compiled, and a run that ends well, have written the module of all prompts, and have
changed nothing but its file and missing folders that lead to it.  A run that ends badly after its last
prompt has been compiled has written it too, or it could not, and has made such folders at most. -/
theorem compiling_allOrNothing :
    (∀ folder options,
      let plan := workspace.folderPlan folder options
      let called := workspace.compileFolder folder options
      (plan.Fails workspace → called.1 = workspace.tree ∧ ∃ failure, called.2 = .error failure) ∧
        ∀ result, called.2 = .ok result →
          plan.Yields workspace result.functions ∧ result.path = plan.path ∧
            result.content = plan.text result.functions ∧
            workspace.tree.HasWritten called.1 plan.path (encodeText result.content)) ∧
    (∀ verbosity request,
      let plan := workspace.requestPlan request
      let outcome := workspace.run ⟨verbosity, .transpile request⟩
      (plan.Fails workspace → outcome.tree = workspace.tree ∧ outcome.ended ≠ none) ∧
        (request.toConsole = true → outcome.tree = workspace.tree) ∧
        (outcome.ended = none → request.toConsole = false →
          plan.HasWritten workspace outcome.tree) ∧
        (outcome.tree = workspace.tree ∨ plan.HasWritten workspace outcome.tree ∨
          (∃ fault, outcome.ended = some (.crash (.file fault))) ∧
            workspace.tree.MadeParents outcome.tree plan.path)) ∧
    ∀ language arguments,
      (workspace.runArguments language arguments).tree = workspace.tree ∨
        ∃ verbosity request, Invocation.read language arguments = .ok ⟨verbosity, .transpile request⟩ ∧
          workspace.runArguments language arguments =
            workspace.run ⟨verbosity, .transpile request⟩ := by
  refine ⟨?_, ?_, ?_⟩
  · exact compileFolder_allOrNothing workspace
  · exact run_allOrNothing workspace
  · exact runArguments_tree workspace

end

/-- A folder with a prompt. -/
def onePrompt : FileTree :=
  ⟨[([['p']], .folder), ([['p'], "a.glass".toList], .file (encodeText "\x7bx\x7d".toList))]⟩

/-- Behind its prompt the folder has another one, which is a folder itself. -/
def promptThenFolder : Workspace :=
  ⟨⟨onePrompt.entries ++ [([['p'], "b.glass".toList], .folder)]⟩, .silent⟩

/-- The output folder is missing, as is the folder around it. -/
def toMissingFolder : FolderOptions :=
  ⟨some "o/out".toList, none, none, .flag false⟩

theorem compiling_allOrNothing_promptThenFolder :
    (promptThenFolder.folderPlan ⟨[], [['p']]⟩ toMissingFolder).Fails promptThenFolder ∧
      (promptThenFolder.compileFolder ⟨[], [['p']]⟩ toMissingFolder).1 = promptThenFolder.tree ∧
      ∃ result, ((⟨onePrompt, .silent⟩ : Workspace).compileFolder ⟨[], [['p']]⟩ toMissingFolder).2 =
          .ok result ∧
        onePrompt.HasWritten
          ((⟨onePrompt, .silent⟩ : Workspace).compileFolder ⟨[], [['p']]⟩ toMissingFolder).1
          ⟨[], ["o".toList, "out".toList, "glass.ts".toList]⟩ (encodeText result.content) := by
  have fails : (promptThenFolder.folderPlan ⟨[], [['p']]⟩ toMissingFolder).Fails promptThenFolder := by
    refine .inr ⟨[⟨[], [['p'], "a.glass".toList]⟩, ⟨[], [['p'], "b.glass".toList]⟩],
      ⟨[], [['p'], "b.glass".toList]⟩, .inFile _ (.file ⟨.isAFolder, _⟩), ?_,
      List.mem_cons_of_mem _ List.mem_cons_self, rfl⟩
    exact @promptFiles_of_sorted promptThenFolder ⟨[], [['p']]⟩ [['p']]
      [["a.glass".toList], ["b.glass".toList]] (by decide +kernel) (by decide +kernel)
      (by decide +kernel) (by decide +kernel)
  have compiled : ((⟨onePrompt, .silent⟩ : Workspace).compileFolder ⟨[], [['p']]⟩
      toMissingFolder).2.isOk = true := by
    decide +kernel
  refine ⟨fails, (((compiling_allOrNothing promptThenFolder).1 _ _).1 fails).1, ?_⟩
  cases called : ((⟨onePrompt, .silent⟩ : Workspace).compileFolder ⟨[], [['p']]⟩ toMissingFolder).2 with
  | error failure => simp [called, Except.isOk, Except.toBool] at compiled
  | ok result =>
    exact ⟨result, rfl, (((compiling_allOrNothing ⟨onePrompt, .silent⟩).1 _ _).2 result called).2.2.2⟩

end GlassPrompt
