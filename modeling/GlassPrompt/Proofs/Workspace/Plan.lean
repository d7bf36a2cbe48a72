import GlassPrompt.Proofs.Workspace.Changes
import Mathlib.Data.List.Forall2

/-!
# What goes into a module

A folder and a command line both ask for a module: of which prompts, compiled with which settings, and
where it is to be written.  Either all of the prompts can be compiled, or one of them fails.

* `ModulePlan` — what is asked for, with `Workspace.folderPlan` for a folder.
* `ModulePlan.Fails`, `ModulePlan.Yields` — whether all prompts can be compiled, and to what.
* `compileFile_eq_ok_iff`, `compileFiles_eq_ok_iff` — when prompts are compiled.
* `fails_or_yields`, `ModulePlan.Yields.not_fails` — it is one or the other.
* `compileFolder_of_fails`, `compileFolder_of_yields` — what compiling a folder does in each case.
-/

namespace GlassPrompt

/-! ## Plans -/

/-- A module that is asked for. -/
structure ModulePlan where
  /-- What is said about all of its prompts. -/
  overrides : Settings.Overrides
  /-- Its prompts in order, if they can be found. -/
  prompts : Except FileError (List Path)
  runtime : Option Text
  /-- The folder that it is written to. -/
  folder : Path
  language : Text

namespace ModulePlan

/-- Where the module is written. -/
def path (plan : ModulePlan) : Path :=
  plan.folder.append [moduleFileName plan.language]

/-- The module of compiled prompts. -/
def text (plan : ModulePlan) (functions : List PromptFunction) : Text :=
  moduleText plan.runtime functions

/-- Writes the module of compiled prompts. -/
def write (plan : ModulePlan) (tree : FileTree) (functions : List PromptFunction) :
    FileTree × Except FileError Path :=
  tree.writeModule plan.folder plan.language (plan.text functions)

/-- The prompts cannot be found, or one of them cannot be read or compiled. -/
def Fails (plan : ModulePlan) (workspace : Workspace) : Prop :=
  (∃ error, plan.prompts = .error error) ∨
    ∃ paths path failure, plan.prompts = .ok paths ∧ path ∈ paths ∧
      workspace.compileFile path plan.overrides = .error failure

/-- The prompts are compiled to the files, each one by itself. -/
def Compiles (plan : ModulePlan) (workspace : Workspace) (paths : List Path)
    (files : List CompiledFile) : Prop :=
  plan.prompts = .ok paths ∧
    List.Forall₂ (fun path file => workspace.compileFile path plan.overrides = .ok file) paths files

/-- All prompts are compiled, and these are their functions in order. -/
def Yields (plan : ModulePlan) (workspace : Workspace) (functions : List PromptFunction) : Prop :=
  ∃ paths files, plan.Compiles workspace paths files ∧ functions = files.map CompiledFile.function

/-- The module that is asked for has been written: it holds all prompts. -/
def HasWritten (plan : ModulePlan) (workspace : Workspace) (after : FileTree) : Prop :=
  ∃ functions, plan.Yields workspace functions ∧
    workspace.tree.HasWritten after plan.path (encodeText (plan.text functions))

/-- A module is written, or folders at most are made. -/
lemma write_cases (plan : ModulePlan) (tree : FileTree) (functions : List PromptFunction) :
    ((plan.write tree functions).2 = .ok plan.path ∧
        tree.HasWritten (plan.write tree functions).1 plan.path (encodeText (plan.text functions))) ∨
      ∃ error, (plan.write tree functions).2 = .error error ∧
        tree.MadeParents (plan.write tree functions).1 plan.path := by
  obtain ⟨written, failed⟩ :=
    FileTree.writeModule_spec tree plan.folder plan.language (plan.text functions)
  cases result : (plan.write tree functions).2 with
  | error error => exact .inr ⟨error, rfl, failed error result⟩
  | ok path =>
    obtain ⟨rfl, hasWritten⟩ := written path result
    exact .inl ⟨rfl, hasWritten⟩

end ModulePlan

/-- The module that is asked for with a folder. -/
def Workspace.folderPlan (workspace : Workspace) (folder : Path) (options : FolderOptions) :
    ModulePlan where
  overrides := ⟨some folder.text, options.language, none, options.deduplicate⟩
  prompts := workspace.promptFiles folder
  runtime := options.runtime
  folder := .parse ((options.output.filter (!·.isEmpty)).getD workspace.environment.defaultOutput)
  language := (options.language.filter (!·.isEmpty)).getD workspace.environment.defaultLanguage

/-! ## All prompts, or a failure -/

/-- Members of two lists belong together by something in between, so there is a list of that. -/
lemma forall₂_exists_map {α β γ : Type} {r : α → β → Prop} {f : β → γ} {first : List α}
    {last : List γ} :
    List.Forall₂ (fun a c => ∃ b, r a b ∧ c = f b) first last ↔
      ∃ middle, List.Forall₂ r first middle ∧ last = middle.map f := by
  constructor
  · intro each
    induction each with
    | nil => exact ⟨[], .nil, rfl⟩
    | cons here _ ih =>
      obtain ⟨b, related, rfl⟩ := here
      obtain ⟨middle, later, rfl⟩ := ih
      exact ⟨b :: middle, .cons related later, rfl⟩
  · rintro ⟨middle, each, rfl⟩
    rw [List.forall₂_map_right_iff]
    exact each.imp fun a b related => ⟨b, related, rfl⟩

section

variable {workspace : Workspace} {path : Path} {overrides : Settings.Overrides} {paths : List Path}

/-- A prompt is compiled from settings that hold, out of a file that can be read. -/
lemma compileFile_eq_ok_iff {file : CompiledFile} :
    workspace.compileFile path overrides = .ok file ↔
      Settings.forPath workspace.environment path overrides = .ok file.settings ∧
        ∃ content text, workspace.tree.read path = .ok content ∧ fileText? content = some text ∧
          Document.parse text = .ok file.document := by
  constructor
  · intro compiled
    unfold Workspace.compileFile at compiled
    repeat' split at compiled
    all_goals simp only [Except.ok.injEq, reduceCtorEq] at compiled
    next settings checked _ content read _ text decoded _ document parsed =>
      rw [← compiled]
      exact ⟨checked, content, text, read, decoded, parsed⟩
  · rintro ⟨checked, content, text, read, decoded, parsed⟩
    simp [Workspace.compileFile, checked, read, decoded, parsed]

lemma compileFiles_eq_ok_iff {files : List CompiledFile} :
    workspace.compileFiles overrides paths = .ok files ↔
      List.Forall₂ (fun path file => workspace.compileFile path overrides = .ok file) paths files := by
  induction paths generalizing files with
  | nil => simp [Workspace.compileFiles, eq_comm]
  | cons path rest ih =>
    rw [Workspace.compileFiles, List.forall₂_cons_left_iff]
    constructor
    · intro h
      cases first : workspace.compileFile path overrides with
      | error failure => simp [first] at h
      | ok file =>
        cases later : workspace.compileFiles overrides rest with
        | error failure => simp [first, later, Except.map] at h
        | ok others =>
          simp only [first, later, Except.map] at h
          exact ⟨file, others, rfl, ih.1 later, (Except.ok.inj h).symm⟩
    · rintro ⟨file, others, first, later, rfl⟩
      simp [first, ih.2 later, Except.map]

lemma exists_failure_of_compileFiles {failure : CompileFailure}
    (h : workspace.compileFiles overrides paths = .error failure) :
    ∃ path ∈ paths, workspace.compileFile path overrides = .error failure := by
  induction paths with
  | nil => simp [Workspace.compileFiles] at h
  | cons path rest ih =>
    rw [Workspace.compileFiles] at h
    cases first : workspace.compileFile path overrides with
    | error other =>
      simp only [first, Except.error.injEq] at h
      exact ⟨path, List.mem_cons_self, by rw [first, h]⟩
    | ok file =>
      cases later : workspace.compileFiles overrides rest with
      | ok others => simp [first, later, Except.map] at h
      | error other =>
        simp only [first, later, Except.map, Except.error.injEq] at h
        obtain ⟨failing, member, failed⟩ := ih (by rw [later, h])
        exact ⟨failing, List.mem_cons_of_mem path member, failed⟩

variable {plan : ModulePlan}

lemma ModulePlan.yields_of_compileFiles {files : List CompiledFile} (found : plan.prompts = .ok paths)
    (compiled : workspace.compileFiles plan.overrides paths = .ok files) :
    plan.Yields workspace (files.map CompiledFile.function) :=
  ⟨paths, files, ⟨found, compileFiles_eq_ok_iff.1 compiled⟩, rfl⟩

/-- **Either all prompts of a plan are compiled, or it fails.** -/
theorem fails_or_yields (plan : ModulePlan) (workspace : Workspace) :
    plan.Fails workspace ∨ ∃ functions, plan.Yields workspace functions := by
  cases found : plan.prompts with
  | error error => exact .inl (.inl ⟨error, found⟩)
  | ok paths =>
    cases compiled : workspace.compileFiles plan.overrides paths with
    | error failure =>
      obtain ⟨path, member, failed⟩ := exists_failure_of_compileFiles compiled
      exact .inl (.inr ⟨paths, path, failure, found, member, failed⟩)
    | ok files => exact .inr ⟨_, ModulePlan.yields_of_compileFiles found compiled⟩

lemma ModulePlan.Compiles.exists_file {files : List CompiledFile}
    (compiles : plan.Compiles workspace paths files) {path : Path} (member : path ∈ paths) :
    ∃ file ∈ files, workspace.compileFile path plan.overrides = .ok file := by
  obtain ⟨-, each⟩ := compiles
  induction each with
  | nil => simp at member
  | cons here _ ih =>
    rcases List.mem_cons.1 member with rfl | later
    · exact ⟨_, List.mem_cons_self, here⟩
    · obtain ⟨file, among, compiled⟩ := ih later
      exact ⟨file, List.mem_cons_of_mem _ among, compiled⟩

lemma ModulePlan.Yields.not_fails {functions : List PromptFunction}
    (yields : plan.Yields workspace functions) : ¬ plan.Fails workspace := by
  obtain ⟨paths, files, compiles, -⟩ := yields
  rintro (⟨error, found⟩ | ⟨others, path, failure, found, member, failed⟩)
  · simp [compiles.1] at found
  · obtain rfl : paths = others := Except.ok.inj (compiles.1.symm.trans found)
    obtain ⟨file, -, compiled⟩ := compiles.exists_file member
    simp [failed] at compiled

end

/-! ## A folder -/

/-- The prompts of a folder, if they are in order where they are found. -/
lemma promptFiles_of_sorted {workspace : Workspace} {folder : Path} {base : Route}
    {routes : List Route} (isFolder : workspace.tree.checkFolder folder = .ok true)
    (located : workspace.tree.locate folder = .ok base)
    (found : ((workspace.tree.below base).filter fun route =>
      promptExtension.isSuffixOf (route.getLast?.getD [])) = routes)
    (sorted : routes.Pairwise fun a b => (!List.lex b a Text.before) = true) :
    workspace.promptFiles folder = .ok (routes.map folder.append) := by
  rw [Workspace.promptFiles, FileTree.named, isFolder, located]
  dsimp only
  rw [found, List.mergeSort_of_pairwise sorted]

section

variable {workspace : Workspace} {folder : Path} {options : FolderOptions}

lemma compilePrompts_of_fails (fails : (workspace.folderPlan folder options).Fails workspace) :
    ∃ failure, workspace.compilePrompts (workspace.folderPlan folder options).overrides folder =
      .error failure := by
  unfold Workspace.compilePrompts
  cases found : workspace.promptFiles folder with
  | error error => exact ⟨_, rfl⟩
  | ok paths =>
    cases compiled : workspace.compileFiles (workspace.folderPlan folder options).overrides paths with
    | error failure => exact ⟨.compile failure, by simp [compiled, Except.mapError]⟩
    | ok files =>
      have yields := ModulePlan.yields_of_compileFiles found compiled
      exact absurd fails yields.not_fails

/-- A folder with a prompt that fails is not compiled, and nothing is written. -/
theorem compileFolder_of_fails (fails : (workspace.folderPlan folder options).Fails workspace) :
    ∃ failure, workspace.compileFolder folder options = (workspace.tree, .error failure) := by
  obtain ⟨failure, failed⟩ := compilePrompts_of_fails fails
  refine ⟨failure, ?_⟩
  simp only [Workspace.folderPlan] at failed
  simp [Workspace.compileFolder, failed]

/-- If all prompts of a folder are compiled, their module is written. -/
theorem compileFolder_of_yields {functions : List PromptFunction}
    (yields : (workspace.folderPlan folder options).Yields workspace functions) :
    workspace.compileFolder folder options =
      (((workspace.folderPlan folder options).write workspace.tree functions).1,
        match ((workspace.folderPlan folder options).write workspace.tree functions).2 with
        | .error error => .error (.file error)
        | .ok path => .ok ⟨path, (workspace.folderPlan folder options).text functions, functions⟩) := by
  obtain ⟨paths, files, ⟨found, each⟩, rfl⟩ := yields
  have compiled := compileFiles_eq_ok_iff.2 each
  simp only [Workspace.folderPlan] at found compiled
  simp only [Workspace.compileFolder, Workspace.compilePrompts, found, compiled, Except.mapError,
    ModulePlan.write, Workspace.folderPlan, ModulePlan.text]
  split <;> simp_all

end

end GlassPrompt
