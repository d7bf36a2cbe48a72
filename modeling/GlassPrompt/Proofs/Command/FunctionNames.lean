import GlassPrompt.Proofs.Command.Runs

/-!
# The names of functions

The name of a function comes from the stem of its prompt alone, and much of a stem is lost on the way:
the ending of prompts and a leading `get-`, everything but ASCII letters and digits, and whether the
first letter of a word is a capital one.  What is left is the key of the stem.  Names are valid, and
two of them are the same exactly if the keys are.

* `wordLetters`, `pascalCase_eq` — the letters and digits of a name, one character at a time.
* `nameKey`, `promptName_eq`, `exportedName_eq_iff` — keys, and the names that are made of them.
* `isAsciiIdentifier_promptName`, `isAsciiIdentifier_exportedName` — names are valid.
* `NamedAfter`, `functions_namedAfter` — the functions that a folder or a run is compiled to.
-/

namespace GlassPrompt

/-! ## Keys -/

/-- The ASCII letters and digits of a text.  The first one is a capital letter, and so is the first one
behind any other character; `starts` tells whether such a place is here. -/
def wordLetters (starts : Bool) : Text → Text
  | [] => []
  | c :: rest =>
    if isNamePart c then (if starts then c.toUpper else c) :: wordLetters false rest
    else wordLetters true rest

lemma wordLetters_eq (text : Text) : ∃ word more, text.splitOnP (!isNamePart ·) = word :: more ∧
    wordLetters false text = word ++ more.flatMap capitalise ∧
    wordLetters true text = (word :: more).flatMap capitalise := by
  induction text with
  | nil => exact ⟨[], [], rfl, rfl, rfl⟩
  | cons c rest ih =>
    obtain ⟨word, more, split, inside, starting⟩ := ih
    rw [List.splitOnP_cons_eq_if_modifyHead, split]
    by_cases part : isNamePart c = true
    · refine ⟨c :: word, more, by simp [part], ?_, ?_⟩
      · simp [wordLetters, part, inside]
      · simp [wordLetters, part, inside, capitalise]
    · refine ⟨[], word :: more, by simp [part], ?_, ?_⟩
      · simp [wordLetters, part, starting]
      · simp [wordLetters, part, starting, capitalise]

/-- Joining the words of a name goes through it character by character. -/
theorem pascalCase_eq (name : Text) : pascalCase name = wordLetters true name := by
  obtain ⟨word, more, split, -, starting⟩ := wordLetters_eq name
  rw [pascalCase, split, starting]

/-- What is left of a stem in the name of its function. -/
def nameKey (stem : Text) : Text :=
  let named := dropEnding promptExtension stem
  wordLetters true (("get-".toList.isPrefixOf? named).getD named)

lemma promptName_eq (stem : Text) : promptName stem = "get".toList ++ nameKey stem := by
  rw [promptName, pascalCase_eq]
  rfl

lemma exportedName_eq (stem : Text) :
    exportedName stem = "get".toList ++ nameKey stem ++ "Prompt".toList := by
  rw [exportedName, promptName_eq]

lemma promptName_eq_iff {first second : Text} :
    promptName first = promptName second ↔ nameKey first = nameKey second := by
  rw [promptName_eq, promptName_eq, List.append_right_inj]

lemma exportedName_eq_iff {first second : Text} :
    exportedName first = exportedName second ↔ nameKey first = nameKey second := by
  rw [exportedName, exportedName, List.append_left_inj, promptName_eq_iff]

/-! ## Valid names -/

/-- The text is an identifier of ASCII characters. -/
def IsAsciiIdentifier (text : Text) : Prop :=
  Text.isIdentifier text = true ∧ ∀ c ∈ text, c.toNat < 128

lemma toNat_of_isNamePart {c : Char} (h : isNamePart c = true) : c.toNat < 128 := by
  have ascii (last : Char) (below : last.toNat < 128) (le : c.val ≤ last.val) : c.toNat < 128 :=
    Nat.lt_of_le_of_lt le below
  have kinds : (c.isUpper || c.isLower || c.isDigit) = true := h
  rcases Bool.or_eq_true_iff.1 kinds with letter | digit
  · rcases Bool.or_eq_true_iff.1 letter with upper | lower
    · exact ascii 'Z' (by decide) (of_decide_eq_true upper).2
    · exact ascii 'z' (by decide) (of_decide_eq_true (Bool.and_eq_true_iff.1 lower).2)
  · exact ascii '9' (by decide) (of_decide_eq_true (Bool.and_eq_true_iff.1 digit).2)

lemma isNamePart_toUpper {c : Char} (h : isNamePart c = true) : isNamePart c.toUpper = true := by
  have table : ∀ n < 128, isNamePart (Char.ofNat n) = true →
      isNamePart (Char.ofNat n).toUpper = true := by
    decide +kernel
  have known := table c.toNat (toNat_of_isNamePart h)
  rw [Char.ofNat_toNat] at known
  exact known h

lemma isNamePart_of_mem_wordLetters {starts : Bool} {text : Text} :
    ∀ c ∈ wordLetters starts text, isNamePart c = true := by
  induction text generalizing starts with
  | nil => exact nofun
  | cons c rest ih =>
    rw [wordLetters]
    split
    · next part =>
      refine List.forall_mem_cons.2 ⟨?_, ih⟩
      cases starts with
      | false => exact part
      | true => exact isNamePart_toUpper part
    · exact ih

/-- A letter that is followed by letters and digits is an identifier. -/
lemma isAsciiIdentifier_cons {c : Char} {text : Text} (letter : c.isAlpha = true)
    (parts : ∀ d ∈ text, isNamePart d = true) : IsAsciiIdentifier (c :: text) := by
  have first : isNamePart c = true := by simp [isNamePart, Char.isAlphanum, letter]
  have starts : isNameStart c = true := by simp [isNameStart, letter]
  have goesOn : text.all isNameRest = true := by
    refine List.all_eq_true.2 fun d member => ?_
    have part : d.isAlphanum = true := parts d member
    simp [isNameRest, isWord, part]
  refine ⟨by rw [Text.isIdentifier, starts, goesOn]; rfl, ?_⟩
  exact List.forall_mem_cons.2 ⟨toNat_of_isNamePart first, fun d member =>
    toNat_of_isNamePart (parts d member)⟩

lemma isAsciiIdentifier_promptName (stem : Text) : IsAsciiIdentifier (promptName stem) := by
  rw [promptName_eq]
  refine isAsciiIdentifier_cons (by decide) (List.forall_mem_append.2 ⟨?_, ?_⟩)
  · exact List.all_eq_true.1 (by decide)
  · exact isNamePart_of_mem_wordLetters

lemma isAsciiIdentifier_exportedName (stem : Text) : IsAsciiIdentifier (exportedName stem) := by
  rw [exportedName_eq, List.append_assoc]
  refine isAsciiIdentifier_cons (by decide) (List.forall_mem_append.2 ⟨?_, ?_⟩)
  · exact List.all_eq_true.1 (by decide)
  refine List.forall_mem_append.2 ⟨isNamePart_of_mem_wordLetters, ?_⟩
  exact List.all_eq_true.1 (by decide +kernel)

/-! ## The names of compiled prompts -/

/-- A function is named after the stem of its prompt, whatever the caller says. -/
lemma fileName_of_forPath {environment : Environment} {path : Path} {overrides : Settings.Overrides}
    {settings : Settings} (h : Settings.forPath environment path overrides = .ok settings) :
    settings.fileName = path.stem := by
  unfold Settings.forPath Settings.ofOptions at h
  dsimp only at h
  split at h
  · next checked _ _ _ _ =>
    rw [← Except.ok.inj h]
    exact (Except.ok.inj (Eq.trans rfl checked)).symm
  · exact nomatch h

lemma fileName_of_compileFile {workspace : Workspace} {path : Path} {overrides : Settings.Overrides}
    {file : CompiledFile} (compiled : workspace.compileFile path overrides = .ok file) :
    file.options.fileName = path.stem :=
  fileName_of_forPath (compileFile_eq_ok_iff.1 compiled).1

/-- Functions are named after the stems of paths, and the names are valid. -/
structure NamedAfter (paths : List Path) (functions : List PromptFunction) : Prop where
  functionNames : functions.map PromptFunction.functionName =
    paths.map fun path => "get".toList ++ nameKey path.stem
  exportNames : functions.map PromptFunction.exportName =
    paths.map fun path => "get".toList ++ nameKey path.stem ++ "Prompt".toList
  valid : ∀ function ∈ functions,
    IsAsciiIdentifier function.functionName ∧ IsAsciiIdentifier function.exportName
  /-- No name is given twice exactly if no two stems have the same key. -/
  distinct : (functions.map PromptFunction.exportName).Nodup ↔
    (paths.map fun path => nameKey path.stem).Nodup
  distinctKeys : (functions.map PromptFunction.functionName).Nodup ↔
    (paths.map fun path => nameKey path.stem).Nodup

section

variable {workspace : Workspace} {overrides : Settings.Overrides} {paths : List Path}
  {files : List CompiledFile}

/-- A name that depends on the file name only is that of the stem. -/
lemma map_name_of_compiled {name : PromptFunction → Text} {ofStem : Text → Text}
    (named : ∀ file : CompiledFile, name file.function = ofStem file.options.fileName)
    (each : List.Forall₂ (fun path file => workspace.compileFile path overrides = .ok file)
      paths files) :
    (files.map CompiledFile.function).map name = paths.map fun path => ofStem path.stem := by
  induction each with
  | nil => rfl
  | cons here _ ih => simp only [List.map_cons, ih, named, fileName_of_compileFile here]

/-- Names that are given to stems differ as often as keys do. -/
lemma nodup_names_iff {name : Text → Text} (paths : List Path)
    (same : ∀ first second, name first = name second ↔ nameKey first = nameKey second) :
    (paths.map fun path => name path.stem).Nodup ↔ (paths.map fun path => nameKey path.stem).Nodup := by
  simp only [List.Nodup, List.pairwise_map, ne_eq, same]

lemma namedAfter_of_compiled
    (each : List.Forall₂ (fun path file => workspace.compileFile path overrides = .ok file)
      paths files) : NamedAfter paths (files.map CompiledFile.function) := by
  have functionNames := @map_name_of_compiled _ _ _ _ PromptFunction.functionName promptName
    (fun _ => rfl) each
  have exportNames := @map_name_of_compiled _ _ _ _ PromptFunction.exportName exportedName
    (fun _ => rfl) each
  refine ⟨?_, ?_, ?_, ?_, ?_⟩
  · simp only [functionNames, promptName_eq]
  · simp only [exportNames, exportedName_eq]
  · intro function member
    obtain ⟨file, -, rfl⟩ := List.mem_map.1 member
    exact ⟨isAsciiIdentifier_promptName _, isAsciiIdentifier_exportedName _⟩
  · rw [exportNames]
    exact nodup_names_iff paths fun _ _ => exportedName_eq_iff
  · rw [functionNames]
    exact nodup_names_iff paths fun _ _ => promptName_eq_iff

end

/-- **Functions are named after the stems of their prompts**, for a folder that is compiled as for a run.
The names are valid, and they are all different exactly if the keys of the stems are. -/
theorem functions_namedAfter (workspace : Workspace) :
    (∀ folder options result, (workspace.compileFolder folder options).2 = .ok result →
      ∃ paths, workspace.promptFiles folder = .ok paths ∧ NamedAfter paths result.functions) ∧
    ∀ verbosity request functions,
      (workspace.compilePaths verbosity request).outcome = .ok functions →
        ∃ paths, request.paths.mapM workspace.promptsAt = .ok paths ∧
          NamedAfter paths.flatten functions := by
  constructor
  · intro folder options result succeeded
    obtain ⟨⟨paths, files, ⟨found, each⟩, named⟩, -⟩ :=
      (compileFolder_allOrNothing workspace folder options).2 result succeeded
    exact ⟨paths, found, named ▸ namedAfter_of_compiled each⟩
  · intro verbosity request functions compiled
    obtain ⟨paths, files, ⟨found, each⟩, rfl⟩ := yields_of_compilePaths compiled
    cases collected : request.paths.mapM workspace.promptsAt with
    | error error => simp [Workspace.requestPlan, collected, Except.map] at found
    | ok groups =>
      simp only [Workspace.requestPlan, collected, Except.map, Except.ok.injEq] at found
      subst found
      exact ⟨groups, rfl, namedAfter_of_compiled each⟩

/-- A folder is compiled if all of its prompts are and the module can be written. -/
lemma exists_compileFolder {workspace : Workspace} {folder : Path} {options : FolderOptions}
    {paths : List Path} (found : workspace.promptFiles folder = .ok paths)
    (compiled : (workspace.compileFiles (workspace.folderPlan folder options).overrides paths).isOk =
      true)
    (writes : ∀ content, (workspace.tree.writeModule (workspace.folderPlan folder options).folder
      (workspace.folderPlan folder options).language content).2.isOk = true) :
    ∃ result, (workspace.compileFolder folder options).2 = .ok result := by
  cases all : workspace.compileFiles (workspace.folderPlan folder options).overrides paths with
  | error failure => simp [all, Except.isOk, Except.toBool] at compiled
  | ok files =>
    have yields := ModulePlan.yields_of_compileFiles found all
    have written := writes ((workspace.folderPlan folder options).text
      (files.map CompiledFile.function))
    rw [compileFolder_of_yields yields, ModulePlan.write]
    dsimp only
    split
    · next failed => simp [failed, Except.isOk, Except.toBool] at written
    · exact ⟨_, rfl⟩

/-- Two prompts in a folder, of the given names. -/
def twoPrompts (first second : Text) : Workspace :=
  ⟨⟨[([['p']], .folder), ([['p'], first], .file (encodeText ['a'])),
    ([['p'], second], .file (encodeText ['b']))]⟩, .silent⟩

/-- The folder is compiled into itself. -/
def intoFolder : FolderOptions :=
  ⟨some ['p'], none, none, .flag false⟩

/-- The keys of `foo_bar` and `get-foo` are `FooBar` and `Foo`. -/
theorem functions_namedAfter_getFoo :
    ∃ result, ((twoPrompts "foo_bar.glass".toList "get-foo.glass".toList).compileFolder ⟨[], [['p']]⟩
        intoFolder).2 = .ok result ∧
      (result.functions.map PromptFunction.exportName).Nodup ∧
      result.functions.map PromptFunction.functionName = ["getFooBar".toList, "getFoo".toList] := by
  have found : (twoPrompts "foo_bar.glass".toList "get-foo.glass".toList).promptFiles ⟨[], [['p']]⟩ =
      .ok [⟨[], [['p'], "foo_bar.glass".toList]⟩, ⟨[], [['p'], "get-foo.glass".toList]⟩] :=
    @promptFiles_of_sorted (twoPrompts _ _) ⟨[], [['p']]⟩ [['p']]
      [["foo_bar.glass".toList], ["get-foo.glass".toList]] (by decide +kernel) (by decide +kernel)
      (by decide +kernel) (by decide +kernel)
  obtain ⟨result, succeeded⟩ := @exists_compileFolder _ _ intoFolder _ found (by decide +kernel)
    (fun content => rfl)
  obtain ⟨paths, again, named⟩ := (functions_namedAfter _).1 _ _ _ succeeded
  obtain rfl := Except.ok.inj (found.symm.trans again)
  refine ⟨result, succeeded, named.distinct.2 (by decide +kernel), ?_⟩
  rw [named.functionNames]
  decide +kernel

/-- The prompts `foo.glass` and `get-foo.glass` of one folder get the same names. -/
theorem not_distinctNames_getFoo : ¬ ∀ (workspace : Workspace) folder options result,
    (workspace.compileFolder folder options).2 = .ok result →
      (result.functions.map PromptFunction.exportName).Nodup := by
  intro distinct
  have found : (twoPrompts "foo.glass".toList "get-foo.glass".toList).promptFiles ⟨[], [['p']]⟩ =
      .ok [⟨[], [['p'], "foo.glass".toList]⟩, ⟨[], [['p'], "get-foo.glass".toList]⟩] :=
    @promptFiles_of_sorted (twoPrompts _ _) ⟨[], [['p']]⟩ [['p']]
      [["foo.glass".toList], ["get-foo.glass".toList]] (by decide +kernel) (by decide +kernel)
      (by decide +kernel) (by decide +kernel)
  obtain ⟨result, succeeded⟩ := @exists_compileFolder _ _ intoFolder _ found (by decide +kernel)
    (fun content => rfl)
  obtain ⟨⟨paths, files, ⟨again, each⟩, named⟩, -⟩ :=
    (compileFolder_allOrNothing _ _ _).2 result succeeded
  obtain rfl := Except.ok.inj (found.symm.trans again)
  have names := (namedAfter_of_compiled each).distinct
  rw [← named] at names
  exact absurd (names.1 (distinct _ _ _ _ succeeded)) (by decide +kernel)

end GlassPrompt
