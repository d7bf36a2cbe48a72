import GlassPrompt.Proofs.Script.Emitted

/-!
# The names in the scope of a function

A function declares its parameter, its arguments, three constants and whatever its hoisted code
declares, all in one scope, where no name may be declared twice.  The arguments have distinct names,
and an argument that is inferred is never a name of hoisted code.  But nothing keeps arguments
from the parameter and the constants, or declared arguments from the names of hoisted code.

* `functionNames`, `Document.scopeNames` — the names in the scope that are no arguments.
* `unbound_of_blocks` — what is bound around a reference is not what it refers to.
* `nodup_arguments` — the arguments of a document that is read have distinct names.
* `DeclaresScope` — the text of a function that declares these names.
* `arguments_apart_iff` — when no argument clashes with another name in the scope.
* `not_arguments_apart` — a document with an argument that does.
-/

namespace GlassPrompt

/-! ## Names that are no arguments -/

/-- The parameter of every function. -/
def parameterName : Text :=
  "args".toList

/-- The constants of every function. -/
def constantNames : List Text :=
  ["interpolations".toList, "kshots".toList, "TEMPLATE".toList]

/-- The names that every function declares. -/
def functionNames : List Text :=
  parameterName :: constantNames

namespace Document

/-- The names that hoisted code declares. -/
def hoistedNames (document : Document) : List Text :=
  document.hoisted.flatMap declaredNames

/-- The names that the function of a document declares beside its arguments. -/
def scopeNames (document : Document) : List Text :=
  functionNames ++ document.hoistedNames

end Document

/-! ## Inferred arguments -/

lemma unbound_of_referenceOf {bound : List Text} {expression : Text} {iterated : Bool} {span : Span} :
    ∀ reference ∈ referenceOf bound expression iterated span, reference.name ∉ bound := by
  intro reference member
  unfold referenceOf at member
  split at member
  · exact nomatch member
  · split at member
    · exact nomatch member
    · next unbound =>
      obtain rfl := List.mem_singleton.1 member
      exact fun isBound => unbound (List.contains_iff_mem.2 isBound)

mutual

lemma unbound_of_block (bound : List Text) : (block : Block) →
    ∀ reference ∈ block.references bound, reference.name ∉ bound
  | .text .. | .code .. | .hoisted .. | .request .. => nofun
  | .interpolation source span => unbound_of_referenceOf
  | .role _ _ _ children _ => unbound_of_blocks bound children
  | .loop each item _ _ children span => by
    rw [Block.references]
    refine List.forall_mem_append.2 ⟨unbound_of_referenceOf, fun reference member isBound => ?_⟩
    exact unbound_of_blocks (item :: bound) children reference member
      (List.mem_cons_of_mem item isBound)

/-- **What is bound around a reference is not what it refers to.** -/
lemma unbound_of_blocks (bound : List Text) : (blocks : List Block) →
    ∀ reference ∈ referencesOf bound blocks, reference.name ∉ bound
  | [] => nofun
  | block :: rest => by
    rw [referencesOf]
    exact List.forall_mem_append.2 ⟨unbound_of_block bound block, unbound_of_blocks bound rest⟩

end

lemma nodup_eraseDups {α : Type} [BEq α] [LawfulBEq α] : (list : List α) → list.eraseDups.Nodup
  | [] => List.nodup_nil
  | a :: rest => by
    rw [List.eraseDups_cons, List.nodup_cons, List.mem_eraseDups]
    exact ⟨by simp, nodup_eraseDups _⟩
termination_by list => list.length
decreasing_by exact Nat.lt_succ_of_le (List.length_filter_le _ _)

lemma names_inferredArguments (document : Document) :
    document.inferredArguments.map Declaration.name =
      (document.references.map Reference.name).eraseDups := by
  rw [Document.inferredArguments, List.map_map]
  exact List.map_id _

/-- **An inferred argument is not a name that hoisted code declares**, nor one that is imported. -/
theorem unbound_of_inferred (document : Document) :
    ∀ argument ∈ document.inferredArguments, argument.name ∉ document.boundNames := by
  intro argument member
  have name := List.mem_map_of_mem (f := Declaration.name) member
  rw [names_inferredArguments, List.mem_eraseDups] at name
  obtain ⟨reference, known, same⟩ := List.mem_map.1 name
  exact same ▸ unbound_of_blocks _ _ reference known

/-! ## Declared arguments -/

lemma new_of_checkDeclaration {names : List Text} {line : Text} {declaration : Declaration}
    (checked : checkDeclaration names line = .ok declaration) : declaration.name ∉ names := by
  unfold checkDeclaration at checked
  split at checked
  · exact nomatch checked
  · split at checked
    · exact nomatch checked
    · split at checked
      · exact nomatch checked
      · next new =>
        obtain rfl := Except.ok.inj checked
        exact fun member => new (List.contains_iff_mem.2 member)

/-- The declarations of a block have names that are new, each of them once. -/
lemma nodup_of_readDeclarationsFrom {names : List Text} {number : Int} {lines : List Text}
    {declarations : List Declaration}
    (read : readDeclarationsFrom names number lines = .ok declarations) :
    (declarations.map Declaration.name).Nodup ∧
      ∀ declaration ∈ declarations, declaration.name ∉ names := by
  induction lines generalizing names number declarations with
  | nil =>
    obtain rfl := Except.ok.inj read
    exact ⟨List.nodup_nil, nofun⟩
  | cons line rest ih =>
    rw [readDeclarationsFrom] at read
    split at read
    · exact ih read
    · split at read
      · exact nomatch read
      · next declaration checked =>
        cases later : readDeclarationsFrom (declaration.name :: names) (number + 1) rest with
        | error e =>
          rw [later] at read
          exact nomatch read
        | ok others =>
          rw [later] at read
          obtain rfl := Except.ok.inj read
          obtain ⟨distinct, new⟩ := ih later
          refine ⟨List.nodup_cons.2 ⟨fun member => ?_, distinct⟩, List.forall_mem_cons.2
            ⟨new_of_checkDeclaration checked, fun other member isKnown => ?_⟩⟩
          · obtain ⟨other, known, same⟩ := List.mem_map.1 member
            exact new other known (same ▸ List.mem_cons_self)
          · exact new other member (List.mem_cons_of_mem _ isKnown)

lemma nodup_declarations {source : Text} {document : Document}
    (parsed : Document.parse source = .ok document) :
    (document.declarations.map Declaration.name).Nodup := by
  obtain ⟨frontmatter, split, rfl⟩ := eq_of_parse parsed
  show (frontmatter.declarations.map Declaration.name).Nodup
  unfold splitFrontmatter at split
  split at split
  · obtain rfl := Except.ok.inj split
    exact List.nodup_nil
  · split at split
    · obtain rfl := Except.ok.inj split
      exact List.nodup_nil
    · next first lines _ =>
      split at split
      · exact nomatch split
      · next count _ =>
        cases read : readDeclarations 2 (lines.take count) with
        | error e =>
          rw [read] at split
          exact nomatch split
        | ok declarations =>
          rw [read] at split
          obtain rfl := Except.ok.inj split
          exact (nodup_of_readDeclarationsFrom read).1

/-- **The arguments of a document have distinct names**, declared or inferred. -/
theorem nodup_arguments {source : Text} {document : Document}
    (parsed : Document.parse source = .ok document) :
    (document.arguments.map Declaration.name).Nodup := by
  unfold Document.arguments
  split
  · rw [names_inferredArguments]
    exact nodup_eraseDups _
  · exact nodup_declarations parsed

/-! ## The text of the function -/

/-- The line that takes the arguments out of the parameter. -/
def argumentsLine (arguments : List Declaration) : Text :=
  "  const \x7b ".toList ++ commaList (arguments.map Declaration.name) ++ " \x7d = args\n".toList

/-- The text declares the parameter and the arguments, if there are any, the names of hoisted code and
the constants. -/
structure DeclaresScope (document : Document) (text : Text) : Prop where
  parameter : document.arguments ≠ [] → '(' :: parameterName <:+: text
  arguments : document.arguments ≠ [] → argumentsLine document.arguments <:+: text
  hoisted : linesText (document.hoisted.flatMap hoistedLines) <:+: text
  constants : ∀ name ∈ constantNames, "\n  const ".toList ++ name ++ " =".toList <:+: text

lemma parameter_infix_signature (width : Int) (typed : Bool) (name : Text)
    {arguments : List Declaration} (nonempty : arguments ≠ []) :
    '(' :: parameterName <:+: signature width typed name arguments := by
  have someArguments : ¬ arguments.isEmpty = true := fun none =>
    nonempty (List.isEmpty_iff.1 none)
  have start {open_ : Text} (prefixed : '(' :: parameterName <+: open_) (head rest : Text) :
      '(' :: parameterName <:+: head ++ open_ ++ rest :=
    prefixed.isInfix.trans (List.infix_append head open_ rest)
  unfold signature
  dsimp only
  rw [if_neg someArguments]
  split
  · have whole := start (by decide : '(' :: parameterName <+: "(args) \x7b".toList)
      ("export function ".toList ++ name) []
    rwa [List.append_nil] at whole
  · split
    · rw [List.append_assoc _ (commaList _)]
      exact start (by decide) _ _
    · rw [List.append_assoc _ (List.flatMap _ _)]
      exact start (by decide) _ _

/-- What stands ahead of the constants ends a line. -/
lemma getLast?_linesText {front : Text} (ends : front.getLast? = some '\n') (lines : List Text) :
    (front ++ linesText lines).getLast? = some '\n' := by
  cases lines with
  | nil =>
    rw [linesText, List.flatMap_nil, List.append_nil]
    exact ends
  | cons line rest => rw [linesText_cons, ← List.append_assoc, List.getLast?_concat]

/-- The lines ahead of the constants: signature, arguments and hoisted code. -/
lemma getLast?_ahead (start : Text) (none : Bool) (names : Text) (lines : List Text) :
    (start ++ ['\n'] ++
      (if none then [] else "  const \x7b ".toList ++ names ++ " \x7d = args\n".toList) ++
      linesText lines).getLast? = some '\n' := by
  refine getLast?_linesText ?_ lines
  cases none with
  | true => exact (congrArg List.getLast? (List.append_nil _)).trans List.getLast?_concat
  | false =>
    rw [if_neg Bool.false_ne_true, List.getLast?_append, List.getLast?_append]
    rfl

/-- A line that starts with the declaration of a constant. -/
lemma constant_infix {name line : Text} (front : Text)
    (starts : "  const ".toList ++ name ++ " =".toList <+: line) :
    "\n  const ".toList ++ name ++ " =".toList <:+: front ++ ['\n'] ++ line := by
  obtain ⟨rest, rfl⟩ := starts
  exact ⟨front, rest, by simp⟩

lemma templateLine_starts (width : Int) (template : Text) :
    "  const ".toList ++ "TEMPLATE".toList ++ " =".toList <+: templateLine width template := by
  unfold templateLine
  dsimp only
  split
  · exact (by decide : _ <+: "  const TEMPLATE = ".toList).trans (List.prefix_append _ _)
  · exact (by decide : _ <+: "  const TEMPLATE =\n    ".toList).trans (List.prefix_append _ _)

/-- The constants behind lines that are given. -/
lemma constants_infix (front interpolations loops template : Text) (width : Int) :
    ∀ name ∈ constantNames, "\n  const ".toList ++ name ++ " =".toList <:+:
      front ++ ['\n'] ++ "  const interpolations = ".toList ++ interpolations ++
        "\n  const kshots = ".toList ++ loops ++ ['\n'] ++ templateLine width template := by
  have first : "  const ".toList ++ "interpolations".toList ++ " =".toList <+:
      "  const interpolations = ".toList := ⟨[' '], rfl⟩
  have second : "\n  const ".toList ++ "kshots".toList ++ " =".toList <+:
      "\n  const kshots = ".toList := ⟨[' '], rfl⟩
  refine List.forall_mem_cons.2 ⟨?_, List.forall_mem_cons.2 ⟨?_, List.forall_mem_singleton.2 ?_⟩⟩
  · iterate 5 refine List.infix_append_of_infix_left ?_
    exact constant_infix front first
  · iterate 3 refine List.infix_append_of_infix_left ?_
    exact second.isInfix.trans List.infix_append_right
  · exact constant_infix _ (templateLine_starts width template)

/-- **The function declares the names in its scope.** -/
lemma declaresScope (document : Document) (options : CompileOptions) :
    DeclaresScope document (document.functionText options) := by
  constructor
  · intro nonempty
    refine (parameter_infix_signature options.printWidth options.typed
      (exportedName options.fileName) nonempty).trans ?_
    unfold Document.functionText
    dsimp only
    repeat first
      | with_reducible exact List.infix_append_left
      | refine List.infix_append_of_infix_left ?_
  · intro nonempty
    have someArguments : ¬ document.arguments.isEmpty = true := fun none =>
      nonempty (List.isEmpty_iff.1 none)
    unfold Document.functionText argumentsLine
    dsimp only
    rw [if_neg someArguments]
    repeat first
      | with_reducible exact List.infix_append_right
      | refine List.infix_append_of_infix_left ?_
  · exact (infix_functionText document options).1
  · obtain ⟨front, ahead⟩ := List.getLast?_eq_some_iff.1 (getLast?_ahead
      (signature options.printWidth options.typed (exportedName options.fileName)
        document.arguments)
      document.arguments.isEmpty (commaList (document.arguments.map Declaration.name))
      (document.hoisted.flatMap hoistedLines))
    intro name member
    unfold Document.functionText
    dsimp only
    rw [ahead]
    iterate 5 refine List.infix_append_of_infix_left ?_
    exact constants_infix front _ _ _ _ name member

/-! ## Clashes -/

namespace Document

variable {document : Document}

lemma mem_arguments {argument : Declaration} (member : argument ∈ document.arguments) :
    argument ∈ document.declarations ∨ argument ∈ document.inferredArguments := by
  unfold arguments at member
  split at member
  · exact .inr member
  · exact .inl member

lemma declarations_subset_arguments : document.declarations ⊆ document.arguments := by
  intro declaration member
  unfold arguments
  rwa [if_neg fun none => List.ne_nil_of_mem member (List.isEmpty_iff.1 none)]

end Document

/-- **When no argument clashes with another name in the scope** of its function: if none is named like
the parameter or a constant, and no declared one like a name of hoisted code.  For inferred arguments
the names of hoisted code never matter, and all arguments have names of their own. -/
theorem arguments_apart_iff {source : Text} {document : Document}
    (parsed : Document.parse source = .ok document) (options : CompileOptions) :
    DeclaresScope document (document.compile options).functionCode ∧
      ((document.compile options).arguments.map Declaration.name).Nodup ∧
      ((∀ argument ∈ (document.compile options).arguments, argument.name ∉ document.scopeNames) ↔
        (∀ argument ∈ (document.compile options).arguments, argument.name ∉ functionNames) ∧
          ∀ declaration ∈ document.declarations, declaration.name ∉ document.hoistedNames) := by
  refine ⟨declaresScope document options, nodup_arguments parsed, ?_, ?_⟩
  · intro apart
    refine ⟨fun argument member isFixed => ?_, fun declaration member isHoisted => ?_⟩
    · exact apart argument member (List.mem_append_left _ isFixed)
    · exact apart declaration (Document.declarations_subset_arguments member)
        (List.mem_append_right _ isHoisted)
  · rintro ⟨noFixed, noHoisted⟩ argument member inScope
    rcases List.mem_append.1 inScope with isFixed | isHoisted
    · exact noFixed argument member isFixed
    · rcases Document.mem_arguments member with declared | inferred
      · exact noHoisted argument declared isHoisted
      · exact unbound_of_inferred document argument inferred (List.mem_append_right _ isHoisted)

/-- Code that declares a name, which is no argument then, beside an argument. -/
theorem arguments_apart_iff_hoisted : ∃ document,
    Document.parse "<Code>\nconst x = 1\n</Code>\x7bx\x7d\x7by\x7d".toList = .ok document ∧
      document.hoistedNames = [['x']] ∧ ∀ options : CompileOptions,
        ∀ argument ∈ (document.compile options).arguments, argument.name ∉ document.scopeNames := by
  have computed : (Document.parse "<Code>\nconst x = 1\n</Code>\x7bx\x7d\x7by\x7d".toList).map
      (fun document => (document.hoistedNames, document.declarations, document.arguments)) =
      .ok ([['x']], [], [⟨['y'], "string".toList⟩]) := by decide +kernel
  obtain ⟨document, parsed, names⟩ := exists_parse computed
  obtain ⟨hoisted, both⟩ := Prod.mk.inj names
  obtain ⟨declarations, arguments⟩ := Prod.mk.inj both
  refine ⟨document, parsed, hoisted, fun options => ?_⟩
  refine (arguments_apart_iff parsed options).2.2.2 ⟨?_, ?_⟩
  · show ∀ argument ∈ document.arguments, argument.name ∉ functionNames
    rw [arguments, List.forall_mem_singleton]
    decide
  · rw [declarations]
    exact nofun

/-- An argument may be named like the parameter: here the function declares `args` twice. -/
theorem not_arguments_apart : ¬ ∀ source document, Document.parse source = .ok document →
    ∀ (options : CompileOptions), ∀ argument ∈ (document.compile options).arguments,
      argument.name ∉ document.scopeNames := by
  intro apart
  have computed : (Document.parse "\x7bargs.x\x7d \x7bx\x7d".toList).map Document.arguments =
      .ok [⟨parameterName, "string".toList⟩, ⟨['x'], "string".toList⟩] := by decide +kernel
  obtain ⟨document, parsed, arguments⟩ := exists_parse computed
  have member : ⟨parameterName, "string".toList⟩ ∈ document.arguments :=
    arguments ▸ List.mem_cons_self
  exact apart _ document parsed ⟨"foo".toList, true, false, 100⟩ _ member
    (List.mem_append_left _ List.mem_cons_self)

end GlassPrompt
