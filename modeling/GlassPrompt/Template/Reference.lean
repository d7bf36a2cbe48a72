import GlassPrompt.Document.Parse
import GlassPrompt.Script.Declared

/-!
# References to arguments

An expression that is a name, or a path of members behind a name, refers to that name.  It refers to
an argument of the prompt unless the name is bound by an import, by hoisted code or by a loop around
it.

* `referenceRoot?` — the name that an expression refers to.
* `Reference`, `Document.references` — the references to arguments, in document order.
* `Document.inferredArguments` — the arguments that a document without declarations needs.
* `Document.undeclared` — the references that the declarations do not cover.
-/

namespace GlassPrompt

/-! ## The name that an expression refers to -/

/-- The words that look like names and name no argument. -/
def notArguments : List Text :=
  ["true".toList, "false".toList, "null".toList, "undefined".toList, "this".toList, "NaN".toList,
    "Infinity".toList]

/-- What follows a member access `.` or `?.`. -/
def skipAccess? : Text → Option Text
  | '.' :: rest => some rest
  | '?' :: '.' :: rest => some rest
  | _ => none

theorem length_of_skipAccess? {text rest : Text} (h : skipAccess? text = some rest) :
    rest.length < text.length := by
  unfold skipAccess? at h
  split at h
  · obtain rfl := Option.some.inj h
    simp
  · obtain rfl := Option.some.inj h
    simp only [List.length_cons]
    omega
  · simp at h

/-- A sequence of member accesses, and nothing else. -/
def isMemberPath (text : Text) : Bool :=
  match _h : skipAccess? text with
  | none => text.isEmpty
  | some member =>
    match _h' : Text.readIdentifier? member with
    | none => false
    | some (_, rest) => isMemberPath rest
termination_by text.length
decreasing_by
  exact Nat.lt_trans (Text.length_of_readIdentifier? _h') (length_of_skipAccess? _h)

/-- The name that an expression refers to, if it is a name or a path of members behind one. -/
def referenceRoot? (expression : Text) : Option Text :=
  match Text.readIdentifier? (Text.trim expression) with
  | none => none
  | some (name, rest) =>
    if isMemberPath rest && !notArguments.contains name then some name else none

/-! ## References in blocks -/

/-- A reference to the argument `name`; `iterated` tells whether a loop runs over it. -/
structure Reference where
  name : Text
  iterated : Bool
  span : Span
  deriving DecidableEq, Repr

/-- The reference of an expression, unless its name is bound. -/
def referenceOf (bound : List Text) (expression : Text) (iterated : Bool) (span : Span) :
    List Reference :=
  match referenceRoot? expression with
  | none => []
  | some name => if bound.contains name then [] else [⟨name, iterated, span⟩]

mutual

/-- The references of a block, where the names `bound` are bound around it. -/
def Block.references (bound : List Text) : Block → List Reference
  | .interpolation source span => referenceOf bound source false span
  | .role _ _ _ children _ => referencesOf bound children
  | .loop each item _ _ children span =>
    referenceOf bound each true span ++ referencesOf (item :: bound) children
  | _ => []

/-- The references of a list of blocks, in order. -/
def referencesOf (bound : List Text) : List Block → List Reference
  | [] => []
  | block :: rest => block.references bound ++ referencesOf bound rest

end

/-! ## Arguments of a document -/

namespace Document

/-- The names that imports and hoisted code bind in the whole document. -/
def boundNames (document : Document) : List Text :=
  document.importedNames ++ document.hoisted.flatMap declaredNames

/-- The references to arguments, in document order. -/
def references (document : Document) : List Reference :=
  referencesOf document.boundNames document.blocks

/-- The type of an argument without a declaration: a list if some loop runs over it. -/
def inferredType (references : List Reference) (name : Text) : Text :=
  if references.any fun reference => reference.name == name && reference.iterated then
    "any[]".toList
  else "string".toList

/-- The arguments that the references need, each once, in the order of their first reference. -/
def inferredArguments (document : Document) : List Declaration :=
  ((document.references.map Reference.name).eraseDups).map fun name =>
    ⟨name, inferredType document.references name⟩

/-- The arguments of the prompt: the declared ones, or those that the references need. -/
def arguments (document : Document) : List Declaration :=
  if document.declarations.isEmpty then document.inferredArguments else document.declarations

/-- The first reference to each name that is not in `known`. -/
def firstReferences (known : List Text) : List Reference → List Reference
  | [] => []
  | reference :: rest =>
    if known.contains reference.name then firstReferences known rest
    else reference :: firstReferences (reference.name :: known) rest

/-- The issues of names that are used and not declared, one for each name; a document that declares
nothing has none. -/
def undeclared (document : Document) : List Issue :=
  if document.declarations.isEmpty then []
  else (firstReferences (document.declarations.map Declaration.name) document.references).map
    fun reference => ⟨.undeclared reference.name, reference.span⟩

/-- All issues of the document. -/
def allIssues (document : Document) : List Issue :=
  document.issues ++ document.undeclared

end Document

end GlassPrompt
