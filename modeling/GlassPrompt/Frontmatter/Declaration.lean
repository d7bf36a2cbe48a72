import GlassPrompt.ErrorText

/-!
# Argument declarations

A line `name: type` declares an argument.  Names and types are ASCII identifiers, a type may be
followed by `[]`, and spaces and tabs between them do not matter.

* `Declaration` — a name with its type.
* `isValidType` — the six primitive types and the arrays of them.
* `readDeclaration?` — the declaration in a line.
* `FrontmatterError` — what is wrong with which line.
* `readDeclarations` — all declarations of a block, or the first error.
-/

namespace GlassPrompt

/-! ## Names and types -/

/-- An argument and its type. -/
structure Declaration where
  name : Text
  type : Text
  deriving DecidableEq, Repr

/-- The types that an argument may have. -/
def primitiveTypes : List Text :=
  ["string".toList, "number".toList, "boolean".toList, "object".toList, "any".toList,
    "unknown".toList]

/-- The mark of an array type. -/
def arrayMark : Text :=
  ['[', ']']

/-- A primitive type, or an array of one. -/
def isValidType (type : Text) : Bool :=
  primitiveTypes.any fun base => type == base || type == base ++ arrayMark

/-- The characters that a declared name goes on with. -/
def isDeclaredRest (c : Char) : Bool :=
  c.isAlphanum || c == '_'

/-- The longest ASCII identifier at the head of a text, with what follows it. -/
def readDeclaredName? : Text → Option (Text × Text)
  | [] => none
  | c :: rest =>
    if c.isAlpha || c == '_' then
      some (c :: rest.takeWhile isDeclaredRest, rest.dropWhile isDeclaredRest)
    else none

/-- A text without the spaces and tabs at its start. -/
def skipIndent (text : Text) : Text :=
  text.dropWhile isIndent

/-- The type that a text holds, and nothing else. -/
def readType? (text : Text) : Option Text :=
  match readDeclaredName? text with
  | none => none
  | some (base, rest) =>
    match skipIndent rest with
    | [] => some base
    | ['[', ']'] => some (base ++ arrayMark)
    | _ => none

/-- The declaration in a line without blanks at its ends. -/
def readDeclaration? (line : Text) : Option Declaration :=
  match readDeclaredName? line with
  | none => none
  | some (name, rest) =>
    match skipIndent rest with
    | ':' :: type => (readType? (skipIndent type)).map fun type => ⟨name, type⟩
    | _ => none

/-! ## Errors -/

/-- What can be wrong with a frontmatter block. -/
inductive FrontmatterFault where
  | notClosed
  | notADeclaration
  | unknownType (type name : Text)
  | repeatedName (name : Text)
  deriving DecidableEq, Repr

/-- The message of a fault. -/
def FrontmatterFault.message : FrontmatterFault → Text
  | .notClosed => "Frontmatter block is not closed".toList
  | .notADeclaration => "Expected a `name: type` declaration".toList
  | .unknownType type name =>
    "Unknown type '".toList ++ type ++ "' for variable '".toList ++ name ++ "'".toList
  | .repeatedName name => "Variable '".toList ++ name ++ "' is declared more than once".toList

/-- A fault in a numbered line; the line is kept as it is written. -/
structure FrontmatterError where
  fault : FrontmatterFault
  lineNumber : Int
  line : Text
  deriving DecidableEq, Repr

/-- The text of the error. -/
def FrontmatterError.text (error : FrontmatterError) : Text :=
  lineErrorText error.fault.message (some error.lineNumber) (some error.line)

/-! ## Reading a block -/

/-- The declaration of a line that is not blank, where `names` are declared already. -/
def checkDeclaration (names : List Text) (line : Text) : Except FrontmatterFault Declaration :=
  match readDeclaration? (Text.trim line) with
  | none => .error .notADeclaration
  | some declaration =>
    if !isValidType declaration.type then
      .error (.unknownType declaration.type declaration.name)
    else if names.contains declaration.name then .error (.repeatedName declaration.name)
    else .ok declaration

/-- The declarations of lines numbered from `number` on, where `names` are declared already; blank
lines count but declare nothing. -/
def readDeclarationsFrom (names : List Text) (number : Int) :
    List Text → Except FrontmatterError (List Declaration)
  | [] => .ok []
  | line :: rest =>
    if Text.isBlankText line then readDeclarationsFrom names (number + 1) rest
    else match checkDeclaration names line with
      | .error fault => .error ⟨fault, number, line⟩
      | .ok declaration =>
        (readDeclarationsFrom (declaration.name :: names) (number + 1) rest).map (declaration :: ·)

/-- The declarations of lines numbered from `first` on. -/
def readDeclarations (first : Int) (lines : List Text) :
    Except FrontmatterError (List Declaration) :=
  readDeclarationsFrom [] first lines

end GlassPrompt
