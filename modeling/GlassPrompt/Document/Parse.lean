import GlassPrompt.Document.Builder
import GlassPrompt.Frontmatter.Split

/-!
# Reading a document

A document is its frontmatter, the import statements that follow it, and its content.

* `Document` — a document that has been read.
* `Document.parse` — reads one; only its frontmatter can be wrong in a way that stops the reading.
-/

namespace GlassPrompt

/-- A document that has been read. -/
structure Document where
  source : Text
  /-- The arguments that the frontmatter declares. -/
  declarations : List Declaration
  /-- Where the text behind the frontmatter starts. -/
  bodyOffset : Nat
  /-- Where the text behind the leading import statements starts. -/
  contentStart : Nat
  blocks : List Block
  /-- The leading import statements, then those of hoisted code. -/
  imports : List ImportStatement
  issues : List Issue
  deriving Repr

namespace Document

/-- The text behind the frontmatter. -/
def body (document : Document) : Text :=
  document.source.drop document.bodyOffset

/-- The names that the import statements bind. -/
def importedNames (document : Document) : List Text :=
  document.imports.flatMap ImportStatement.names

/-- The sources of the hoisted code. -/
def hoisted (document : Document) : List Text :=
  hoistedSources document.blocks

/-- The document is a chat: some role speaks in it. -/
def isChat (document : Document) : Bool :=
  hasRoles document.blocks

/-- The settings of the first request. -/
def request? (document : Document) : Option RequestSettings :=
  match requestBlocks document.blocks with
  | .request attributes _ _ :: _ => some (.ofAttributes attributes)
  | _ => none

/-- Reads a document. -/
def parse (source : Text) : Except FrontmatterError Document :=
  (splitFrontmatter source).map fun frontmatter =>
    let body := source.drop frontmatter.bodyOffset
    let (imports, content) := liftImports body
    let contentStart := frontmatter.bodyOffset + (body.length - content.length)
    let state := build source contentStart
    { source
      declarations := frontmatter.declarations
      bodyOffset := frontmatter.bodyOffset
      contentStart
      blocks := state.blocks
      imports := imports ++ state.imports
      issues := state.issues }

end Document

end GlassPrompt
