import GlassPrompt.Frontmatter.Declaration

/-!
# The frontmatter block

A document may open with a block of declarations between two lines `---`.

* `hasFrontmatter` — the document opens with such a line.
* `Frontmatter` — the declarations, and the offset where the body of the document starts.
* `splitFrontmatter` — the frontmatter of a document.
-/

namespace GlassPrompt

/-- A line of three hyphens, with blanks behind it or not. -/
def isDelimiter (line : Text) : Bool :=
  Text.trimEnd line == ['-', '-', '-']

/-- The first line of the document opens a frontmatter block. -/
def hasFrontmatter (text : Text) : Bool :=
  isDelimiter (text.takeWhile (· != '\n'))

/-- The declared arguments, in order, and where the body starts. -/
structure Frontmatter where
  declarations : List Declaration
  bodyOffset : Nat
  deriving DecidableEq, Repr

/-- The number of characters of lines that each end in a newline. -/
def spanOfLines (lines : List Text) : Nat :=
  lines.foldl (fun count line => count + line.length + 1) 0

/-- The frontmatter of a document; without a block nothing is declared and the body is the whole
document. -/
def splitFrontmatter (text : Text) : Except FrontmatterError Frontmatter :=
  if !hasFrontmatter text then .ok ⟨[], 0⟩
  else match Text.lines text with
    | [] => .ok ⟨[], 0⟩
    | first :: lines =>
      match lines.findIdx? isDelimiter with
      | none => .error ⟨.notClosed, 1, first⟩
      | some count =>
        (readDeclarations 2 (lines.take count)).map fun declarations =>
          ⟨declarations, min (spanOfLines (first :: lines.take (count + 1))) text.length⟩

end GlassPrompt
