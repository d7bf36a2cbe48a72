import GlassPrompt.Markup.Tag

/-!
# The blocks of a document

A document is a list of blocks.  Roles and loops contain further blocks.  Every block knows the span
of the document that it was read from.

* `Span`, `Block` — blocks with their spans.
* `Block.walk`, `walkBlocks` — every block, a container before its children.
* `hoistedSources`, `hasRoles`, `requestBlocks` — what is found on that walk.
-/

namespace GlassPrompt

/-! ## Blocks -/

/-- A part of a document, from offset `start` up to `stop`. -/
structure Span where
  start : Nat
  stop : Nat
  deriving DecidableEq, Repr

/-- A block of a document. -/
inductive Block where
  /-- Literal text. -/
  | text (text : Text) (span : Span)
  /-- An expression. -/
  | interpolation (source : Text) (span : Span)
  /-- Statements that stand for the value they return. -/
  | code (source : Text) (span : Span)
  /-- Statements that are put ahead of the template. -/
  | hoisted (source : Text) (span : Span)
  /-- Settings of the request. -/
  | request (attributes : Attributes) (source : Text) (span : Span)
  /-- What one role says. -/
  | role (role : Role) (openTag closeTag : Text) (children : List Block) (span : Span)
  /-- Blocks for every `item` of `each`. -/
  | loop (each item openTag closeTag : Text) (children : List Block) (span : Span)
  deriving Repr

/-- The span of a block. -/
def Block.span : Block → Span
  | .text _ span => span
  | .interpolation _ span => span
  | .code _ span => span
  | .hoisted _ span => span
  | .request _ _ span => span
  | .role _ _ _ _ span => span
  | .loop _ _ _ _ _ span => span

/-- The blocks that a block contains. -/
def Block.children : Block → List Block
  | .role _ _ _ children _ => children
  | .loop _ _ _ _ children _ => children
  | _ => []

mutual

/-- A block and all blocks inside it, each before what it contains. -/
def Block.walk : Block → List Block
  | .role r openTag closeTag children span =>
    .role r openTag closeTag children span :: walkBlocks children
  | .loop each item openTag closeTag children span =>
    .loop each item openTag closeTag children span :: walkBlocks children
  | block => [block]

/-- All blocks of a list and all blocks inside them, in document order. -/
def walkBlocks : List Block → List Block
  | [] => []
  | block :: rest => block.walk ++ walkBlocks rest

end

/-! ## What is found on the walk -/

/-- The source of a block of hoisted code. -/
def Block.hoistedSource? : Block → Option Text
  | .hoisted source _ => some source
  | _ => none

/-- The block is a role. -/
def Block.isRole : Block → Bool
  | .role .. => true
  | _ => false

/-- The block is a request. -/
def Block.isRequest : Block → Bool
  | .request .. => true
  | _ => false

/-- The sources of all hoisted code. -/
def hoistedSources (blocks : List Block) : List Text :=
  (walkBlocks blocks).filterMap Block.hoistedSource?

/-- Somebody speaks somewhere in the blocks. -/
def hasRoles (blocks : List Block) : Bool :=
  (walkBlocks blocks).any Block.isRole

/-- All requests. -/
def requestBlocks (blocks : List Block) : List Block :=
  (walkBlocks blocks).filter Block.isRequest

theorem walkBlocks_append (first second : List Block) :
    walkBlocks (first ++ second) = walkBlocks first ++ walkBlocks second := by
  induction first with
  | nil => rfl
  | cons block rest ih => simp [walkBlocks, ih]

end GlassPrompt
