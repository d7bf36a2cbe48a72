import GlassPrompt.Template.Part

/-!
# Numbering the slots of a template

Every slot gets the next number.  If slots are shared, an occurrence that is no loop takes the number
of the first one with the same source.

* `Entry` — a number with what it stands for.
* `placeEntry` — the number of one occurrence.
* `Piece`, `numberParts` — a template with numbers in its slots.
* `Template` — a numbered template with its entries, and `Template.text`, which writes a number in
  braces.
-/

namespace GlassPrompt

/-! ## Entries -/

/-- A number and what it stands for. -/
structure Entry where
  index : Nat
  occurrence : Occurrence
  deriving Repr

/-- The entry that an occurrence may share: neither is a loop, and the sources are the same. -/
def sharedEntry? (entries : List Entry) (occurrence : Occurrence) : Option Entry :=
  if occurrence.isLoop then none
  else entries.find? fun entry =>
    !entry.occurrence.isLoop && entry.occurrence.source == occurrence.source

/-- The number of an occurrence, and the entries after it; `share` tells whether slots are shared. -/
def placeEntry (share : Bool) (entries : List Entry) (occurrence : Occurrence) : Nat × List Entry :=
  match if share then sharedEntry? entries occurrence else none with
  | some entry => (entry.index, entries)
  | none => (entries.length, entries ++ [⟨entries.length, occurrence⟩])

/-! ## Numbered parts -/

/-- A part of a template with numbered slots. -/
inductive Piece where
  | literal (text : Text)
  | slot (index : Nat)
  deriving DecidableEq, Repr

/-- How a number is written in a template. -/
def placeholder (index : Nat) : Text :=
  '\x7b' :: Text.ofNat index ++ ['\x7d']

/-- The text of a piece. -/
def Piece.text : Piece → Text
  | .literal text => text
  | .slot index => placeholder index

/-- The text of a list of pieces. -/
def piecesText (pieces : List Piece) : Text :=
  pieces.flatMap Piece.text

/-- Numbers the slots of a list of parts, where `entries` are placed already. -/
def numberParts (share : Bool) (entries : List Entry) : List Part → List Piece × List Entry
  | [] => ([], entries)
  | .literal text :: rest =>
    let (pieces, entries) := numberParts share entries rest
    (.literal text :: pieces, entries)
  | .slot occurrence :: rest =>
    let (index, entries) := placeEntry share entries occurrence
    let (pieces, entries) := numberParts share entries rest
    (.slot index :: pieces, entries)

/-- A template with numbered slots. -/
structure Template where
  pieces : List Piece
  entries : List Entry
  deriving Repr

namespace Template

/-- The template of a list of blocks. -/
def ofBlocks (share : Bool) (blocks : List Block) : Template :=
  let (pieces, entries) := numberParts share [] (partsOf blocks)
  ⟨pieces, entries⟩

/-- The text of the template. -/
def text (template : Template) : Text :=
  piecesText template.pieces

/-- The entries that are evaluated once. -/
def interpolations (template : Template) : List Entry :=
  template.entries.filter (!·.occurrence.isLoop)

/-- The entries of loops. -/
def loops (template : Template) : List Entry :=
  template.entries.filter (·.occurrence.isLoop)

end Template

end GlassPrompt
