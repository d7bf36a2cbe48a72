import GlassPrompt.Document.Issue
import GlassPrompt.Document.Literal
import GlassPrompt.Document.Request
import GlassPrompt.Import.Statement
import GlassPrompt.Markup.Pairing
import GlassPrompt.Markup.Token

/-!
# Building the blocks of a document

The tokens of a document are taken in one by one.  An opening tag opens a frame that collects what
follows.  A closing tag closes the innermost frame of its name, and with it every frame opened after
that one; a closing tag without a frame is literal text.  What is still open at the end is closed
there.

* `Frame` — an open element with the blocks read so far.
* `BuildState` — where building stands, with a journal of its moves.
* `BuildState.addText`, `addRegion`, `addTag`, `closeFrame` — the moves.
* `BuildState.addToken`, `BuildState.finish` — one token, and the end of the document.
* `build` — all of it.
-/

namespace GlassPrompt

/-! ## Where building stands -/

/-- An open element: its opening tag and the blocks read since. -/
structure Frame where
  element : Element
  tag : Tag
  children : List Block
  deriving Repr

/-- A move of the builder. -/
inductive Move where
  | text
  | region
  | tag
  /-- The frame of `opening` is closed, by a closing tag if there is one.  Without `opening` nothing
  was open that could be closed. -/
  | close (opening closing : Option Tag)
  deriving DecidableEq, Repr

/-- How much has been read: the names of the open elements with the number of their children,
outermost first, and the numbers of finished blocks, issues and requests. -/
structure Outline where
  frames : List (Text × Nat)
  blocks : Nat
  issues : Nat
  requests : Nat
  deriving DecidableEq, Repr

/-- Where building stands. -/
structure BuildState where
  /-- The open elements, innermost first. -/
  frames : List Frame
  /-- The finished blocks outside all open elements. -/
  blocks : List Block
  /-- The import statements found in hoisted code. -/
  imports : List ImportStatement
  /-- The issues found. -/
  issues : List Issue
  /-- The tags taken in. -/
  tags : List Tag
  /-- The number of requests. -/
  requests : Nat
  /-- The offset up to which the document is covered by blocks and frames. -/
  position : Nat
  /-- The moves made, each with the outline after it. -/
  journal : List (Move × Outline)
  deriving Repr

namespace BuildState

/-- Nothing read, from offset `start` on. -/
def init (start : Nat) : BuildState :=
  ⟨[], [], [], [], [], 0, start, []⟩

/-- How much has been read. -/
def outline (state : BuildState) : Outline where
  frames := (state.frames.map fun frame => (frame.tag.name, frame.children.length)).reverse
  blocks := state.blocks.length
  issues := state.issues.length
  requests := state.requests

/-- Writes a move into the journal. -/
def note (move : Move) (state : BuildState) : BuildState :=
  { state with journal := state.journal ++ [(move, state.outline)] }

/-- Adds blocks to the innermost open element. -/
def push (blocks : List Block) (state : BuildState) : BuildState :=
  match state.frames with
  | [] => { state with blocks := state.blocks ++ blocks }
  | frame :: outer =>
    { state with frames := { frame with children := frame.children ++ blocks } :: outer }

/-- Records a problem of the given span. -/
def report (problem : Problem) (start stop : Nat) (state : BuildState) : BuildState :=
  { state with issues := state.issues ++ [⟨problem, ⟨start, stop⟩⟩] }

/-! ## Text and regions -/

/-- Takes in the literal text of the given span. -/
def addText (source : Text) (start stop : Nat) (state : BuildState) : BuildState :=
  (if stop ≤ start then state
    else state.push [.text (decodeBraces (source.slice start stop)) ⟨start, stop⟩]).note .text

/-- The block of a brace region. -/
def regionBlock (region : Region) : Block :=
  match region.kind with
  | .interpolation => .interpolation (Text.trim region.source) ⟨region.start, region.stop⟩
  | .code => .code region.source ⟨region.start, region.stop⟩

/-- Takes in a brace region. -/
def addRegion (region : Region) (state : BuildState) : BuildState :=
  (state.push [regionBlock region]).note .region

/-! ## Closing -/

/-- The block that keeps a tag as literal text. -/
def tagText (source : Text) (tag : Tag) : Block :=
  .text (source.slice tag.start tag.stop) ⟨tag.start, tag.stop⟩

/-- The blocks that a frame leaves behind when it is closed at `stop`, by `closing` if there is such a
tag, and the import statements that are taken out of it. -/
def frameBlocks (source : Text) (frame : Frame) (closing : Option Tag) (stop : Nat) :
    List Block × List ImportStatement :=
  let openTag := source.slice frame.tag.start frame.tag.stop
  let closeTag := match closing with
    | some tag => source.slice tag.start tag.stop
    | none => []
  let span := ⟨frame.tag.start, stop⟩
  match frame.element with
  | .code =>
    let contentStop := match closing with
      | some tag => tag.start
      | none => stop
    let (imports, code) := extractImports (source.slice frame.tag.stop contentStop)
    ([.hoisted code span], imports)
  | .request => (frame.children ++ (closing.map (tagText source)).toList, [])
  | .role role => ([.role role openTag closeTag frame.children span], [])
  | .loop =>
    let each := (frame.tag.attributes.text? LoopAttribute.each.name).getD []
    let item := (frame.tag.attributes.text? LoopAttribute.item.name).getD []
    ([.loop each item openTag closeTag frame.children span], [])

/-- Closes the innermost frame at `stop`. -/
def closeFrame (source : Text) (closing : Option Tag) (stop : Nat) (state : BuildState) :
    BuildState :=
  match state.frames with
  | [] => state.note (.close none closing)
  | frame :: outer =>
    let (blocks, imports) := frameBlocks source frame closing stop
    ({ state with frames := outer, imports := state.imports ++ imports }.push blocks).note
      (.close frame.tag closing)

/-- Closes the `count` innermost frames at `stop`, none of them by a tag. -/
def closeFrames (source : Text) (stop : Nat) : Nat → BuildState → BuildState
  | 0, state => state
  | count + 1, state => closeFrames source stop count (state.closeFrame source none stop)

/-- Takes in a closing tag. -/
def closeTag (source : Text) (tag : Tag) (state : BuildState) : BuildState :=
  match state.frames.findIdx? (·.tag.name == tag.name) with
  | none => state.push [tagText source tag]
  | some inner => (closeFrames source tag.start inner state).closeFrame source (some tag) tag.stop

/-! ## Opening -/

/-- Opens a frame. -/
def openFrame (element : Element) (tag : Tag) (state : BuildState) : BuildState :=
  { state with frames := ⟨element, tag, []⟩ :: state.frames }

/-- A role is open. -/
def hasOpenRole (state : BuildState) : Bool :=
  state.frames.any fun frame => match frame.element with
    | .role _ => true
    | _ => false

/-- The problems of an opening or self-closing tag. -/
def openingProblems (element : Element) (tag : Tag) (state : BuildState) : List Problem :=
  match element with
  | .role role => if state.hasOpenRole then [.nestedRole role] else []
  | .loop =>
    [LoopAttribute.each, .item].filterMap fun key =>
      if ((tag.attributes.text? key.name).getD []).isEmpty then some (.loopWithout key) else none
  | .request =>
    (if state.requests = 0 then [] else [.repeatedRequest]) ++
      (tag.attributes.filter fun (name, _) => !requestSettingNames.contains name).map fun (name, _) =>
        .unknownSetting name
  | .code => []

/-- Takes in an opening or self-closing tag of an element. -/
def openTag (source : Text) (element : Element) (tag : Tag) (state : BuildState) : BuildState :=
  let problems := state.openingProblems element tag
  let state := problems.foldl (fun state problem => state.report problem tag.start tag.stop) state
  match element, tag.form with
  | .request, form =>
    let block := .request tag.attributes (source.slice tag.start tag.stop) ⟨tag.start, tag.stop⟩
    let state := { state with requests := state.requests + 1 }.push [block]
    if form = .selfClosing then state else state.openFrame .request tag
  | element, .selfClosing => (state.openFrame element tag).closeFrame source none tag.stop
  | element, _ => state.openFrame element tag

/-! ## Tokens -/

/-- Takes in a tag; a tag outside the vocabulary is literal text. -/
def addTag (source : Text) (tag : Tag) (state : BuildState) : BuildState :=
  let state := { state with tags := state.tags ++ [tag] }
  (match tag.element?, tag.form with
    | none, _ => state.push [tagText source tag]
    | some _, .closing => state.closeTag source tag
    | some element, _ => state.openTag source element tag).note .tag

/-- Takes in a token, with the literal text before it.  An unterminated construct is literal text. -/
def addToken (source : Text) (state : BuildState) : Token → BuildState
  | .error e => state.report (.lexical e.fault) e.start e.stop
  | .region r => { (state.addText source state.position r.start).addRegion r with position := r.stop }
  | .tag t => { (state.addText source state.position t.start).addTag source t with position := t.stop }

/-! ## The end of the document -/

/-- The problem of a tag without a partner. -/
def unmatchedProblem (tag : Tag) : Problem :=
  if tag.form = .closing then .unopened tag.name else .unclosed tag.name

/-- Records the tags of the vocabulary that have no partner. -/
def reportUnmatched (state : BuildState) : BuildState :=
  (Pairing.ofTags (state.tags.filter Tag.isSupported)).unmatched.foldl
    (fun state tag => state.report (unmatchedProblem tag) tag.start tag.stop) state

/-- Takes in the literal text at the end, and closes what is open. -/
def finish (source : Text) (state : BuildState) : BuildState :=
  let stop := source.length
  let state := { state.addText source state.position stop with position := stop }
  (closeFrames source stop state.frames.length state).reportUnmatched

end BuildState

/-- The state after all tokens of the document from offset `start` on. -/
def build (source : Text) (start : Nat) : BuildState :=
  ((scan source start).foldl (BuildState.addToken source) (.init start)).finish source

end GlassPrompt
