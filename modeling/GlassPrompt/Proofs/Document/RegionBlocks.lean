import GlassPrompt.Proofs.Document.Closings
import GlassPrompt.Proofs.Markup.RegionKind

/-!
# Expressions and inline code are the regions of the document

No move of the builder makes an expression or a piece of inline code, but for taking in a brace region.
So each such block of a document, at any depth, is the block of a region that scanning has found.

* `Layout.forall_visible_push`, `Layout.forall_visible_closeFrame` — what holds of all visible blocks.
* `Layout.RegionsOf` — all visible blocks of brace regions belong to the given tokens.
* `BuildState.regionsOf_addToken`, `BuildState.regionsOf_finish` — the moves of the builder preserve
  it.
* `regionBlock_of_mem_build` — the blocks of brace regions in what is built from a document.
* `Block.OfKind`, `ofKind_of_parse` — their sources tell which kind they are of.
-/

namespace GlassPrompt

/-- The block stands for a brace region. -/
def Block.isRegion : Block → Bool
  | .interpolation .. => true
  | .code .. => true
  | _ => false

/-! ## Visible blocks of a layout -/

/-- What a frame leaves behind holds no brace regions and requests but those of the frame. -/
lemma mem_children_of_frameBlocks {source : Text} {frame : Frame} {closing : Option Tag}
    {stop : Nat} {block : Block}
    (member : block ∈ walkBlocks (BuildState.frameBlocks source frame closing stop).1)
    (kept : (block.isRegion || block.isRequest) = true) : block ∈ walkBlocks frame.children := by
  obtain ⟨kind, tag, children⟩ := frame
  cases kind with
  | role speaker =>
    rw [frameBlocks_role, walkBlocks, walkBlocks, List.append_nil, Block.walk] at member
    rcases List.mem_cons.1 member with rfl | inside
    · exact nomatch kept
    · exact inside
  | loop =>
    rw [frameBlocks_loop, walkBlocks, walkBlocks, List.append_nil, Block.walk] at member
    rcases List.mem_cons.1 member with rfl | inside
    · exact nomatch kept
    · exact inside
  | request =>
    rw [frameBlocks_request, walkBlocks_append] at member
    rcases List.mem_append.1 member with inside | closingText
    · exact inside
    · cases closing with
      | none => exact nomatch closingText
      | some tag =>
        obtain rfl : block = BuildState.tagText source tag := List.mem_singleton.1 closingText
        exact nomatch kept
  | code =>
    obtain ⟨code, blocks⟩ := frameBlocks_code source tag children closing stop
    rw [blocks] at member
    obtain rfl : block = .hoisted code ⟨tag.start, stop⟩ := List.mem_singleton.1 member
    exact nomatch kept

section

variable {layout : Layout} {p : Block → Prop} (h : ∀ block ∈ layout.visible, p block)

include h

lemma Layout.forall_visible_push {blocks : List Block} (new : ∀ block ∈ walkBlocks blocks, p block) :
    ∀ block ∈ (layout.push blocks).visible, p block := by
  intro block member
  rcases mem_visible_push.1 member with old | pushed
  · exact h block old
  · exact new block pushed

lemma Layout.forall_visible_pushLeaf {leaf : Block} (isLeaf : leaf.element? = none) (new : p leaf) :
    ∀ block ∈ (layout.push [leaf]).visible, p block := by
  refine forall_visible_push h ?_
  rw [walkBlocks_of_leaves (List.forall_mem_singleton.2 isLeaf)]
  exact List.forall_mem_singleton.2 new

lemma Layout.forall_visible_openFrame (element : Element) (tag : Tag) :
    ∀ block ∈ (layout.openFrame element tag).visible, p block := by
  rw [visible_openFrame]
  exact h

/-- Closing a frame makes no brace regions and requests visible that were not visible before. -/
lemma Layout.forall_visible_closeFrame
    (others : ∀ block : Block, (block.isRegion || block.isRequest) = false → p block)
    {source : Text} {frame : Frame} {outer : List Frame} (innermost : layout.frames = frame :: outer)
    (closing : Option Tag) (stop : Nat) :
    ∀ block ∈ (layout.closeFrame source frame outer closing stop).visible, p block := by
  intro block member
  cases kept : block.isRegion || block.isRequest with
  | false => exact others block kept
  | true =>
    refine h block ((mem_visible_of_frames innermost).2 ?_)
    rcases mem_visible_closeFrame.1 member with outside | left
    · exact .inl outside
    · exact .inr (mem_children_of_frameBlocks left kept)

end

/-- Every visible block of a brace region is the block of one of the tokens. -/
def Layout.RegionsOf (tokens : List Token) (layout : Layout) : Prop :=
  ∀ block ∈ layout.visible, block.isRegion = true →
    ∃ region, Token.region region ∈ tokens ∧ block = BuildState.regionBlock region

section

variable {tokens : List Token} {layout : Layout}

/-- Pushing a leaf that is no brace region. -/
lemma Layout.RegionsOf.pushLeaf (h : layout.RegionsOf tokens) {leaf : Block}
    (isLeaf : leaf.element? = none) (notRegion : leaf.isRegion = false) :
    (layout.push [leaf]).RegionsOf tokens :=
  forall_visible_pushLeaf h isLeaf fun isRegion => Bool.noConfusion (notRegion.symm.trans isRegion)

lemma Layout.RegionsOf.openFrame (h : layout.RegionsOf tokens) (element : Element) (tag : Tag) :
    (layout.openFrame element tag).RegionsOf tokens :=
  forall_visible_openFrame h element tag

lemma Layout.RegionsOf.closeFrame (h : layout.RegionsOf tokens) {source : Text} {frame : Frame}
    {outer : List Frame} (innermost : layout.frames = frame :: outer) (closing : Option Tag)
    (stop : Nat) : (layout.closeFrame source frame outer closing stop).RegionsOf tokens := by
  refine forall_visible_closeFrame h (fun block other isRegion => ?_) innermost closing stop
  exact Bool.noConfusion ((Bool.or_eq_false_iff.1 other).1.symm.trans isRegion)

end

/-! ## The moves of the builder -/

namespace BuildState

variable {source : Text} {tokens : List Token} {state : BuildState}

lemma regionsOf_closeFrame (h : state.layout.RegionsOf tokens) (closing : Option Tag) (stop : Nat) :
    (state.closeFrame source closing stop).layout.RegionsOf tokens := by
  cases frames : state.frames with
  | nil =>
    unfold closeFrame
    rw [frames]
    dsimp only
    rw [layout_note_close]
    exact h
  | cons frame outer =>
    rw [layout_closeFrame source state frames]
    exact h.closeFrame frames closing stop

lemma regionsOf_closeFrames (h : state.layout.RegionsOf tokens) (stop count : Nat) :
    (closeFrames source stop count state).layout.RegionsOf tokens := by
  induction count generalizing state with
  | zero => exact h
  | succ count ih => exact ih (regionsOf_closeFrame h none stop)

lemma regionsOf_addText (h : state.layout.RegionsOf tokens) (start stop : Nat) :
    (state.addText source start stop).layout.RegionsOf tokens := by
  unfold addText
  rw [layout_note _ rfl]
  split
  · exact h
  · rw [layout_push]
    exact h.pushLeaf rfl rfl

lemma regionsOf_addRegion (h : state.layout.RegionsOf tokens) {region : Region}
    (known : Token.region region ∈ tokens) : (state.addRegion region).layout.RegionsOf tokens := by
  rw [layout_addRegion]
  exact Layout.forall_visible_pushLeaf h (element?_regionBlock region) fun _ => ⟨region, known, rfl⟩

lemma regionsOf_closeTag (h : state.layout.RegionsOf tokens) (tag : Tag) :
    (state.closeTag source tag).layout.RegionsOf tokens := by
  unfold closeTag
  split
  · rw [layout_push]
    exact h.pushLeaf rfl rfl
  · exact regionsOf_closeFrame (regionsOf_closeFrames h _ _) _ _

lemma regionsOf_openTag (h : state.layout.RegionsOf tokens) (element : Element) (tag : Tag) :
    (state.openTag source element tag).layout.RegionsOf tokens := by
  by_cases request : element = .request
  · subst request
    rw [layout_openTag_request]
    split
    · exact h.pushLeaf rfl rfl
    · exact (h.pushLeaf rfl rfl).openFrame _ _
  · rw [openTag_other request]
    have reported := layout_reports state (state.openingProblems element tag) tag.start tag.stop
    generalize (state.openingProblems element tag).foldl
      (fun state problem => state.report problem tag.start tag.stop) state = opened at reported ⊢
    have opens : (opened.openFrame element tag).layout.RegionsOf tokens := by
      rw [layout_openFrame, reported]
      exact h.openFrame _ _
    dsimp only
    split
    · exact regionsOf_closeFrame opens _ _
    · exact opens

lemma regionsOf_addTag (h : state.layout.RegionsOf tokens) (tag : Tag) :
    (state.addTag source tag).layout.RegionsOf tokens := by
  unfold addTag
  rw [layout_note _ rfl]
  have noted : ({ state with tags := state.tags ++ [tag] } : BuildState).layout.RegionsOf tokens := h
  generalize ({ state with tags := state.tags ++ [tag] } : BuildState) = next at noted
  split
  · rw [layout_push]
    exact noted.pushLeaf rfl rfl
  · exact regionsOf_closeTag noted tag
  · exact regionsOf_openTag noted _ tag

theorem regionsOf_addToken (h : state.layout.RegionsOf tokens) {token : Token}
    (known : token ∈ tokens) : (state.addToken source token).layout.RegionsOf tokens := by
  cases token with
  | error e => exact h
  | region r => exact regionsOf_addRegion (regionsOf_addText h _ _) known
  | tag t => exact regionsOf_addTag (regionsOf_addText h _ _) t

theorem regionsOf_finish (h : state.layout.RegionsOf tokens) :
    (state.finish source).layout.RegionsOf tokens := by
  unfold finish
  dsimp only
  rw [layout_reportUnmatched]
  have covered : ({ state.addText source state.position source.length with
      position := source.length } : BuildState).layout.RegionsOf tokens :=
    regionsOf_addText h state.position source.length
  exact regionsOf_closeFrames covered _ _

/-- Any number of tokens. -/
lemma regionsOf_addTokens {taken : List Token} (known : ∀ token ∈ taken, token ∈ tokens)
    (h : state.layout.RegionsOf tokens) :
    (taken.foldl (addToken source) state).layout.RegionsOf tokens := by
  induction taken generalizing state with
  | nil => exact h
  | cons token rest ih =>
    obtain ⟨first, others⟩ := List.forall_mem_cons.1 known
    exact ih others (regionsOf_addToken h first)

end BuildState

/-! ## Whole documents -/

/-- **Each block of a brace region is the block of a region that scanning finds**, at any depth of what
is built from a document. -/
theorem regionBlock_of_mem_build {source : Text} {start : Nat} {block : Block}
    (member : block ∈ walkBlocks (build source start).blocks) (isRegion : block.isRegion = true) :
    ∃ region, Token.region region ∈ scan source start ∧ block = BuildState.regionBlock region := by
  have begins : (BuildState.init start).layout.RegionsOf (scan source start) :=
    fun _ none => nomatch none
  have read : ((scan source start).foldl (BuildState.addToken source)
      (BuildState.init start)).layout.RegionsOf (scan source start) :=
    BuildState.regionsOf_addTokens (fun _ known => known) begins
  have regions : (build source start).layout.RegionsOf (scan source start) :=
    BuildState.regionsOf_finish read
  exact regions block (List.mem_append_left _ member) isRegion

/-- What a document that is read consists of. -/
lemma eq_of_parse {source : Text} {document : Document}
    (parsed : Document.parse source = .ok document) :
    ∃ frontmatter, splitFrontmatter source = .ok frontmatter ∧
      let body := source.drop frontmatter.bodyOffset
      let (imports, content) := liftImports body
      let contentStart := frontmatter.bodyOffset + (body.length - content.length)
      let state := build source contentStart
      document = ⟨source, frontmatter.declarations, frontmatter.bodyOffset, contentStart, state.blocks,
        imports ++ state.imports, state.issues⟩ := by
  unfold Document.parse at parsed
  cases split : splitFrontmatter source with
  | error e =>
    rw [split] at parsed
    exact nomatch parsed
  | ok frontmatter =>
    rw [split] at parsed
    exact ⟨frontmatter, rfl, (Except.ok.inj parsed).symm⟩

lemma blocks_of_parse {source : Text} {document : Document}
    (parsed : Document.parse source = .ok document) :
    document.blocks = (build source document.contentStart).blocks := by
  obtain ⟨frontmatter, -, rfl⟩ := eq_of_parse parsed
  rfl

lemma issues_of_parse {source : Text} {document : Document}
    (parsed : Document.parse source = .ok document) :
    document.issues = (build source document.contentStart).issues := by
  obtain ⟨frontmatter, -, rfl⟩ := eq_of_parse parsed
  rfl

/-- If something is computed from a document that is read, then the document is read. -/
lemma exists_parse {α : Type} {source : Text} {compute : Document → α} {value : α}
    (h : (Document.parse source).map compute = .ok value) :
    ∃ document, Document.parse source = .ok document ∧ compute document = value := by
  cases parsed : Document.parse source with
  | error e =>
    rw [parsed] at h
    exact nomatch h
  | ok document =>
    rw [parsed] at h
    exact ⟨document, rfl, Except.ok.inj h⟩

/-- An expression is no statement, and inline code is one: the source of the block tells. -/
def Block.OfKind : Block → Prop
  | .interpolation source _ => RegionKind.ofSource source = .interpolation
  | .code source _ => RegionKind.ofSource source = .code
  | _ => True

lemma ofKind_regionBlock {region : Region} (kind : region.kind = RegionKind.ofSource region.source) :
    (BuildState.regionBlock region).OfKind := by
  unfold BuildState.regionBlock
  cases found : region.kind with
  | interpolation =>
    show RegionKind.ofSource (Text.trim region.source) = .interpolation
    rw [ofSource_trim, ← kind, found]
  | code =>
    show RegionKind.ofSource region.source = .code
    rw [← kind, found]

/-- **The source of a block of a brace region tells which kind it is of**, though expressions are kept
without the blanks around them. -/
theorem ofKind_of_parse {source : Text} {document : Document}
    (parsed : Document.parse source = .ok document) {block : Block}
    (member : block ∈ walkBlocks document.blocks) : block.OfKind := by
  rw [blocks_of_parse parsed] at member
  cases isRegion : block.isRegion with
  | true =>
    obtain ⟨region, found, rfl⟩ := regionBlock_of_mem_build member isRegion
    exact ofKind_regionBlock (kind_of_mem_scan found)
  | false =>
    cases block with
    | interpolation => exact nomatch isRegion
    | code => exact nomatch isRegion
    | _ => exact trivial

end GlassPrompt
