import GlassPrompt.Document.Parse
import GlassPrompt.Proofs.Document.Layout

/-!
# The blocks of a document tile it

The blocks that are built from a document lie side by side from the first offset to the end of the
document, and so do the blocks inside every role and loop, between its tags.  No character is lost,
repeated or moved, whatever the tags are.

* `Tiles`, `Block.CarriesSlice`, `Laid` — blocks that tile a part of the document, each of which holds
  the text that it stands over.
* `writtenBlocks`, `Laid.writtenBlocks_eq` — the text of blocks, put together again, is the slice that
  they tile.
* `Laid.walk_bounds` — no block reaches out of the part that is tiled.
* `Layout.Change`, `Layout.Step.change` — every step adds leaves, opens a frame or closes one.
* `Layered` — the invariant of building: each open frame holds a tiling that goes from its opening tag
  to where the next frame starts, and the innermost one goes to the offset that building has reached.
* `Layout.Change.covers` — every change preserves it.
* `build_lossless` — what is built from a document tiles it.
-/

namespace GlassPrompt

/-! ## Tilings -/

/-- The blocks stand side by side from `start` to `stop`, and none of them is empty. -/
def Tiles : Nat → Nat → List Block → Prop
  | start, stop, [] => start = stop
  | start, stop, block :: rest =>
    block.span.start = start ∧ start < block.span.stop ∧ Tiles block.span.stop stop rest

lemma Tiles.le {blocks : List Block} {start stop : Nat} (h : Tiles start stop blocks) :
    start ≤ stop := by
  induction blocks generalizing start with
  | nil => exact Nat.le_of_eq h
  | cons block rest ih => exact Nat.le_trans (Nat.le_of_lt h.2.1) (ih h.2.2)

lemma Tiles.append {first second : List Block} {start mid stop : Nat} (before : Tiles start mid first)
    (behind : Tiles mid stop second) : Tiles start stop (first ++ second) := by
  induction first generalizing start with
  | nil =>
    obtain rfl : start = mid := before
    exact behind
  | cons block rest ih => exact ⟨before.1, before.2.1, ih before.2.2⟩

/-! ## Blocks and their slices -/

/-- The part of the document that a tag takes. -/
def Tag.span (tag : Tag) : Span :=
  ⟨tag.start, tag.stop⟩

/-- A container over `span` starts with `openTag` and ends with `closeTag`, as they stand in the
document, and its children tile what is between them. -/
structure Encloses (source : Text) (span : Span) (openTag closeTag : Text) (children : List Block) :
    Prop where
  opened : openTag ≠ []
  openSlice : openTag = source.slice span.start (span.start + openTag.length)
  closeSlice : closeTag = source.slice (span.stop - closeTag.length) span.stop
  tiles : Tiles (span.start + openTag.length) (span.stop - closeTag.length) children

/-- The block holds the text of `source` that it stands over, where `tags` are the tags of the
document.  Literal text is decoded unless it is one tag; hoisted code is what the extraction of import
statements leaves of the body between the tags. -/
def Block.CarriesSlice (source : Text) (tags : List Tag) : Block → Prop
  | .text shown span =>
    shown = if span ∈ tags.map Tag.span then source.slice span.start span.stop
      else decodeBraces (source.slice span.start span.stop)
  | .interpolation expression span => ∃ inner,
    source.slice span.start span.stop = '\x7b' :: inner ++ ['\x7d'] ∧ expression = Text.trim inner
  | .code inner span => source.slice span.start span.stop = '\x7b' :: inner ++ ['\x7d']
  | .hoisted kept span => ∃ opening ∈ tags, opening.element? = some .code ∧
    opening.start = span.start ∧ opening.stop ≤ span.stop ∧ ∃ bodyStop,
      (bodyStop = span.stop ∨ ∃ closing ∈ tags, closing.start = bodyStop ∧ closing.stop = span.stop) ∧
        kept = (extractImports (source.slice opening.stop bodyStop)).2
  | .request _ written span => written = source.slice span.start span.stop
  | .role _ openTag closeTag children span => Encloses source span openTag closeTag children
  | .loop _ _ openTag closeTag children span => Encloses source span openTag closeTag children

/-- The blocks tile a part of the document, and they and all blocks inside them hold what they stand
over. -/
structure Laid (source : Text) (tags : List Tag) (start stop : Nat) (blocks : List Block) : Prop where
  tiles : Tiles start stop blocks
  carries : ∀ block ∈ walkBlocks blocks, block.CarriesSlice source tags

lemma Laid.nil (source : Text) (tags : List Tag) (start : Nat) : Laid source tags start start [] :=
  ⟨rfl, by simp [walkBlocks]⟩

lemma Laid.append {source : Text} {tags : List Tag} {start mid stop : Nat} {first second : List Block}
    (before : Laid source tags start mid first) (behind : Laid source tags mid stop second) :
    Laid source tags start stop (first ++ second) := by
  refine ⟨before.tiles.append behind.tiles, ?_⟩
  intro block member
  rw [walkBlocks_append] at member
  rcases List.mem_append.1 member with member | member
  · exact before.carries block member
  · exact behind.carries block member

/-- A block by itself, whatever it contains. -/
lemma Laid.single {source : Text} {tags : List Tag} {block : Block} {start stop : Nat}
    (span : block.span = ⟨start, stop⟩) (nonempty : start < stop)
    (carries : block.CarriesSlice source tags)
    (inner : ∀ child ∈ walkBlocks block.children, child.CarriesSlice source tags) :
    Laid source tags start stop [block] := by
  refine ⟨⟨congrArg Span.start span, ?_, congrArg Span.stop span⟩, ?_⟩
  · rw [span]
    exact nonempty
  intro other member
  have walk : walkBlocks [block] = block :: walkBlocks block.children := by
    cases block <;> simp [walkBlocks, Block.walk, Block.children]
  rw [walk] at member
  rcases List.mem_cons.1 member with rfl | member
  · exact carries
  · exact inner other member

/-! ## Leaves -/

/-- The element whose tags stand around the children of a block. -/
def Block.element? : Block → Option Element
  | .role speaker _ _ _ _ => some (.role speaker)
  | .loop .. => some .loop
  | _ => none

lemma BuildState.element?_regionBlock (region : Region) : (regionBlock region).element? = none := by
  unfold regionBlock
  split <;> rfl

/-- Inside leaves there is nothing else. -/
lemma walkBlocks_of_leaves {leaves : List Block} (h : ∀ block ∈ leaves, block.element? = none) :
    walkBlocks leaves = leaves := by
  induction leaves with
  | nil => rfl
  | cons block rest ih =>
    obtain ⟨leaf, others⟩ := List.forall_mem_cons.1 h
    rw [walkBlocks, ih others]
    cases block with
    | role => exact absurd leaf (Option.some_ne_none _)
    | loop => exact absurd leaf (Option.some_ne_none _)
    | text => rfl
    | interpolation => rfl
    | code => rfl
    | hoisted => rfl
    | request => rfl

/-! ## The text of blocks -/

mutual

/-- The text of a block: its tags around the text of its children, or else the slice of the document
that it stands over. -/
def Block.written (source : Text) : Block → Text
  | .role _ openTag closeTag children _ => openTag ++ writtenBlocks source children ++ closeTag
  | .loop _ _ openTag closeTag children _ => openTag ++ writtenBlocks source children ++ closeTag
  | block => source.slice block.span.start block.span.stop

/-- The text of blocks, one behind the other. -/
def writtenBlocks (source : Text) : List Block → Text
  | [] => []
  | block :: rest => block.written source ++ writtenBlocks source rest

end

lemma Encloses.slice_eq {source : Text} {span : Span} {openTag closeTag inner : Text}
    {children : List Block} (h : Encloses source span openTag closeTag children)
    (between : inner =
      source.slice (span.start + openTag.length) (span.stop - closeTag.length)) :
    openTag ++ inner ++ closeTag = source.slice span.start span.stop := by
  have ordered := h.tiles.le
  calc openTag ++ inner ++ closeTag
      = source.slice span.start (span.start + openTag.length) ++
          source.slice (span.start + openTag.length) (span.stop - closeTag.length) ++
          source.slice (span.stop - closeTag.length) span.stop := by
        rw [← h.openSlice, ← h.closeSlice, between]
    _ = source.slice span.start (span.stop - closeTag.length) ++
          source.slice (span.stop - closeTag.length) span.stop := by
        rw [Text.slice_append source (Nat.le_add_right _ _) ordered]
    _ = source.slice span.start span.stop :=
        Text.slice_append source (by omega) (Nat.sub_le _ _)

mutual

theorem Block.written_eq {source : Text} {tags : List Tag} (block : Block)
    (carries : ∀ inner ∈ block.walk, inner.CarriesSlice source tags) :
    block.written source = source.slice block.span.start block.span.stop := by
  cases block with
  | role role openTag closeTag children span =>
    simp only [Block.walk, List.forall_mem_cons] at carries
    have encloses : Encloses source span openTag closeTag children := carries.1
    rw [Block.written]
    exact encloses.slice_eq (writtenBlocks_eq children encloses.tiles carries.2)
  | loop each item openTag closeTag children span =>
    simp only [Block.walk, List.forall_mem_cons] at carries
    have encloses : Encloses source span openTag closeTag children := carries.1
    rw [Block.written]
    exact encloses.slice_eq (writtenBlocks_eq children encloses.tiles carries.2)
  | text _ _ => rfl
  | interpolation _ _ => rfl
  | code _ _ => rfl
  | hoisted _ _ => rfl
  | request _ _ _ => rfl

theorem writtenBlocks_eq {source : Text} {tags : List Tag} (blocks : List Block) {start stop : Nat}
    (tiles : Tiles start stop blocks)
    (carries : ∀ block ∈ walkBlocks blocks, block.CarriesSlice source tags) :
    writtenBlocks source blocks = source.slice start stop := by
  cases blocks with
  | nil =>
    obtain rfl : start = stop := tiles
    rw [Text.slice_self, writtenBlocks]
  | cons block rest =>
    obtain ⟨rfl, nonempty, behind⟩ := tiles
    rw [walkBlocks] at carries
    simp only [List.forall_mem_append] at carries
    rw [writtenBlocks, Block.written_eq block carries.1, writtenBlocks_eq rest behind carries.2]
    exact Text.slice_append source (Nat.le_of_lt nonempty) behind.le

end

/-- **Nothing is lost, repeated or moved**: the text of blocks is the slice that they tile. -/
theorem Laid.writtenBlocks_eq {source : Text} {tags : List Tag} {start stop : Nat}
    {blocks : List Block} (h : Laid source tags start stop blocks) :
    writtenBlocks source blocks = source.slice start stop :=
  GlassPrompt.writtenBlocks_eq blocks h.tiles h.carries

/-! ## Nesting -/

/-- What lies between the tags of a container lies in its span. -/
lemma Span.within_of_between {span : Span} {opened closed start stop : Nat}
    (between : span.start + opened ≤ start ∧ stop ≤ span.stop - closed) :
    span.start ≤ start ∧ stop ≤ span.stop :=
  ⟨Nat.le_trans (Nat.le_add_right _ _) between.1, Nat.le_trans between.2 (Nat.sub_le _ _)⟩

mutual

theorem Block.walk_bounds {source : Text} {tags : List Tag} (block : Block)
    (carries : ∀ inner ∈ block.walk, inner.CarriesSlice source tags) :
    ∀ inner ∈ block.walk,
      block.span.start ≤ inner.span.start ∧ inner.span.stop ≤ block.span.stop := by
  have itself : block.span.start ≤ block.span.start ∧ block.span.stop ≤ block.span.stop :=
    ⟨Nat.le_refl _, Nat.le_refl _⟩
  cases block with
  | role speaker openTag closeTag children span =>
    simp only [Block.walk, List.forall_mem_cons] at carries ⊢
    have encloses : Encloses source span openTag closeTag children := carries.1
    refine ⟨itself, fun inner member => ?_⟩
    exact Span.within_of_between (walkBlocks_bounds children encloses.tiles carries.2 inner member)
  | loop each item openTag closeTag children span =>
    simp only [Block.walk, List.forall_mem_cons] at carries ⊢
    have encloses : Encloses source span openTag closeTag children := carries.1
    refine ⟨itself, fun inner member => ?_⟩
    exact Span.within_of_between (walkBlocks_bounds children encloses.tiles carries.2 inner member)
  | text _ _ => exact List.forall_mem_singleton.2 itself
  | interpolation _ _ => exact List.forall_mem_singleton.2 itself
  | code _ _ => exact List.forall_mem_singleton.2 itself
  | hoisted _ _ => exact List.forall_mem_singleton.2 itself
  | request _ _ _ => exact List.forall_mem_singleton.2 itself

theorem walkBlocks_bounds {source : Text} {tags : List Tag} (blocks : List Block) {start stop : Nat}
    (tiles : Tiles start stop blocks)
    (carries : ∀ block ∈ walkBlocks blocks, block.CarriesSlice source tags) :
    ∀ inner ∈ walkBlocks blocks, start ≤ inner.span.start ∧ inner.span.stop ≤ stop := by
  cases blocks with
  | nil => simp [walkBlocks]
  | cons block rest =>
    obtain ⟨rfl, nonempty, behind⟩ := tiles
    rw [walkBlocks] at carries ⊢
    simp only [List.forall_mem_append] at carries
    intro inner member
    rcases List.mem_append.1 member with member | member
    · have inside := Block.walk_bounds block carries.1 inner member
      exact ⟨inside.1, Nat.le_trans inside.2 behind.le⟩
    · have inside := walkBlocks_bounds rest behind carries.2 inner member
      exact ⟨Nat.le_trans (Nat.le_of_lt nonempty) inside.1, inside.2⟩

end

/-- All blocks of a tiling, at any depth, lie in the part of the document that it tiles. -/
theorem Laid.walk_bounds {source : Text} {tags : List Tag} {start stop : Nat} {blocks : List Block}
    (h : Laid source tags start stop blocks) :
    ∀ block ∈ walkBlocks blocks, start ≤ block.span.start ∧ block.span.stop ≤ stop :=
  walkBlocks_bounds blocks h.tiles h.carries

/-! ## The invariant of building -/

/-- Where a frame takes over from the blocks around it.  The block of a request stands before its
frame; any other frame becomes a block that starts with its opening tag. -/
def Frame.entry (frame : Frame) : Nat :=
  if frame.element = .request then frame.tag.stop else frame.tag.start

/-- The frames, innermost first, and the finished blocks cover the document from `start` to `pos`:
each frame holds what is laid out from its opening tag to the entry of the next frame. -/
def Layered (source : Text) (tags : List Tag) (start : Nat) : List Frame → List Block → Nat → Prop
  | [], blocks, pos => Laid source tags start pos blocks
  | frame :: outer, blocks, pos =>
    (frame.tag ∈ tags ∧ frame.tag.element? = some frame.element) ∧
      Laid source tags frame.tag.stop pos frame.children ∧
        Layered source tags start outer blocks frame.entry

section

variable {source : Text} {tags : List Tag} {start pos stop : Nat} {layout : Layout}

/-- What is pushed extends the innermost layer. -/
lemma Layered.push {blocks : List Block}
    (h : Layered source tags start layout.frames layout.blocks pos)
    (new : Laid source tags pos stop blocks) :
    Layered source tags start (layout.push blocks).frames (layout.push blocks).blocks stop := by
  obtain ⟨frames, finished, closed⟩ := layout
  cases frames with
  | nil => exact Laid.append h new
  | cons frame outer => exact ⟨h.1, h.2.1.append new, h.2.2⟩

/-- From `pos` to `stop` stands the closing tag of a frame, or nothing if it has none. -/
def ClosedFrom (tags : List Tag) (pos stop : Nat) : Option Tag → Prop
  | none => stop = pos
  | some tag => tag ∈ tags ∧ tag.start = pos ∧ tag.stop = stop

/-- The block of a brace region. -/
lemma regionBlock_laid {region : Region} (readIn : (Token.region region).ReadIn source) :
    Laid source tags region.start region.stop [BuildState.regionBlock region] := by
  obtain ⟨nonempty, -, written⟩ := readIn
  unfold BuildState.regionBlock
  cases region.kind with
  | interpolation =>
    exact .single rfl nonempty ⟨region.source, written, rfl⟩ (fun _ inner => nomatch inner)
  | code => exact .single rfl nonempty written (fun _ inner => nomatch inner)

variable (readIn : ∀ tag ∈ tags, (Token.tag tag).ReadIn source)

include readIn

lemma ClosedFrom.le {closing : Option Tag} (closes : ClosedFrom tags pos stop closing) :
    pos ≤ stop := by
  cases closing with
  | none => exact Nat.le_of_eq closes.symm
  | some tag =>
    obtain ⟨known, rfl, rfl⟩ := closes
    exact Nat.le_of_lt (readIn tag known).1

/-- The tags of a frame enclose what it holds. -/
lemma encloses_of_closedFrom {opening : Tag} {closing : Option Tag} {children : List Block}
    (known : opening ∈ tags) (tiles : Tiles opening.stop pos children)
    (closes : ClosedFrom tags pos stop closing) :
    Encloses source ⟨opening.start, stop⟩ (source.slice opening.start opening.stop)
      (closingText source closing) children := by
  obtain ⟨nonempty, inside, -⟩ := readIn opening known
  have openLength :
      opening.start + (source.slice opening.start opening.stop).length = opening.stop := by
    rw [Text.length_slice inside]
    omega
  have opened : source.slice opening.start opening.stop ≠ [] := by
    intro empty
    rw [empty, List.length_nil] at openLength
    omega
  cases closing with
  | none =>
    obtain rfl : stop = pos := closes
    refine ⟨opened, ?_, ?_, ?_⟩
    · show _ = source.slice opening.start (opening.start + _)
      rw [openLength]
    · show [] = source.slice (stop - 0) stop
      rw [Nat.sub_zero, Text.slice_self]
    · show Tiles (opening.start + _) (stop - 0) children
      rw [openLength, Nat.sub_zero]
      exact tiles
  | some tag =>
    obtain ⟨closingKnown, rfl, rfl⟩ := closes
    obtain ⟨closingNonempty, closingInside, -⟩ := readIn tag closingKnown
    have closeLength : tag.stop - (source.slice tag.start tag.stop).length = tag.start := by
      rw [Text.length_slice closingInside]
      omega
    refine ⟨opened, ?_, ?_, ?_⟩
    · show _ = source.slice opening.start (opening.start + _)
      rw [openLength]
    · show _ = source.slice (tag.stop - (source.slice tag.start tag.stop).length) tag.stop
      rw [closeLength]
      rfl
    · show Tiles (opening.start + _) (tag.stop - (source.slice tag.start tag.stop).length) children
      rw [openLength, closeLength]
      exact tiles

/-- A tag that is kept as literal text. -/
lemma tagText_laid {tag : Tag} (known : tag ∈ tags) :
    Laid source tags tag.start tag.stop [BuildState.tagText source tag] := by
  refine .single rfl (readIn tag known).1 ?_ (fun _ inner => nomatch inner)
  have member : (⟨tag.start, tag.stop⟩ : Span) ∈ tags.map Tag.span :=
    List.mem_map.2 ⟨tag, known, rfl⟩
  show source.slice tag.start tag.stop = if _ then _ else _
  rw [if_pos member]

/-- The block of a request tag. -/
lemma requestBlock_laid {tag : Tag} (known : tag ∈ tags) :
    Laid source tags tag.start tag.stop [Layout.requestBlock source tag] :=
  .single rfl (readIn tag known).1 rfl (fun _ inner => nomatch inner)

/-- The blocks that a frame leaves behind are laid out from its entry on. -/
lemma frameBlocks_laid {frame : Frame} {closing : Option Tag}
    (known : frame.tag ∈ tags) (named : frame.tag.element? = some frame.element)
    (children : Laid source tags frame.tag.stop pos frame.children)
    (closes : ClosedFrom tags pos stop closing) :
    Laid source tags frame.entry stop (BuildState.frameBlocks source frame closing stop).1 := by
  have opening : frame.tag.start < frame.tag.stop := (readIn frame.tag known).1
  have ordered : frame.tag.stop ≤ stop := Nat.le_trans children.tiles.le (closes.le readIn)
  have nonempty : frame.tag.start < stop := Nat.lt_of_lt_of_le opening ordered
  have encloses := encloses_of_closedFrom readIn known children.tiles closes
  obtain ⟨element, tag, blocks⟩ := frame
  cases element with
  | role role =>
    rw [frameBlocks_role]
    exact .single rfl nonempty encloses children.carries
  | loop =>
    rw [frameBlocks_loop]
    exact .single rfl nonempty encloses children.carries
  | code =>
    refine .single rfl nonempty ?_ (fun _ inner => nomatch inner)
    refine ⟨tag, known, named, rfl, ordered, ?_⟩
    cases closing with
    | none => exact ⟨stop, .inl rfl, rfl⟩
    | some closingTag =>
      exact ⟨closingTag.start, .inr ⟨closingTag, closes.1, rfl, closes.2.2⟩, rfl⟩
  | request =>
    cases closing with
    | none =>
      obtain rfl : stop = pos := closes
      show Laid source tags tag.stop stop (blocks ++ [])
      rw [List.append_nil]
      exact children
    | some closingTag =>
      obtain ⟨closingKnown, rfl, rfl⟩ := closes
      exact children.append (tagText_laid readIn closingKnown)

end

/-! ## Three kinds of change -/

/-- What can happen to a layout: leaves are added, a frame is opened behind the leaves that its tag
brings along, or the innermost frame is closed. -/
inductive Layout.Change (source : Text) (tags : List Tag) : Nat × Layout → Nat × Layout → Prop
  | push {pos stop : Nat} {leaves : List Block} {layout : Layout}
      (laid : Laid source tags pos stop leaves) (leaf : ∀ block ∈ leaves, block.element? = none) :
      Change source tags (pos, layout) (stop, layout.push leaves)
  | openFrame {tag : Tag} {element : Element} {leaves : List Block} {layout : Layout}
      (known : tag ∈ tags) (named : tag.element? = some element)
      (laid : Laid source tags tag.start (Frame.mk element tag []).entry leaves)
      (leaf : ∀ block ∈ leaves, block.element? = none) :
      Change source tags (tag.start, layout)
        (tag.stop, (layout.push leaves).openFrame element tag)
  | closeFrame {pos stop : Nat} {frame : Frame} {outer : List Frame} {closing : Option Tag}
      {layout : Layout} (innermost : layout.frames = frame :: outer)
      (closes : ClosedFrom tags pos stop closing) :
      Change source tags (pos, layout) (stop, layout.closeFrame source frame outer closing stop)

lemma Layout.push_nil (layout : Layout) : layout.push [] = layout := by
  obtain ⟨frames, blocks, closed⟩ := layout
  cases frames with
  | nil => simp [Layout.push]
  | cons frame outer => simp [Layout.push]

/-- Text adds leaves, if it is there. -/
lemma BuildState.exists_layout_addText (source : Text) (state : BuildState) (start stop : Nat) :
    ∃ texts : List Block, (∀ block ∈ texts, block.element? = none) ∧
      (state.addText source start stop).layout = state.layout.push texts := by
  unfold addText
  rw [layout_note _ rfl]
  split
  · exact ⟨[], nofun, (Layout.push_nil _).symm⟩
  · exact ⟨_, List.forall_mem_singleton.2 rfl, layout_push _ _⟩

section

variable {source : Text} {tags : List Tag} {before after : Nat × Layout}
  (readIn : ∀ tag ∈ tags, (Token.tag tag).ReadIn source)

include readIn

/-- Every step is one of the three changes. -/
theorem Layout.Step.change (step : Layout.Step source tags before after) :
    Layout.Change source tags before after := by
  cases step with
  | @text start stop _ nonempty inside untagged =>
    refine .push (.single rfl nonempty ?_ (fun _ inner => nomatch inner)) (by simp [Block.element?])
    have notTag : (⟨start, stop⟩ : Span) ∉ tags.map Tag.span := by
      intro member
      obtain ⟨tag, known, span⟩ := List.mem_map.1 member
      exact untagged tag known (congrArg Span.start span) (congrArg Span.stop span)
    show decodeBraces _ = if _ then _ else _
    rw [if_neg notTag]
  | region regionReadIn =>
    exact .push (regionBlock_laid regionReadIn)
      (List.forall_mem_singleton.2 (BuildState.element?_regionBlock _))
  | literal known =>
    exact .push (tagText_laid readIn known) (by simp [BuildState.tagText, Block.element?])
  | request known element form =>
    exact .push (requestBlock_laid readIn known) (by simp [requestBlock, Block.element?])
  | openRequest known element form =>
    exact .openFrame known element (requestBlock_laid readIn known)
      (by simp [requestBlock, Block.element?])
  | @openOther tag element layout known named other form =>
    have entry : (Frame.mk element tag []).entry = tag.start := if_neg other
    have opened : Layout.Change source tags (tag.start, layout)
        (tag.stop, (layout.push []).openFrame element tag) :=
      .openFrame known named (by rw [entry]; exact .nil source tags _) (by simp)
    rw [layout.push_nil] at opened
    exact opened
  | close innermost => exact .closeFrame innermost rfl
  | closeBy known form innermost name => exact .closeFrame innermost ⟨known, rfl, rfl⟩

end

/-! ## The layers are preserved -/

/-- The frames of a layout and its blocks cover the document up to an offset. -/
abbrev Layout.Covers (source : Text) (tags : List Tag) (start : Nat) (reached : Nat × Layout) : Prop :=
  Layered source tags start reached.2.frames reached.2.blocks reached.1

section

variable {source : Text} {tags : List Tag} {start : Nat} {before after : Nat × Layout}
  (readIn : ∀ tag ∈ tags, (Token.tag tag).ReadIn source)

include readIn

/-- **Every change preserves the layers.** -/
theorem Layout.Change.covers (change : Layout.Change source tags before after)
    (h : Layout.Covers source tags start before) : Layout.Covers source tags start after := by
  cases change with
  | push laid leaf => exact Layered.push h laid
  | openFrame known named laid leaf =>
    exact ⟨⟨known, named⟩, .nil source tags _, Layered.push h laid⟩
  | @closeFrame pos stop frame outer closing layout innermost closes =>
    have layers : Layered source tags start layout.frames layout.blocks pos := h
    rw [innermost] at layers
    obtain ⟨⟨known, named⟩, children, below⟩ := layers
    have outside : Layout.Covers source tags start (frame.entry,
        { layout with frames := outer, closed := layout.closed ++ [(some frame.tag, closing)] }) :=
      below
    exact Layered.push outside (frameBlocks_laid readIn known named children closes)

/-- What any number of steps has laid out is layered. -/
theorem Layout.Steps.covers (steps : Layout.Steps source tags before after)
    (h : Layout.Covers source tags start before) : Layout.Covers source tags start after := by
  induction steps with
  | refl => exact h
  | tail _ step ih => exact (step.change readIn).covers readIn ih

end

/-! ## Lossless documents -/

/-- The blocks tile the document from `start` to its end, and put together they are its text. -/
structure Lossless (source : Text) (start : Nat) (blocks : List Block) : Prop where
  laid : Laid source (tagsFrom source start) start source.length blocks
  written : writtenBlocks source blocks = source.drop start

lemma build_lossless_from {source : Text} {start : Nat} (inside : start ≤ source.length) :
    Lossless source start (build source start).blocks := by
  have readIn : ∀ tag ∈ tagsFrom source start, (Token.tag tag).ReadIn source :=
    fun tag member => readIn_of_mem_tagsFrom member
  have laid : Laid source (tagsFrom source start) start source.length (build source start).blocks :=
    (build_steps inside).covers readIn (.nil source _ start)
  refine ⟨laid, ?_⟩
  rw [laid.writtenBlocks_eq, Text.slice_length]

lemma bodyOffset_le {text : Text} {frontmatter : Frontmatter}
    (h : splitFrontmatter text = .ok frontmatter) : frontmatter.bodyOffset ≤ text.length := by
  unfold splitFrontmatter at h
  split at h
  · obtain rfl := Except.ok.inj h
    exact Nat.zero_le _
  · split at h
    · obtain rfl := Except.ok.inj h
      exact Nat.zero_le _
    · next first lines _ =>
      split at h
      · exact nomatch h
      · next count _ =>
        cases declared : readDeclarations 2 (lines.take count) with
        | error e =>
          rw [declared] at h
          exact nomatch h
        | ok declarations =>
          rw [declared] at h
          obtain rfl := Except.ok.inj h
          exact Nat.min_le_right _ _

/-- **The block tree is lossless.**  From any offset on, and for every document that can be read, the
blocks tile the document up to its end, each of them holds the text it stands over, and put together
they are the text again. -/
theorem build_lossless (source : Text) :
    (∀ start ≤ source.length, Lossless source start (build source start).blocks) ∧
      ∀ document, Document.parse source = .ok document →
        document.source = source ∧ document.contentStart ≤ source.length ∧
          Lossless source document.contentStart document.blocks := by
  refine ⟨fun start inside => build_lossless_from inside, ?_⟩
  intro document parsed
  unfold Document.parse at parsed
  cases split : splitFrontmatter source with
  | error e =>
    rw [split] at parsed
    exact nomatch parsed
  | ok frontmatter =>
    rw [split] at parsed
    obtain rfl := Except.ok.inj parsed
    have body := bodyOffset_le split
    have inside : frontmatter.bodyOffset + ((source.drop frontmatter.bodyOffset).length -
        (liftImports (source.drop frontmatter.bodyOffset)).2.length) ≤ source.length := by
      rw [List.length_drop]
      omega
    exact ⟨rfl, inside, build_lossless_from inside⟩

/-- A document whose tags cross, and one of which is left open. -/
def crossingDocument : Text :=
  "<User>a<For each=\"list\" as=\"x\">b</User>c</For>d<System>".toList

/-- Crossing tags lose nothing, read as a document or from its third character on. -/
theorem build_lossless_crossing :
    Lossless crossingDocument 2 (build crossingDocument 2).blocks ∧
      ∃ document, Document.parse crossingDocument = .ok document ∧
        Lossless crossingDocument document.contentStart document.blocks := by
  have noFrontmatter : splitFrontmatter crossingDocument = .ok ⟨[], 0⟩ := rfl
  have parsed : ∃ document, Document.parse crossingDocument = .ok document := by
    unfold Document.parse
    rw [noFrontmatter]
    exact ⟨_, rfl⟩
  obtain ⟨document, parsed⟩ := parsed
  exact ⟨(build_lossless crossingDocument).1 2 (by decide), document, parsed,
    ((build_lossless crossingDocument).2 document parsed).2.2⟩

end GlassPrompt
