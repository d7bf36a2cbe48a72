import GlassPrompt.Proofs.Document.Tiling

/-!
# What becomes of closed frames

Every frame is opened by a tag of its own and closed once.  A role or a loop becomes a block that shows
by which tag it was closed; the block stays where it is, unless hoisted code around it takes its place.

* `Layout.Accounted` — no tag opens two frames, and all tags that open or close one are known.
* `Layout.Settled` — every block of a role or loop comes from one closed frame, and ends like it.
* `Layout.Placed` — every closed frame of a role or loop is still there, or is covered by hoisted code.
* `Layout.Change.accounted`, `.settled`, `.placed` — every change preserves the three of them.
* `Layout.Sound`, `build_sound` — together they hold of what is built from a document.
-/

namespace GlassPrompt

/-! ## Visible blocks -/

namespace Layout

/-- All blocks of a layout, finished or in an open frame, at any depth. -/
def visible (layout : Layout) : List Block :=
  walkBlocks layout.blocks ++ layout.frames.flatMap fun frame => walkBlocks frame.children

/-- The opening tags of all frames, open or closed. -/
def openers (layout : Layout) : List (Option Tag) :=
  layout.frames.map (some ·.tag) ++ layout.closed.map Prod.fst

variable {layout : Layout} {block : Block}

lemma mem_visible_push {blocks : List Block} :
    block ∈ (layout.push blocks).visible ↔ block ∈ layout.visible ∨ block ∈ walkBlocks blocks := by
  obtain ⟨frames, finished, closed⟩ := layout
  cases frames with
  | nil => simp [push, visible, walkBlocks_append]
  | cons frame outer =>
    simp only [push, visible, List.flatMap_cons, walkBlocks_append, List.mem_append]
    tauto

lemma visible_openFrame (element : Element) (tag : Tag) :
    (layout.openFrame element tag).visible = layout.visible := by
  simp [openFrame, visible, walkBlocks]

@[simp] lemma openers_push (blocks : List Block) : (layout.push blocks).openers = layout.openers := by
  obtain ⟨frames, finished, closed⟩ := layout
  cases frames <;> rfl

lemma openers_openFrame (element : Element) (tag : Tag) :
    (layout.openFrame element tag).openers = some tag :: layout.openers := rfl

@[simp] lemma closed_push (blocks : List Block) : (layout.push blocks).closed = layout.closed := by
  obtain ⟨frames, finished, closed⟩ := layout
  cases frames <;> rfl

/-! ### Closing a frame -/

variable {source : Text} {frame : Frame} {outer : List Frame} {closing : Option Tag} {stop : Nat}

lemma mem_visible_of_frames (innermost : layout.frames = frame :: outer) :
    block ∈ layout.visible ↔
      block ∈ ({ layout with frames := outer } : Layout).visible ∨
        block ∈ walkBlocks frame.children := by
  simp only [visible, innermost, List.flatMap_cons, List.mem_append]
  tauto

/-- Closing a frame replaces what it holds by what it leaves behind. -/
lemma mem_visible_closeFrame :
    block ∈ (layout.closeFrame source frame outer closing stop).visible ↔
      block ∈ ({ layout with frames := outer } : Layout).visible ∨
        block ∈ walkBlocks (BuildState.frameBlocks source frame closing stop).1 :=
  mem_visible_push

lemma closed_closeFrame :
    (layout.closeFrame source frame outer closing stop).closed =
      layout.closed ++ [(some frame.tag, closing)] :=
  closed_push _

/-- Closing a frame moves its opening tag. -/
lemma openers_closeFrame (innermost : layout.frames = frame :: outer) :
    (layout.closeFrame source frame outer closing stop).openers.Perm layout.openers := by
  rw [closeFrame, openers_push, openers, openers, innermost, List.map_append, List.map_cons,
    List.map_cons, List.map_nil, List.cons_append, ← List.append_assoc]
  exact List.perm_append_singleton _ _

end Layout

/-! ## Every tag opens one frame -/

section

variable {source : Text} {tags : List Tag} {start : Nat} {before after : Nat × Layout}

/-- No tag opens two frames; the tags that open a frame are known and lie before the offset that is
reached; and the tags that close one are known. -/
structure Layout.Accounted (tags : List Tag) (reached : Nat × Layout) : Prop where
  once : reached.2.openers.Nodup
  known : ∀ opener ∈ reached.2.openers, ∃ opening ∈ tags, opener = some opening ∧
    opening.start < reached.1
  closings : ∀ entry ∈ reached.2.closed, ∀ closing, entry.2 = some closing → closing ∈ tags

/-- The offset never moves back. -/
lemma Layout.Change.le (readIn : ∀ tag ∈ tags, (Token.tag tag).ReadIn source)
    (change : Layout.Change source tags before after) : before.1 ≤ after.1 := by
  cases change with
  | push laid leaf => exact laid.tiles.le
  | openFrame known named laid leaf => exact Nat.le_of_lt (readIn _ known).1
  | closeFrame innermost closes => exact closes.le readIn

theorem Layout.Change.accounted (readIn : ∀ tag ∈ tags, (Token.tag tag).ReadIn source)
    (change : Layout.Change source tags before after) (h : Layout.Accounted tags before) :
    Layout.Accounted tags after := by
  have onward := change.le readIn
  obtain ⟨once, known, closings⟩ := h
  have still : ∀ opener ∈ before.2.openers, ∃ opening ∈ tags, opener = some opening ∧
      opening.start < after.1 := by
    intro opener member
    obtain ⟨opening, isTag, eq, passed⟩ := known opener member
    exact ⟨opening, isTag, eq, Nat.lt_of_lt_of_le passed onward⟩
  cases change with
  | push laid leaf =>
    refine ⟨?_, ?_, ?_⟩
    · rw [openers_push]
      exact once
    · rw [openers_push]
      exact still
    · rw [closed_push]
      exact closings
  | @openFrame tag element leaves layout isTag named laid leaf =>
    have openers :
        ((layout.push leaves).openFrame element tag).openers = some tag :: layout.openers := by
      rw [openers_openFrame, openers_push]
    have fresh : some tag ∉ layout.openers := by
      intro member
      obtain ⟨opening, -, eq, passed⟩ := known _ member
      obtain rfl := Option.some.inj eq
      exact Nat.lt_irrefl _ passed
    refine ⟨?_, ?_, ?_⟩
    · rw [openers]
      exact List.nodup_cons.2 ⟨fresh, once⟩
    · rw [openers]
      exact List.forall_mem_cons.2 ⟨⟨tag, isTag, rfl, (readIn tag isTag).1⟩, still⟩
    · show ∀ entry ∈ (layout.push leaves).closed, _
      rw [closed_push]
      exact closings
  | @closeFrame pos stop frame outer closing layout innermost closes =>
    have openers : (layout.closeFrame source frame outer closing stop).openers.Perm layout.openers :=
      openers_closeFrame innermost
    refine ⟨openers.nodup_iff.2 once, ?_, ?_⟩
    · intro opener member
      exact still opener (openers.mem_iff.1 member)
    · rw [closed_closeFrame]
      intro entry member tag isClosing
      rcases List.mem_append.1 member with member | member
      · exact closings entry member tag isClosing
      · rw [List.mem_singleton.1 member] at isClosing
        obtain rfl : closing = some tag := isClosing
        exact closes.1

/-- A frame is closed once. -/
lemma Layout.Accounted.closing_unique {reached : Nat × Layout} (h : Layout.Accounted tags reached)
    {opener first second : Option Tag} (isFirst : (opener, first) ∈ reached.2.closed)
    (isSecond : (opener, second) ∈ reached.2.closed) : first = second := by
  have once : (reached.2.closed.map Prod.fst).Nodup := (List.nodup_append.1 h.once).2.1
  have same : (opener, first) = (opener, second) :=
    List.inj_on_of_nodup_map once isFirst isSecond rfl
  exact congrArg Prod.snd same

/-! ## What closed frames look like -/

/-- The text of the closing tag of a role or loop. -/
def Block.closeText : Block → Text
  | .role _ _ closeTag _ _ => closeTag
  | .loop _ _ _ closeTag _ _ => closeTag
  | _ => []

/-- The block comes from a frame that `opening` opened and that `closing` closed, if there is such a
tag. -/
structure Block.ClosedBy (source : Text) (opening : Tag) (closing : Option Tag) (block : Block) :
    Prop where
  element : block.element? = opening.element?
  start : block.span.start = opening.start
  text : block.closeText = closingText source closing
  stop : ∀ tag, closing = some tag → block.span.stop = tag.stop

lemma Block.ClosedBy.closeText_ne_nil_iff {opening : Tag} {closing : Option Tag} {block : Block}
    (h : block.ClosedBy source opening closing)
    (readIn : ∀ tag, closing = some tag → (Token.tag tag).ReadIn source) :
    block.closeText ≠ [] ↔ ∃ tag, closing = some tag := by
  rw [h.text]
  cases closing with
  | none => simp [closingText]
  | some tag =>
    obtain ⟨nonempty, inside, -⟩ := readIn tag rfl
    refine iff_of_true (fun empty => ?_) ⟨tag, rfl⟩
    have lengths : (source.slice tag.start tag.stop).length = tag.stop - tag.start :=
      Text.length_slice inside
    rw [closingText] at empty
    rw [empty, List.length_nil] at lengths
    have nonempty : tag.start < tag.stop := nonempty
    omega

/-- Every visible role or loop comes from a closed frame. -/
def Layout.Settled (source : Text) (layout : Layout) : Prop :=
  ∀ block ∈ layout.visible, ∀ element, block.element? = some element →
    ∃ opening closing, (some opening, closing) ∈ layout.closed ∧
      block.ClosedBy source opening closing

/-- The roles and loops that a frame leaves behind: those inside it, and itself. -/
lemma frameBlocks_closedBy {frame : Frame} {closing : Option Tag} {pos stop : Nat}
    (named : frame.tag.element? = some frame.element) (closes : ClosedFrom tags pos stop closing)
    {block : Block} {element : Element} (isElement : block.element? = some element)
    (member : block ∈ walkBlocks (BuildState.frameBlocks source frame closing stop).1) :
    block ∈ walkBlocks frame.children ∨ block.ClosedBy source frame.tag closing := by
  have stops : ∀ tag, closing = some tag → stop = tag.stop := by
    rintro tag rfl
    exact closes.2.2.symm
  obtain ⟨kind, tag, children⟩ := frame
  cases kind with
  | role speaker =>
    rw [frameBlocks_role] at member
    simp only [walkBlocks, Block.walk, List.append_nil, List.mem_cons] at member
    rcases member with rfl | inner
    · exact .inr ⟨named.symm, rfl, rfl, stops⟩
    · exact .inl inner
  | loop =>
    rw [frameBlocks_loop] at member
    simp only [walkBlocks, Block.walk, List.append_nil, List.mem_cons] at member
    rcases member with rfl | inner
    · exact .inr ⟨named.symm, rfl, rfl, stops⟩
    · exact .inl inner
  | code =>
    obtain ⟨kept, blocks⟩ := frameBlocks_code source tag children closing stop
    rw [blocks] at member
    obtain rfl : block = .hoisted kept ⟨tag.start, stop⟩ := List.mem_singleton.1 member
    exact nomatch isElement
  | request =>
    rw [frameBlocks_request, walkBlocks_append] at member
    rcases List.mem_append.1 member with inner | text
    · exact .inl inner
    · cases closing with
      | none => exact nomatch text
      | some closingTag =>
        obtain rfl : block = BuildState.tagText source closingTag := List.mem_singleton.1 text
        exact nomatch isElement

theorem Layout.Change.settled (change : Layout.Change source tags before after)
    (covers : Layout.Covers source tags start before) (h : before.2.Settled source) :
    after.2.Settled source := by
  cases change with
  | push laid leaf =>
    intro block member element isElement
    rw [closed_push]
    rcases mem_visible_push.1 member with old | new
    · exact h block old element isElement
    · rw [walkBlocks_of_leaves leaf] at new
      rw [leaf block new] at isElement
      exact nomatch isElement
  | openFrame known named laid leaf =>
    intro block member element isElement
    rw [visible_openFrame] at member
    show ∃ opening closing, _ ∈ (Layout.push _ _).closed ∧ _
    rw [closed_push]
    rcases mem_visible_push.1 member with old | new
    · exact h block old element isElement
    · rw [walkBlocks_of_leaves leaf] at new
      rw [leaf block new] at isElement
      exact nomatch isElement
  | @closeFrame pos stop frame outer closing layout innermost closes =>
    have layers : Layered source tags start layout.frames layout.blocks pos := covers
    rw [innermost] at layers
    intro block member element isElement
    have old : block ∈ layout.visible → ∃ opening closed,
        (some opening, closed) ∈ (layout.closeFrame source frame outer closing stop).closed ∧
          block.ClosedBy source opening closed := by
      intro member
      obtain ⟨opening, closed, known, closedBy⟩ := h block member element isElement
      rw [closed_closeFrame]
      exact ⟨opening, closed, List.mem_append_left _ known, closedBy⟩
    rcases mem_visible_closeFrame.1 member with outside | new
    · exact old ((mem_visible_of_frames innermost).2 (.inl outside))
    · rcases frameBlocks_closedBy layers.1.2 closes isElement new with inner | itself
      · exact old ((mem_visible_of_frames innermost).2 (.inr inner))
      · rw [closed_closeFrame]
        exact ⟨frame.tag, closing, List.mem_append_right _ (List.mem_singleton_self _), itself⟩

/-! ## Where closed frames are -/

/-- Blocks can stand inside the element and stay there. -/
def Element.isContainer : Element → Bool
  | .role _ => true
  | .loop => true
  | _ => false

/-- The block is hoisted code. -/
def Block.isHoisted : Block → Bool
  | .hoisted .. => true
  | _ => false

/-- The block covers the tag, as the block that the tag opens or as hoisted code around it. -/
structure Block.Holds (opening : Tag) (block : Block) : Prop where
  starts : block.span.start ≤ opening.start
  stops : opening.stop ≤ block.span.stop
  kind : (block.element? = opening.element? ∧ block.span.start = opening.start) ∨
    block.isHoisted = true

/-- The opening tag of every closed role or loop is held by a visible block. -/
def Layout.Placed (layout : Layout) : Prop :=
  ∀ opening closing, (some opening, closing) ∈ layout.closed →
    ∀ element, opening.element? = some element → element.isContainer = true →
      ∃ block ∈ layout.visible, block.Holds opening

/-- The block is hoisted code over all of the other block. -/
structure Block.Hides (block other : Block) : Prop where
  hoisted : block.isHoisted = true
  starts : block.span.start ≤ other.span.start
  stops : other.span.stop ≤ block.span.stop

/-- A block inside a frame is left behind by the frame, or hidden by hoisted code that is. -/
lemma mem_frameBlocks_or_hidden {frame : Frame} (closing : Option Tag) {pos stop : Nat}
    (readIn : (Token.tag frame.tag).ReadIn source)
    (laid : Laid source tags frame.tag.stop pos frame.children) (onward : pos ≤ stop)
    {block : Block} (member : block ∈ walkBlocks frame.children) :
    block ∈ walkBlocks (BuildState.frameBlocks source frame closing stop).1 ∨
      ∃ hoisted ∈ walkBlocks (BuildState.frameBlocks source frame closing stop).1,
        hoisted.Hides block := by
  have inside := laid.walk_bounds block member
  obtain ⟨kind, tag, children⟩ := frame
  cases kind with
  | role speaker =>
    rw [frameBlocks_role]
    exact .inl (by simp [walkBlocks, Block.walk, member])
  | loop =>
    rw [frameBlocks_loop]
    exact .inl (by simp [walkBlocks, Block.walk, member])
  | request =>
    rw [frameBlocks_request, walkBlocks_append]
    exact .inl (List.mem_append_left _ member)
  | code =>
    obtain ⟨kept, blocks⟩ := frameBlocks_code source tag children closing stop
    rw [blocks]
    have nonempty : tag.start < tag.stop := readIn.1
    exact .inr ⟨.hoisted kept ⟨tag.start, stop⟩, List.mem_singleton_self _, rfl,
      Nat.le_trans (Nat.le_of_lt nonempty) inside.1, Nat.le_trans inside.2 onward⟩

/-- What is held inside a frame is still held by what the frame leaves behind. -/
lemma frameBlocks_holds {frame : Frame} {closing : Option Tag} {pos stop : Nat}
    (readIn : (Token.tag frame.tag).ReadIn source)
    (laid : Laid source tags frame.tag.stop pos frame.children) (onward : pos ≤ stop)
    {opening : Tag} {block : Block} (member : block ∈ walkBlocks frame.children)
    (holds : block.Holds opening) :
    ∃ block ∈ walkBlocks (BuildState.frameBlocks source frame closing stop).1,
      block.Holds opening := by
  rcases mem_frameBlocks_or_hidden closing readIn laid onward member with
    stays | ⟨code, stays, hides⟩
  · exact ⟨block, stays, holds⟩
  · exact ⟨code, stays, Nat.le_trans hides.starts holds.starts,
      Nat.le_trans holds.stops hides.stops, .inr hides.hoisted⟩

/-- A role or a loop leaves a block of its own behind. -/
lemma frameBlocks_holds_itself {frame : Frame} {closing : Option Tag} {stop : Nat}
    (named : frame.tag.element? = some frame.element) (container : frame.element.isContainer = true)
    (ordered : frame.tag.stop ≤ stop) :
    ∃ block ∈ walkBlocks (BuildState.frameBlocks source frame closing stop).1,
      block.Holds frame.tag := by
  obtain ⟨kind, tag, children⟩ := frame
  cases kind with
  | role speaker =>
    rw [frameBlocks_role]
    exact ⟨_, List.mem_cons_self, ⟨Nat.le_refl _, ordered, .inl ⟨named.symm, rfl⟩⟩⟩
  | loop =>
    rw [frameBlocks_loop]
    exact ⟨_, List.mem_cons_self, ⟨Nat.le_refl _, ordered, .inl ⟨named.symm, rfl⟩⟩⟩
  | request => exact nomatch container
  | code => exact nomatch container

theorem Layout.Change.placed (readIn : ∀ tag ∈ tags, (Token.tag tag).ReadIn source)
    (change : Layout.Change source tags before after)
    (covers : Layout.Covers source tags start before) (h : before.2.Placed) : after.2.Placed := by
  cases change with
  | push laid leaf =>
    intro opening closing known element named container
    rw [closed_push] at known
    obtain ⟨block, member, holds⟩ := h opening closing known element named container
    exact ⟨block, mem_visible_push.2 (.inl member), holds⟩
  | openFrame isTag named laid leaf =>
    intro opening closing known element named container
    rw [visible_openFrame]
    obtain ⟨block, member, holds⟩ :=
      h opening closing (closed_push _ ▸ known) element named container
    exact ⟨block, mem_visible_push.2 (.inl member), holds⟩
  | @closeFrame pos stop frame outer closed layout innermost closes =>
    have layers : Layered source tags start layout.frames layout.blocks pos := covers
    rw [innermost] at layers
    obtain ⟨⟨isTag, isElement⟩, children, -⟩ := layers
    intro opening closing known element named container
    rw [closed_closeFrame] at known
    rcases List.mem_append.1 known with old | new
    · obtain ⟨block, member, holds⟩ := h opening closing old element named container
      rcases (mem_visible_of_frames innermost).1 member with outside | inner
      · exact ⟨block, mem_visible_closeFrame.2 (.inl outside), holds⟩
      · obtain ⟨block, member, holds⟩ := frameBlocks_holds (readIn _ isTag) children
          (closes.le readIn) inner holds
        exact ⟨block, mem_visible_closeFrame.2 (.inr member), holds⟩
    · obtain ⟨rfl, rfl⟩ : opening = frame.tag ∧ closing = closed := by simpa using new
      obtain rfl : frame.element = element := Option.some.inj (isElement.symm.trans named)
      obtain ⟨block, member, holds⟩ := frameBlocks_holds_itself isElement container
        (Nat.le_trans children.tiles.le (closes.le readIn))
      exact ⟨block, mem_visible_closeFrame.2 (.inr member), holds⟩

/-! ## The invariant of a run -/

/-- All that is known about a layout. -/
structure Layout.Sound (source : Text) (tags : List Tag) (start : Nat) (reached : Nat × Layout) :
    Prop where
  covers : Layout.Covers source tags start reached
  accounted : Layout.Accounted tags reached
  settled : reached.2.Settled source
  placed : reached.2.Placed

lemma Layout.Sound.empty (source : Text) (tags : List Tag) (start : Nat) :
    Layout.Sound source tags start (start, .empty) := by
  refine ⟨.nil source tags start, ⟨.nil, ?_, ?_⟩, ?_, ?_⟩
  · intro opener none
    exact nomatch none
  · intro entry none
    exact nomatch none
  · intro block none
    exact nomatch none
  · intro opening closing none
    exact nomatch none

theorem Layout.Steps.sound (readIn : ∀ tag ∈ tags, (Token.tag tag).ReadIn source)
    (steps : Layout.Steps source tags before after) (h : Layout.Sound source tags start before) :
    Layout.Sound source tags start after := by
  induction steps with
  | refl => exact h
  | tail _ step ih =>
    have change := step.change readIn
    exact ⟨change.covers readIn ih.covers, change.accounted readIn ih.accounted,
      change.settled ih.covers ih.settled, change.placed readIn ih.covers ih.placed⟩

end

/-- What is built from a document is sound. -/
theorem build_sound {source : Text} {start : Nat} (inside : start ≤ source.length) :
    Layout.Sound source (tagsFrom source start) start
      (source.length, ⟨[], (build source start).blocks, (build source start).layout.closed⟩) :=
  (build_steps inside).sound (fun _ member => readIn_of_mem_tagsFrom member) (.empty source _ start)

end GlassPrompt
