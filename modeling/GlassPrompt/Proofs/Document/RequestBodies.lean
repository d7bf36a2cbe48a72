import GlassPrompt.Proofs.Document.Requests
import GlassPrompt.Proofs.Document.StackDiscipline

/-!
# The bodies of requests

A request tag with a body leaves its block ahead of the body, and the body among the blocks around it;
its closing tag stays behind the body as literal text.  The three stay side by side, whatever is closed
around them later, unless hoisted code takes the place of all of them.

* `OpensBehind`, `Layout.Step.opensBehind` — an open request stands right behind its block.
* `Layout.siblings`, `siblings_closeFrame` — blocks that stand side by side, and what becomes of them.
* `RequestBody`, `Layout.KeepsPair` — the body between the two tags of a pair.
* `Layout.Change.pairsKept`, `requestPairs_build` — the pairs of request tags in a document.
-/

namespace GlassPrompt

/-! ## Open requests -/

/-- The blocks that have been read in the innermost open element. -/
def innermostOf : List Frame → List Block → List Block
  | [], blocks => blocks
  | frame :: _, _ => frame.children

/-- The block of every open request stands last in the list around its frame. -/
def OpensBehind (source : Text) : List Frame → List Block → Prop
  | [], _ => True
  | frame :: outer, blocks =>
    (frame.element = .request →
        (innermostOf outer blocks).getLast? = some (Layout.requestBlock source frame.tag)) ∧
      OpensBehind source outer blocks

section

variable {source : Text} {tags : List Tag} {layout : Layout}

lemma innermostOf_push (new : List Block) :
    innermostOf (layout.push new).frames (layout.push new).blocks =
      innermostOf layout.frames layout.blocks ++ new := by
  obtain ⟨frames, blocks, closed⟩ := layout
  cases frames <;> rfl

/-- What is pushed stands in the innermost element, and around that one nothing changes. -/
lemma OpensBehind.push (h : OpensBehind source layout.frames layout.blocks) (new : List Block) :
    OpensBehind source (layout.push new).frames (layout.push new).blocks := by
  obtain ⟨frames, blocks, closed⟩ := layout
  cases frames with
  | nil => trivial
  | cons frame outer => exact h

/-- **Every step keeps open requests right behind their blocks.** -/
theorem Layout.Step.opensBehind {before after : Nat × Layout}
    (step : Layout.Step source tags before after)
    (h : OpensBehind source before.2.frames before.2.blocks) :
    OpensBehind source after.2.frames after.2.blocks := by
  have closes {layout : Layout} {frame : Frame} {outer : List Frame}
      (innermost : layout.frames = frame :: outer)
      (h : OpensBehind source layout.frames layout.blocks) (closing : Option Tag) (stop : Nat) :
      OpensBehind source (layout.closeFrame source frame outer closing stop).frames
        (layout.closeFrame source frame outer closing stop).blocks := by
    rw [innermost] at h
    have around : OpensBehind source
        ({ layout with frames := outer, closed := layout.closed ++ [(some frame.tag, closing)] }
          : Layout).frames layout.blocks := h.2
    exact around.push _
  cases step with
  | text | region | literal | request => exact h.push _
  | @openRequest tag layout known element form =>
    refine ⟨fun _ => ?_, h.push _⟩
    show (innermostOf (layout.push _).frames (layout.push _).blocks).getLast? = _
    rw [innermostOf_push, List.getLast?_concat]
  | openOther known named other form => exact ⟨fun isRequest => absurd isRequest other, h⟩
  | close innermost => exact closes innermost h _ _
  | closeBy known form innermost name => exact closes innermost h _ _

end

/-! ## Blocks side by side -/

/-- The lists of blocks that stand side by side: the finished ones, those of the open frames, and the
children of every visible block. -/
def Layout.siblings (layout : Layout) : List (List Block) :=
  layout.blocks :: (layout.frames.map Frame.children ++ layout.visible.map Block.children)

lemma Layout.mem_siblings {layout : Layout} {siblings : List Block} :
    siblings ∈ layout.siblings ↔ siblings = layout.blocks ∨
      (∃ frame ∈ layout.frames, frame.children = siblings) ∨
        ∃ block ∈ layout.visible, block.children = siblings := by
  rw [Layout.siblings, List.mem_cons, List.mem_append, List.mem_map, List.mem_map]

section

variable {layout : Layout} {siblings : List Block}

/-- What stands side by side still does when blocks are added. -/
lemma exists_siblings_push (member : siblings ∈ layout.siblings) (new : List Block) :
    ∃ longer ∈ (layout.push new).siblings, siblings <:+: longer := by
  rcases Layout.mem_siblings.1 member with rfl | ⟨frame, isFrame, rfl⟩ | ⟨block, visible, rfl⟩
  · obtain ⟨frames, blocks, closed⟩ := layout
    cases frames with
    | nil => exact ⟨_, List.mem_cons_self, List.infix_append [] blocks new⟩
    | cons frame outer => exact ⟨_, List.mem_cons_self, List.infix_rfl⟩
  · obtain ⟨frames, blocks, closed⟩ := layout
    cases frames with
    | nil => exact nomatch isFrame
    | cons first outer =>
      rcases List.mem_cons.1 isFrame with rfl | isOuter
      · refine ⟨frame.children ++ new, Layout.mem_siblings.2 (.inr (.inl ?_)),
          List.infix_append [] frame.children new⟩
        exact ⟨_, List.mem_cons_self, rfl⟩
      · refine ⟨frame.children, Layout.mem_siblings.2 (.inr (.inl ?_)), List.infix_rfl⟩
        exact ⟨frame, List.mem_cons_of_mem _ isOuter, rfl⟩
  · have stays : block ∈ (layout.push new).visible := Layout.mem_visible_push.2 (.inl visible)
    exact ⟨_, Layout.mem_siblings.2 (.inr (.inr ⟨block, stays, rfl⟩)), List.infix_rfl⟩

/-- The innermost list grows by what is pushed. -/
lemma innermostOf_mem_siblings (layout : Layout) :
    innermostOf layout.frames layout.blocks ∈ layout.siblings := by
  cases frames : layout.frames with
  | nil => exact List.mem_cons_self
  | cons frame outer =>
    refine Layout.mem_siblings.2 (.inr (.inl ⟨frame, ?_, rfl⟩))
    rw [frames]
    exact List.mem_cons_self

lemma mem_siblings_openFrame (member : siblings ∈ layout.siblings) (element : Element) (tag : Tag) :
    siblings ∈ (layout.openFrame element tag).siblings := by
  refine Layout.mem_siblings.2 ?_
  rw [Layout.visible_openFrame]
  refine (Layout.mem_siblings.1 member).imp_right (Or.imp_left fun ⟨frame, isFrame, same⟩ => ?_)
  exact ⟨frame, List.mem_cons_of_mem _ isFrame, same⟩

end

section

variable {source : Text} {tags : List Tag} {start : Nat}

/-- What stands side by side in a frame still does in the blocks that the frame leaves behind, or hoisted
code takes its place. -/
lemma exists_siblings_frameBlocks {frame : Frame} (closing : Option Tag) {pos stop : Nat}
    (readIn : (Token.tag frame.tag).ReadIn source)
    (laid : Laid source tags frame.tag.stop pos frame.children) (onward : pos ≤ stop)
    {siblings : List Block}
    (inside : siblings = frame.children ∨
      ∃ block ∈ walkBlocks frame.children, block.children = siblings) :
    siblings <:+: (BuildState.frameBlocks source frame closing stop).1 ∨
      (∃ block ∈ walkBlocks (BuildState.frameBlocks source frame closing stop).1,
        block.children = siblings) ∨
      ∃ code ∈ walkBlocks (BuildState.frameBlocks source frame closing stop).1,
        ∀ block ∈ siblings, code.Hides block := by
  have walked : ∀ block ∈ siblings, block ∈ walkBlocks frame.children := by
    rcases inside with rfl | ⟨parent, member, rfl⟩
    · exact fun block isChild => mem_walkBlocks isChild
    · exact fun block isChild => walkBlocks_children_subset member (mem_walkBlocks isChild)
  obtain ⟨element, tag, children⟩ := frame
  cases element with
  | code =>
    obtain ⟨kept, blocks⟩ := frameBlocks_code source tag children closing stop
    refine .inr (.inr ⟨.hoisted kept ⟨tag.start, stop⟩, ?_, fun block member => ?_⟩)
    · rw [blocks]
      exact List.mem_singleton_self _
    · have bounds := laid.walk_bounds block (walked block member)
      exact ⟨rfl, Nat.le_trans (Nat.le_of_lt readIn.start_lt_stop) bounds.1,
        Nat.le_trans bounds.2 onward⟩
  | request =>
    rw [frameBlocks_request, walkBlocks_append]
    rcases inside with rfl | ⟨block, member, rfl⟩
    · exact .inl (List.infix_append [] _ _)
    · exact .inr (.inl ⟨block, List.mem_append_left _ member, rfl⟩)
  | role speaker =>
    rw [frameBlocks_role]
    refine .inr (.inl ?_)
    rcases inside with rfl | ⟨block, member, rfl⟩
    · exact ⟨_, List.mem_cons_self, rfl⟩
    · exact ⟨block, by simp [walkBlocks, Block.walk, member], rfl⟩
  | loop =>
    rw [frameBlocks_loop]
    refine .inr (.inl ?_)
    rcases inside with rfl | ⟨block, member, rfl⟩
    · exact ⟨_, List.mem_cons_self, rfl⟩
    · exact ⟨block, by simp [walkBlocks, Block.walk, member], rfl⟩

/-- **What stands side by side still does when a frame is closed**, or hoisted code takes its place. -/
theorem siblings_closeFrame {layout : Layout} {frame : Frame} {outer : List Frame}
    {closing : Option Tag} {pos stop : Nat} (readIn : (Token.tag frame.tag).ReadIn source)
    (innermost : layout.frames = frame :: outer)
    (laid : Laid source tags frame.tag.stop pos frame.children) (onward : pos ≤ stop)
    {siblings : List Block} (member : siblings ∈ layout.siblings) :
    (∃ longer ∈ (layout.closeFrame source frame outer closing stop).siblings,
        siblings <:+: longer) ∨
      ∃ code ∈ (layout.closeFrame source frame outer closing stop).visible,
        ∀ block ∈ siblings, code.Hides block := by
  have around {siblings : List Block} (known : siblings ∈ ({ layout with
      frames := outer, closed := layout.closed ++ [(some frame.tag, closing)] } : Layout).siblings) :=
    exists_siblings_push known (BuildState.frameBlocks source frame closing stop).1
  have inside (within : siblings = frame.children ∨
      ∃ block ∈ walkBlocks frame.children, block.children = siblings) :
      (∃ longer ∈ (layout.closeFrame source frame outer closing stop).siblings,
          siblings <:+: longer) ∨
        ∃ code ∈ (layout.closeFrame source frame outer closing stop).visible,
          ∀ block ∈ siblings, code.Hides block := by
    rcases exists_siblings_frameBlocks closing readIn laid onward within with
      left | ⟨block, stays, rfl⟩ | ⟨code, stays, hides⟩
    · -- the innermost list ends with the blocks that the frame leaves behind
      refine .inl ⟨_, innermostOf_mem_siblings _, left.trans ?_⟩
      rw [Layout.closeFrame, innermostOf_push]
      exact (List.suffix_append _ _).isInfix
    · have visible : block ∈ (layout.closeFrame source frame outer closing stop).visible :=
        Layout.mem_visible_closeFrame.2 (.inr stays)
      exact .inl ⟨_, Layout.mem_siblings.2 (.inr (.inr ⟨block, visible, rfl⟩)), List.infix_rfl⟩
    · exact .inr ⟨code, Layout.mem_visible_closeFrame.2 (.inr stays), hides⟩
  rcases Layout.mem_siblings.1 member with rfl | ⟨other, isFrame, rfl⟩ | ⟨block, visible, rfl⟩
  · exact .inl (around List.mem_cons_self)
  · rw [innermost] at isFrame
    rcases List.mem_cons.1 isFrame with rfl | isOuter
    · exact inside (.inl rfl)
    · exact .inl (around (Layout.mem_siblings.2 (.inr (.inl ⟨other, isOuter, rfl⟩))))
  · rcases (Layout.mem_visible_of_frames innermost).1 visible with outside | within
    · exact .inl (around (Layout.mem_siblings.2 (.inr (.inr ⟨block, outside, rfl⟩))))
    · exact inside (.inr ⟨block, within, rfl⟩)

end

/-! ## The tags of a request and what is between them -/

/-- The block of an opening request tag, a body that reaches from this tag to the closing one, and the
closing tag as literal text. -/
structure RequestBody (source : Text) (tags : List Tag) (pair : TagPair) (body siblings : List Block) :
    Prop where
  laid : Laid source tags pair.opening.stop pair.closing.start body
  stands : Layout.requestBlock source pair.opening ::
    (body ++ [BuildState.tagText source pair.closing]) <:+: siblings

/-- Hoisted code takes the place of both tags. -/
def Block.HidesPair (source : Text) (pair : TagPair) (code : Block) : Prop :=
  code.Hides (Layout.requestBlock source pair.opening) ∧
    code.Hides (BuildState.tagText source pair.closing)

/-- The body of a pair stands between its tags, or visible code hides both of them. -/
def Layout.KeepsPair (source : Text) (tags : List Tag) (pair : TagPair) (layout : Layout) : Prop :=
  (∃ siblings ∈ layout.siblings, ∃ body, RequestBody source tags pair body siblings) ∨
    ∃ code ∈ layout.visible, code.HidesPair source pair

/-- All closed pairs of request tags are kept. -/
def Layout.PairsKept (source : Text) (tags : List Tag) (layout : Layout) : Prop :=
  ∀ pair : TagPair, (some pair.opening, some pair.closing) ∈ layout.closed →
    pair.opening.element? = some .request → layout.KeepsPair source tags pair

section

variable {source : Text} {tags : List Tag} {start : Nat} {pair : TagPair}

lemma RequestBody.mono {body siblings longer : List Block}
    (request : RequestBody source tags pair body siblings) (inside : siblings <:+: longer) :
    RequestBody source tags pair body longer :=
  ⟨request.laid, request.stands.trans inside⟩

/-- Code that hides the siblings of a body hides its tags. -/
lemma RequestBody.hidesPair {body siblings : List Block} {code : Block}
    (request : RequestBody source tags pair body siblings)
    (hides : ∀ block ∈ siblings, code.Hides block) : code.HidesPair source pair :=
  ⟨hides _ (request.stands.subset List.mem_cons_self),
    hides _ (request.stands.subset (List.mem_cons_of_mem _ (List.mem_append_right _
      (List.mem_singleton_self _))))⟩

lemma Layout.KeepsPair.push {layout : Layout} (keeps : layout.KeepsPair source tags pair)
    (new : List Block) : (layout.push new).KeepsPair source tags pair := by
  rcases keeps with ⟨siblings, member, body, request⟩ | ⟨code, visible, hides⟩
  · obtain ⟨longer, stays, inside⟩ := exists_siblings_push member new
    exact .inl ⟨longer, stays, body, request.mono inside⟩
  · exact .inr ⟨code, mem_visible_push.2 (.inl visible), hides⟩

/-- The frame of a request leaves its body behind its block, with the closing tag behind that. -/
lemma keepsPair_closeFrame {layout : Layout} {frame : Frame} {outer : List Frame} {closing : Tag}
    {pos stop : Nat} (covers : Layout.Covers source tags start (pos, layout))
    (opens : OpensBehind source layout.frames layout.blocks)
    (innermost : layout.frames = frame :: outer)
    (closes : ClosedFrom tags pos stop (some closing)) (isRequest : frame.tag.element? = some .request) :
    (layout.closeFrame source frame outer (some closing) stop).KeepsPair source tags
      ⟨frame.tag, closing⟩ := by
  have layers : Layered source tags start layout.frames layout.blocks pos := covers
  rw [innermost] at layers opens
  obtain ⟨⟨known, named⟩, laid, -⟩ := layers
  have element : frame.element = .request := Option.some.inj (named.symm.trans isRequest)
  obtain ⟨ahead, last⟩ := List.getLast?_eq_some_iff.1 (opens.1 element)
  refine .inl ⟨_, innermostOf_mem_siblings _, frame.children, ?_, ?_⟩
  · rw [closes.2.1]
    exact laid
  · rw [Layout.closeFrame, innermostOf_push]
    show _ <:+: innermostOf outer layout.blocks ++ _
    obtain ⟨kind, tag, children⟩ := frame
    obtain rfl : kind = .request := element
    rw [last, frameBlocks_request, List.append_assoc]
    exact (List.suffix_append _ _).isInfix

variable {before after : Nat × Layout} (readIn : ∀ tag ∈ tags, (Token.tag tag).ReadIn source)

include readIn

/-- A pair that is kept is kept when a frame is closed. -/
lemma Layout.KeepsPair.closeFrame {layout : Layout} {frame : Frame} {outer : List Frame}
    {closing : Option Tag} {pos stop : Nat} (keeps : layout.KeepsPair source tags pair)
    (covers : Layout.Covers source tags start (pos, layout))
    (innermost : layout.frames = frame :: outer) (closes : ClosedFrom tags pos stop closing) :
    (layout.closeFrame source frame outer closing stop).KeepsPair source tags pair := by
  have layers : Layered source tags start layout.frames layout.blocks pos := covers
  rw [innermost] at layers
  obtain ⟨⟨known, -⟩, laid, -⟩ := layers
  rcases keeps with ⟨siblings, member, body, request⟩ | ⟨code, visible, opening, closingTag⟩
  · rcases siblings_closeFrame (readIn _ known) innermost laid (closes.le readIn) member with
      ⟨longer, stays, inside⟩ | ⟨code, visible, hides⟩
    · exact .inl ⟨longer, stays, body, request.mono inside⟩
    · exact .inr ⟨code, visible, request.hidesPair hides⟩
  · rcases (mem_visible_of_frames innermost).1 visible with outside | inside
    · exact .inr ⟨code, mem_visible_closeFrame.2 (.inl outside), opening, closingTag⟩
    · rcases mem_frameBlocks_or_hidden closing (readIn _ known) laid (closes.le readIn) inside with
        stays | ⟨around, stays, hides⟩
      · exact .inr ⟨code, mem_visible_closeFrame.2 (.inr stays), opening, closingTag⟩
      · exact .inr ⟨around, mem_visible_closeFrame.2 (.inr stays), hides.trans opening,
          hides.trans closingTag⟩

/-- **Every change keeps the pairs of request tags.** -/
theorem Layout.Change.pairsKept (change : Layout.Change source tags before after)
    (covers : Layout.Covers source tags start before)
    (opens : OpensBehind source before.2.frames before.2.blocks)
    (h : before.2.PairsKept source tags) : after.2.PairsKept source tags := by
  cases change with
  | push laid leaf =>
    intro pair closed isRequest
    rw [closed_push] at closed
    exact (h pair closed isRequest).push _
  | @openFrame tag element leaves layout known named laid leaf =>
    intro pair closed isRequest
    have kept := (h pair (closed_push leaves ▸ closed) isRequest).push leaves
    refine kept.imp (fun ⟨siblings, member, request⟩ => ?_) fun ⟨code, visible, hides⟩ => ?_
    · exact ⟨siblings, mem_siblings_openFrame member _ _, request⟩
    · exact ⟨code, by rwa [visible_openFrame], hides⟩
  | @closeFrame pos stop frame outer closing layout innermost closes =>
    intro pair closed isRequest
    rw [closed_closeFrame] at closed
    rcases List.mem_append.1 closed with old | new
    · exact (h pair old isRequest).closeFrame readIn covers innermost closes
    · obtain ⟨opening, closingTag⟩ := pair
      obtain ⟨rfl, rfl⟩ : opening = frame.tag ∧ some closingTag = closing := by simpa using new
      exact keepsPair_closeFrame covers opens innermost closes isRequest

theorem Layout.Steps.pairsKept (steps : Layout.Steps source tags before after)
    (covers : Layout.Covers source tags start before)
    (opens : OpensBehind source before.2.frames before.2.blocks)
    (h : before.2.PairsKept source tags) :
    OpensBehind source after.2.frames after.2.blocks ∧ after.2.PairsKept source tags := by
  induction steps with
  | refl => exact ⟨opens, h⟩
  | tail steps step ih =>
    exact ⟨step.opensBehind ih.1, (step.change readIn).pairsKept readIn
      (Layout.Steps.covers readIn steps covers) ih.1 ih.2⟩

end

/-- **The body of every pair of request tags stands between them** in the document, or hoisted code
hides both of them. -/
theorem requestPairs_build {source : Text} {start : Nat} (inside : start ≤ source.length) :
    ∀ pair ∈ (Pairing.ofTags (supportedTags (scan source start))).pairs,
      pair.opening.element? = some .request →
        (∃ siblings ∈ (build source start).blocks ::
            (walkBlocks (build source start).blocks).map Block.children,
          ∃ body, RequestBody source (tagsFrom source start) pair body siblings) ∨
        ∃ code ∈ walkBlocks (build source start).blocks, code.HidesPair source pair := by
  intro pair paired isRequest
  have readIn : ∀ tag ∈ tagsFrom source start, (Token.tag tag).ReadIn source :=
    fun tag member => readIn_of_mem_tagsFrom member
  have closed : (some pair.opening, some pair.closing) ∈ (build source start).layout.closed :=
    BuildState.mem_paired_iff.1 ((build_paired source start).mem_iff.2 paired)
  have kept := (Layout.Steps.pairsKept readIn (build_steps inside) (.nil source _ start) trivial
    (fun _ none => nomatch none)).2 pair closed isRequest
  simpa [Layout.KeepsPair, Layout.siblings, Layout.visible] using kept

end GlassPrompt
