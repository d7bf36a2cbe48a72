import GlassPrompt.Proofs.Document.IssueLog
import GlassPrompt.Proofs.Document.RegionBlocks
import GlassPrompt.Proofs.Document.WalkOrder
import GlassPrompt.Proofs.Markup.Matching

/-!
# The requests of a document

Every tag that opens a request adds a block, and every such tag but the first adds an issue.  The block
stays where it is, unless code that is never closed takes its place: then the tag is still counted, and
its block is gone.  So the first request is the one that is used, unless such code hides it.

* `Layout.RequestsOf`, `Layout.Step.requestsOf` — every visible request is the block of a tag.
* `Layout.Keeps`, `Layout.Change.keeps` — the block of a tag stays visible, or is hidden by code.
* `Tag.isHidden`, `requestBlocks_build` — the requests of a document are the blocks of the tags that no
  code hides.
* `requests_of_parse` — the requests, the request that is used and the issues of a document.
-/

namespace GlassPrompt

/-! ## Every request comes from a tag -/

/-- Every visible request is the block of one of the tags that open requests. -/
def Layout.RequestsOf (source : Text) (tags : List Tag) (layout : Layout) : Prop :=
  ∀ block ∈ layout.visible, block.isRequest = true →
    ∃ tag ∈ tags, tag.opensRequest = true ∧ block = requestBlock source tag

section

variable {source : Text} {tags : List Tag} {before after : Nat × Layout}

lemma Tag.opensRequest_iff {tag : Tag} :
    tag.opensRequest = true ↔ tag.element? = some .request ∧ tag.form ≠ .closing := by
  simp [Tag.opensRequest]

/-- **Every step preserves that requests come from tags.** -/
theorem Layout.Step.requestsOf (step : Layout.Step source tags before after)
    (h : before.2.RequestsOf source tags) : after.2.RequestsOf source tags := by
  have others (block : Block) (other : (block.isRegion || block.isRequest) = false)
      (isRequest : block.isRequest = true) :
      ∃ tag ∈ tags, tag.opensRequest = true ∧ block = requestBlock source tag :=
    Bool.noConfusion ((Bool.or_eq_false_iff.1 other).2.symm.trans isRequest)
  cases step with
  | text => exact forall_visible_pushLeaf h rfl nofun
  | region =>
    refine forall_visible_pushLeaf h (BuildState.element?_regionBlock _) ?_
    unfold BuildState.regionBlock
    split
    · exact nofun
    · exact nofun
  | literal => exact forall_visible_pushLeaf h rfl nofun
  | @request tag layout known element form =>
    have opens := Tag.opensRequest_iff.2 ⟨element, form ▸ nofun⟩
    exact forall_visible_pushLeaf h rfl fun _ => ⟨tag, known, opens, rfl⟩
  | @openRequest tag layout known element form =>
    have opens := Tag.opensRequest_iff.2 ⟨element, form ▸ nofun⟩
    have pushed := forall_visible_pushLeaf h rfl fun _ => ⟨tag, known, opens, rfl⟩
    exact forall_visible_openFrame pushed .request tag
  | openOther => exact forall_visible_openFrame h _ _
  | close innermost => exact forall_visible_closeFrame h others innermost none _
  | closeBy known form innermost name => exact forall_visible_closeFrame h others innermost _ _

theorem Layout.Steps.requestsOf (steps : Layout.Steps source tags before after)
    (h : before.2.RequestsOf source tags) : after.2.RequestsOf source tags := by
  induction steps with
  | refl => exact h
  | tail _ step ih => exact step.requestsOf ih

end

/-! ## No request is lost but behind code -/

/-- The block of a request tag is visible, or visible code hides it. -/
def Layout.Keeps (source : Text) (tag : Tag) (layout : Layout) : Prop :=
  ∃ block ∈ layout.visible, block = requestBlock source tag ∨ block.Hides (requestBlock source tag)

lemma Block.Hides.trans {first second third : Block} (outer : first.Hides second)
    (inner : second.Hides third) : first.Hides third :=
  ⟨outer.hoisted, Nat.le_trans outer.starts inner.starts, Nat.le_trans inner.stops outer.stops⟩

section

variable {source : Text} {tags : List Tag} {start : Nat} {tag : Tag} {before after : Nat × Layout}
  (readIn : ∀ tag ∈ tags, (Token.tag tag).ReadIn source)

include readIn

/-- **Every change keeps the block of a request tag**, or hides it. -/
theorem Layout.Change.keeps (change : Layout.Change source tags before after)
    (covers : Layout.Covers source tags start before) (h : before.2.Keeps source tag) :
    after.2.Keeps source tag := by
  obtain ⟨block, member, keeps⟩ := h
  cases change with
  | push laid leaf => exact ⟨block, mem_visible_push.2 (.inl member), keeps⟩
  | openFrame known named laid leaf =>
    refine ⟨block, ?_, keeps⟩
    rw [visible_openFrame]
    exact mem_visible_push.2 (.inl member)
  | @closeFrame pos stop frame outer closing layout innermost closes =>
    have layers : Layered source tags start layout.frames layout.blocks pos := covers
    rw [innermost] at layers
    obtain ⟨⟨known, -⟩, children, -⟩ := layers
    rcases (mem_visible_of_frames innermost).1 member with outside | inside
    · exact ⟨block, mem_visible_closeFrame.2 (.inl outside), keeps⟩
    · rcases mem_frameBlocks_or_hidden closing (readIn _ known) children
        (closes.le readIn) inside with stays | ⟨code, stays, hides⟩
      · exact ⟨block, mem_visible_closeFrame.2 (.inr stays), keeps⟩
      · refine ⟨code, mem_visible_closeFrame.2 (.inr stays), .inr ?_⟩
        rcases keeps with rfl | hidden
        · exact hides
        · exact hides.trans hidden

theorem Layout.Steps.keeps (steps : Layout.Steps source tags before after)
    (covers : Layout.Covers source tags start before) (h : before.2.Keeps source tag) :
    after.2.Keeps source tag := by
  induction steps with
  | refl => exact h
  | tail steps step ih =>
    exact (step.change readIn).keeps readIn (Layout.Steps.covers readIn steps covers) ih

end

/-- A request tag makes its block visible. -/
lemma BuildState.keeps_addToken (source : Text) (state : BuildState) {tag : Tag}
    (opens : tag.opensRequest = true) :
    (state.addToken source (.tag tag)).layout.Keeps source tag := by
  obtain ⟨element, form⟩ := Tag.opensRequest_iff.1 opens
  have opened (state : BuildState) :
      Layout.requestBlock source tag ∈ (state.openTag source .request tag).layout.visible := by
    have pushed (layout : Layout) :
        Layout.requestBlock source tag ∈ (layout.push [Layout.requestBlock source tag]).visible :=
      Layout.mem_visible_push.2 (.inr (List.mem_singleton_self _))
    rw [layout_openTag_request]
    split
    · exact pushed _
    · rw [Layout.visible_openFrame]
      exact pushed _
  refine ⟨Layout.requestBlock source tag, ?_, .inl rfl⟩
  show _ ∈ (BuildState.addTag source tag _).layout.visible
  unfold addTag
  rw [layout_note _ rfl, element]
  cases written : tag.form with
  | closing => exact absurd written form
  | opening | selfClosing => exact opened _

/-- **Every tag that opens a request keeps its block in the document**, or code hides it. -/
theorem keeps_build {source : Text} {start : Nat} (inside : start ≤ source.length) {tag : Tag}
    (member : tag ∈ requestTags (scan source start)) :
    ∃ block ∈ walkBlocks (build source start).blocks,
      block = Layout.requestBlock source tag ∨ block.Hides (Layout.requestBlock source tag) := by
  have readIn : ∀ tag ∈ tagsFrom source start, (Token.tag tag).ReadIn source :=
    fun tag member => readIn_of_mem_tagsFrom member
  obtain ⟨found, opens⟩ := List.mem_filter.1 member
  obtain ⟨done, rest, split⟩ := List.append_of_mem (mem_of_mem_tags found)
  have taken : scan source start = (done ++ [.tag tag]) ++ rest := by
    rw [split, List.append_assoc, List.singleton_append]
  obtain ⟨before, behind⟩ := build_steps_through inside taken
  have now : (BuildState.afterTokens source start (done ++ [.tag tag])).layout.Keeps source tag := by
    rw [BuildState.afterTokens_concat]
    exact BuildState.keeps_addToken source _ opens
  have covers := before.covers readIn (.nil source _ start)
  obtain ⟨block, visible, keeps⟩ := Layout.Steps.keeps readIn behind covers now
  exact ⟨block, by simpa [Layout.visible] using visible, keeps⟩

/-! ## The requests of a document -/

/-- Hoisted code among the blocks stands over the tag. -/
def Tag.isHidden (blocks : List Block) (tag : Tag) : Bool :=
  (walkBlocks blocks).any fun block =>
    block.isHoisted && (block.span.start ≤ tag.start && tag.stop ≤ block.span.stop)

lemma Tag.isHidden_iff {blocks : List Block} {tag : Tag} (source : Text) :
    tag.isHidden blocks = true ↔
      ∃ block ∈ walkBlocks blocks, block.Hides (Layout.requestBlock source tag) := by
  simp only [Tag.isHidden, List.any_eq_true, Bool.and_eq_true, decide_eq_true_eq]
  exact ⟨fun ⟨block, member, hoisted, starts, stops⟩ => ⟨block, member, hoisted, starts, stops⟩,
    fun ⟨block, member, hoisted, starts, stops⟩ => ⟨block, member, hoisted, starts, stops⟩⟩

lemma requestsOf_build {source : Text} {start : Nat} (inside : start ≤ source.length) {block : Block}
    (member : block ∈ requestBlocks (build source start).blocks) :
    ∃ tag ∈ requestTags (scan source start), block = Layout.requestBlock source tag := by
  have requests := Layout.Steps.requestsOf (build_steps inside)
    (fun _ none => nomatch none : Layout.empty.RequestsOf source (tagsFrom source start))
  obtain ⟨onWalk, isRequest⟩ := List.mem_filter.1 member
  obtain ⟨tag, known, opens, rfl⟩ := requests block (List.mem_append_left _ onWalk) isRequest
  exact ⟨tag, List.mem_filter.2 ⟨known, opens⟩, rfl⟩

lemma element?_of_isHoisted {block : Block} (hoisted : block.isHoisted = true) :
    block.element? = none := by
  cases block with
  | hoisted => rfl
  | text | interpolation | code | request | role | loop => exact nomatch hoisted

/-- **The requests of a document are the blocks of the tags that open requests**, in their order, but
for those that code hides. -/
theorem requestBlocks_build {source : Text} {start : Nat} (inside : start ≤ source.length) :
    requestBlocks (build source start).blocks =
      ((requestTags (scan source start)).filter (!·.isHidden (build source start).blocks)).map
        (Layout.requestBlock source) := by
  have laid := (build_lossless_from inside).laid
  refine eq_of_mem_iff_of_lt (·.span.start) ?_ ?_ fun block => ⟨fun member => ?_, fun member => ?_⟩
  · exact (laid.walk_pairwise.imp fun precedes => precedes.1).filter _
  · have tags := ((scan_tags_ordered source start).filter Tag.opensRequest).filter
      (!·.isHidden (build source start).blocks)
    exact List.pairwise_map.2 tags
  · obtain ⟨tag, known, rfl⟩ := requestsOf_build inside member
    refine List.mem_map.2 ⟨tag, List.mem_filter.2 ⟨known, ?_⟩, rfl⟩
    rw [Bool.not_eq_true', Bool.eq_false_iff, Ne, Tag.isHidden_iff source]
    rintro ⟨code, onWalk, hides⟩
    have other : code ≠ Layout.requestBlock source tag := by
      rintro rfl
      exact nomatch hides.hoisted
    exact laid.leaf_covers_none (element?_of_isHoisted hides.hoisted) onWalk
      (List.mem_filter.1 member).1 other ⟨hides.starts, hides.stops⟩
  · obtain ⟨tag, known, rfl⟩ := List.mem_map.1 member
    obtain ⟨opens, visible⟩ := List.mem_filter.1 known
    rw [Bool.not_eq_true', Bool.eq_false_iff, Ne, Tag.isHidden_iff source] at visible
    obtain ⟨block, onWalk, rfl | hides⟩ := keeps_build inside opens
    · exact List.mem_filter.2 ⟨onWalk, rfl⟩
    · exact absurd ⟨block, onWalk, hides⟩ visible

lemma contentStart_le {source : Text} {document : Document}
    (parsed : Document.parse source = .ok document) : document.contentStart ≤ source.length := by
  obtain ⟨frontmatter, split, rfl⟩ := eq_of_parse parsed
  have body := bodyOffset_le split
  show frontmatter.bodyOffset + (_ - _) ≤ source.length
  rw [List.length_drop]
  omega

/-- **The requests of a document.**  There is one for each tag that opens a request and that no code
hides, in the order of the tags; the first of these is used; and every tag that opens a request, hidden
or not, has an issue if another one stands before it.  So if code hides none of the tags, there is one
request for each of them, and the first tag is the one that is used. -/
theorem requests_of_parse {source : Text} {document : Document}
    (parsed : Document.parse source = .ok document) :
    let tags := requestTags (scan source document.contentStart)
    let visible := tags.filter (!·.isHidden document.blocks)
    requestBlocks document.blocks = visible.map (Layout.requestBlock source) ∧
      document.request? = visible.head?.map (RequestSettings.ofAttributes ·.attributes) ∧
      document.issues.filter (·.problem == .repeatedRequest) = (tags.drop 1).map repeatedIssue ∧
      ((∀ tag ∈ tags, tag.isHidden document.blocks = false) →
        requestBlocks document.blocks = tags.map (Layout.requestBlock source) ∧
          document.request? = tags.head?.map (RequestSettings.ofAttributes ·.attributes)) := by
  intro tags visible
  have blocks : requestBlocks document.blocks = visible.map (Layout.requestBlock source) := by
    simp only [visible, blocks_of_parse parsed]
    exact requestBlocks_build (contentStart_le parsed)
  have used : document.request? = visible.head?.map (RequestSettings.ofAttributes ·.attributes) := by
    unfold Document.request?
    rw [blocks]
    cases visible <;> rfl
  refine ⟨blocks, used, ?_, fun allVisible => ?_⟩
  · rw [issues_of_parse parsed]
    exact repeated_issues_build source document.contentStart
  · have all : visible = tags := List.filter_eq_self.2 fun tag member => by
      rw [allVisible tag member]
      rfl
    rw [← all]
    exact ⟨blocks, used⟩

/-- Two requests. -/
def twoRequests : Text :=
  "<Request model='a'/><Request model='b'/>".toList

/-- Of two requests the first one is used, and the second one has an issue. -/
theorem requests_of_parse_two : ∃ document, Document.parse twoRequests = .ok document ∧
    document.request? = some ⟨some ['a'], none, none, none, none⟩ ∧
      document.issues.filter (·.problem == .repeatedRequest) = [⟨.repeatedRequest, ⟨20, 40⟩⟩] := by
  have computed : (Document.parse twoRequests).map (fun document => (document.contentStart,
      (requestTags (scan twoRequests 0)).map (·.isHidden document.blocks))) =
      .ok (0, [false, false]) := by decide +kernel
  obtain ⟨document, parsed, found⟩ := exists_parse computed
  obtain ⟨start, hidden⟩ := Prod.mk.inj found
  obtain ⟨-, -, issues, allVisible⟩ := requests_of_parse parsed
  rw [start] at issues allVisible
  have visible : ∀ tag ∈ requestTags (scan twoRequests 0), tag.isHidden document.blocks = false := by
    intro tag member
    have listed : tag.isHidden document.blocks ∈ [false, false] := hidden ▸ List.mem_map_of_mem member
    simpa using listed
  exact ⟨document, parsed, (allVisible visible).2.trans (by decide +kernel),
    issues.trans (by decide +kernel)⟩

/-- Code that is never closed hides the first request: the second one is used. -/
theorem not_firstRequest_openCode : ¬ ∀ source document, Document.parse source = .ok document →
    document.request? = (requestTags (scan source document.contentStart)).head?.map
      (RequestSettings.ofAttributes ·.attributes) := by
  intro first
  have computed : (Document.parse
      "<User><Code><Request model='a'/></User><Request model='b'/>".toList).map (fun document =>
        (document.contentStart, document.request?)) =
      .ok (0, some ⟨some ['b'], none, none, none, none⟩) := by decide +kernel
  obtain ⟨document, parsed, found⟩ := exists_parse computed
  obtain ⟨start, used⟩ := Prod.mk.inj found
  have wrong := first _ document parsed
  rw [start, used] at wrong
  exact absurd wrong (by decide +kernel)

end GlassPrompt
