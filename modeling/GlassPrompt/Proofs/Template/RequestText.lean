import GlassPrompt.Proofs.Document.RequestBodies
import GlassPrompt.Script.Loop
import GlassPrompt.Template.Index

/-!
# What request tags leave in a template

A template and the bodies of loops are written site by site: the leaves of a document and the tags of
its roles and loops follow one another, and each of them is written by itself.  A request tag that opens
or closes itself is written as nothing.  The closing tag of a request is not: it stays as literal text
behind the body of the request, which is written as it is by itself.

* `Site`, `sitesOf` — the sites of a document.
* `partsOf_eq_sites`, `loopBody_eq_sites` — both renderers write site by site.
* `SpansTile`, `sites_tile` — the sites follow one another.
* `apart_of_silent` — what is written comes from other places than what stands under a silent leaf.
* `Document.WritesSites`, `RendersBody`, `requestTags_rendered` — what request tags leave behind.
* `not_noTrace_closingTag` — the closing tag of a request is written.
-/

namespace GlassPrompt

/-! ## Sites -/

/-- The whole of a leaf, or the opening or closing tag of a role or loop. -/
inductive SiteKind where
  | leaf
  | opening
  | closing

/-- A part of a document that is written by itself; `inLoop` tells whether a loop stands around it. -/
structure Site where
  kind : SiteKind
  block : Block
  inLoop : Bool

mutual

/-- The sites of a block. -/
def Block.sites (inLoop : Bool) : Block → List Site
  | .role role openTag closeTag children span =>
    ⟨.opening, .role role openTag closeTag children span, inLoop⟩ ::
      (sitesOf inLoop children ++ [⟨.closing, .role role openTag closeTag children span, inLoop⟩])
  | .loop each item openTag closeTag children span =>
    ⟨.opening, .loop each item openTag closeTag children span, inLoop⟩ ::
      (sitesOf true children ++ [⟨.closing, .loop each item openTag closeTag children span, inLoop⟩])
  | block => [⟨.leaf, block, inLoop⟩]

/-- The sites of blocks, in document order; `inLoop` tells whether a loop stands around them. -/
def sitesOf (inLoop : Bool) : List Block → List Site
  | [] => []
  | block :: rest => block.sites inLoop ++ sitesOf inLoop rest

end

/-- The text of the opening tag of a role or loop. -/
def Block.openText : Block → Text
  | .role _ openTag _ _ _ => openTag
  | .loop _ _ openTag _ _ _ => openTag
  | _ => []

namespace Site

/-- The part of the document that a site stands over. -/
def span (site : Site) : Span :=
  match site.kind with
  | .leaf => site.block.span
  | .opening => ⟨site.block.span.start, site.block.span.start + site.block.openText.length⟩
  | .closing => ⟨site.block.span.stop - site.block.closeText.length, site.block.span.stop⟩

/-- The parts of a template that a site outside of loops is written as; a loop is one slot. -/
def parts (site : Site) : List Part :=
  match site.kind, site.block with
  | .leaf, block => block.parts
  | .opening, .role _ openTag _ _ _ => [.literal openTag]
  | .opening, .loop each item _ _ children _ => [.slot (.loop each item children)]
  | .closing, .role _ _ closeTag _ _ => [.literal closeTag]
  | _, _ => []

/-- What a site in a loop is written as. -/
def written (site : Site) : Text :=
  match site.kind, site.block with
  | .leaf, block => block.inTemplate
  | .opening, .role _ openTag _ _ _ => templateLiteral openTag
  | .opening, .loop each item _ _ _ _ =>
    '$' :: '\x7b' :: iterable each ++ ".map((".toList ++ (if item.isEmpty then ['_'] else item) ++
      ") => `".toList
  | .closing, .role _ _ closeTag _ _ => templateLiteral closeTag
  | .closing, .loop _ _ _ _ _ _ => "`).join('')\x7d".toList
  | _, _ => []

/-- A site is written as nothing, wherever it stands. -/
def Silent (site : Site) : Prop :=
  site.parts = [] ∧ site.written = []

/-- The site and the tag have no character of the document in common. -/
def Apart (tag : Tag) (site : Site) : Prop :=
  site.span.stop ≤ tag.start ∨ tag.stop ≤ site.span.start

end Site

/-! ## Both renderers write site by site -/

lemma inLoop_of_mem_sitesOf (blocks : List Block) :
    ∀ site ∈ sitesOf true blocks, site.inLoop = true := by
  induction blocks using blocks_induction with
  | nil => exact nofun
  | cons block rest inside behind =>
    rw [sitesOf]
    refine List.forall_mem_append.2 ⟨?_, behind⟩
    cases block with
    | role | loop =>
      refine List.forall_mem_cons.2 ⟨rfl, List.forall_mem_append.2 ⟨inside, ?_⟩⟩
      exact List.forall_mem_singleton.2 rfl
    | text | interpolation | code | hoisted | request => exact List.forall_mem_singleton.2 rfl

/-- **A template is written site by site**, outside of loops. -/
theorem partsOf_eq_sites (blocks : List Block) :
    partsOf blocks = ((sitesOf false blocks).filter (!·.inLoop)).flatMap Site.parts := by
  induction blocks using blocks_induction with
  | nil => rfl
  | cons block rest inside behind =>
    rw [partsOf, sitesOf, List.filter_append, List.flatMap_append, behind]
    congr 1
    cases block with
    | text | interpolation | code | hoisted | request => exact (List.append_nil _).symm
    | role role openTag closeTag children span =>
      have children : partsOf children =
          ((sitesOf false children).filter (!·.inLoop)).flatMap Site.parts := inside
      rw [Block.parts, Block.sites, children, List.filter_cons_of_pos rfl, List.filter_append,
        List.flatMap_cons, List.flatMap_append]
      rfl
    | loop each item openTag closeTag children span =>
      have none : (sitesOf true children).filter (!·.inLoop) = [] :=
        List.filter_eq_nil_iff.2 fun site member => by simp [inLoop_of_mem_sitesOf children site member]
      rw [Block.parts, Block.sites, List.filter_cons_of_pos rfl, List.filter_append, none]
      rfl

/-- **The body of a loop is written site by site.** -/
theorem loopBody_eq_sites (inLoop : Bool) (blocks : List Block) :
    loopBody blocks = (sitesOf inLoop blocks).flatMap Site.written := by
  induction blocks using blocks_induction generalizing inLoop with
  | nil => rfl
  | cons block rest inside behind =>
    rw [loopBody, sitesOf, List.flatMap_append, behind inLoop]
    congr 1
    cases block with
    | text | interpolation | code | hoisted | request => exact (List.append_nil _).symm
    | role role openTag closeTag children span =>
      have children : loopBody children = (sitesOf inLoop children).flatMap Site.written :=
        inside inLoop
      rw [Block.inTemplate, Block.sites, children, List.flatMap_cons, List.flatMap_append]
      simp [Site.written]
    | loop each item openTag closeTag children span =>
      have children : loopBody children = (sitesOf true children).flatMap Site.written := inside true
      rw [Block.inTemplate, Block.sites, children, List.flatMap_cons, List.flatMap_append]
      simp [Site.written, substitution, loopCall]

/-- The literal text of a part, if it is no slot. -/
def Part.literal? : Part → Option Text
  | .literal text => some text
  | .slot _ => none

/-- The literal text of a piece, if it is no slot. -/
def Piece.literal? : Piece → Option Text
  | .literal text => some text
  | .slot _ => none

/-- Numbering the slots leaves all literal text as it is and where it is. -/
lemma literals_numberParts (share : Bool) (entries : List Entry) (parts : List Part) :
    (numberParts share entries parts).1.map Piece.literal? = parts.map Part.literal? := by
  induction parts generalizing entries with
  | nil => rfl
  | cons part rest ih =>
    cases part with
    | literal text => exact congrArg (some text :: ·) (ih entries)
    | slot occurrence => exact congrArg (none :: ·) (ih (placeEntry share entries occurrence).2)

lemma partsOf_append (first second : List Block) :
    partsOf (first ++ second) = partsOf first ++ partsOf second := by
  induction first with
  | nil => rfl
  | cons block rest ih => rw [List.cons_append, partsOf, partsOf, ih, List.append_assoc]

lemma loopBody_append (first second : List Block) :
    loopBody (first ++ second) = loopBody first ++ loopBody second := by
  induction first with
  | nil => rfl
  | cons block rest ih => rw [List.cons_append, loopBody, loopBody, ih, List.append_assoc]

/-! ## The sites inside a block -/

/-- The sites inside a block stand one behind the other among the sites of the block. -/
lemma exists_sitesOf_children (inLoop : Bool) (block : Block) :
    ∃ looped, (block.element? = some .loop → looped = true) ∧
      sitesOf looped block.children <:+: block.sites inLoop := by
  have between (first last : Site) (inner : List Site) : inner <:+: first :: (inner ++ [last]) :=
    List.infix_append [first] inner [last]
  cases block with
  | role role openTag closeTag children span =>
    exact ⟨inLoop, nofun, between _ _ (sitesOf inLoop children)⟩
  | loop each item openTag closeTag children span =>
    exact ⟨true, fun _ => rfl, between _ _ (sitesOf true children)⟩
  | text | interpolation | code | hoisted | request => exact ⟨inLoop, nofun, List.nil_infix⟩

/-- What is written for the body of a loop stands together in the document. -/
lemma loopSites_isInfix {block : Block} (isLoop : block.element? = some .loop) (blocks : List Block)
    (inLoop : Bool) (member : block ∈ walkBlocks blocks) :
    sitesOf true block.children <:+: sitesOf inLoop blocks := by
  induction blocks using blocks_induction generalizing inLoop with
  | nil => exact nomatch member
  | cons first rest inside behind =>
    rw [sitesOf]
    obtain ⟨looped, isTrue, children⟩ := exists_sitesOf_children inLoop first
    have ahead : sitesOf looped first.children <:+: first.sites inLoop ++ sitesOf inLoop rest :=
      children.trans (List.prefix_append _ _).isInfix
    rw [walkBlocks_cons] at member
    rcases List.mem_cons.1 member with rfl | later
    · rwa [isTrue isLoop] at ahead
    · rcases List.mem_append.1 later with child | following
      · exact (inside looped child).trans ahead
      · exact (behind inLoop following).trans (List.suffix_append _ _).isInfix

/-- Every leaf is a site. -/
lemma exists_leaf_site {leaf : Block} (isLeaf : leaf.element? = none) (blocks : List Block)
    (inLoop : Bool) (member : leaf ∈ walkBlocks blocks) :
    ∃ looped, ⟨.leaf, leaf, looped⟩ ∈ sitesOf inLoop blocks := by
  induction blocks using blocks_induction generalizing inLoop with
  | nil => exact nomatch member
  | cons first rest inside behind =>
    rw [sitesOf]
    rw [walkBlocks_cons] at member
    rcases List.mem_cons.1 member with rfl | later
    · refine ⟨inLoop, List.mem_append_left _ ?_⟩
      cases leaf with
      | role | loop => exact nomatch isLeaf
      | text | interpolation | code | hoisted | request => exact List.mem_singleton_self _
    · rcases List.mem_append.1 later with child | following
      · obtain ⟨looped, -, children⟩ := exists_sitesOf_children inLoop first
        obtain ⟨around, found⟩ := inside looped child
        exact ⟨around, List.mem_append_left _ (children.subset found)⟩
      · obtain ⟨around, found⟩ := behind inLoop following
        exact ⟨around, List.mem_append_right _ found⟩

/-- The sites are those of blocks on the walk. -/
lemma block_of_mem_sitesOf (blocks : List Block) (inLoop : Bool) :
    ∀ site ∈ sitesOf inLoop blocks, site.block ∈ walkBlocks blocks := by
  induction blocks using blocks_induction generalizing inLoop with
  | nil => exact nofun
  | cons block rest inside behind =>
    rw [sitesOf, walkBlocks_cons]
    refine List.forall_mem_append.2 ⟨?_, fun site later =>
      List.mem_cons_of_mem _ (List.mem_append_right _ (behind inLoop site later))⟩
    have below (looped : Bool) : ∀ site ∈ sitesOf looped block.children,
        site.block ∈ block :: (walkBlocks block.children ++ walkBlocks rest) := fun site child =>
      List.mem_cons_of_mem _ (List.mem_append_left _ (inside looped site child))
    cases block with
    | role | loop =>
      refine List.forall_mem_cons.2 ⟨List.mem_cons_self, List.forall_mem_append.2 ⟨below _, ?_⟩⟩
      exact List.forall_mem_singleton.2 List.mem_cons_self
    | text | interpolation | code | hoisted | request =>
      exact List.forall_mem_singleton.2 List.mem_cons_self

/-! ## The sites follow one another -/

/-- The spans follow one another from `start` to `stop`; some may be empty. -/
def SpansTile : Nat → Nat → List Span → Prop
  | start, stop, [] => start = stop
  | start, stop, span :: rest =>
    span.start = start ∧ start ≤ span.stop ∧ SpansTile span.stop stop rest

lemma SpansTile.append {first second : List Span} {start mid stop : Nat}
    (before : SpansTile start mid first) (behind : SpansTile mid stop second) :
    SpansTile start stop (first ++ second) := by
  induction first generalizing start with
  | nil =>
    obtain rfl : start = mid := before
    exact behind
  | cons span rest ih => exact ⟨before.1, before.2.1, ih before.2.2⟩

/-- Spans that follow one another do not overlap. -/
lemma SpansTile.pairwise {spans : List Span} {start stop : Nat} (h : SpansTile start stop spans) :
    spans.Pairwise (fun first second => first.stop ≤ second.start) ∧
      ∀ span ∈ spans, start ≤ span.start := by
  induction spans generalizing start with
  | nil => exact ⟨.nil, nofun⟩
  | cons span rest ih =>
    obtain ⟨starts, onward, behind⟩ := h
    obtain ⟨ordered, later⟩ := ih behind
    refine ⟨.cons later ordered, List.forall_mem_cons.2 ⟨Nat.le_of_eq starts.symm, ?_⟩⟩
    exact fun other member => Nat.le_trans onward (later other member)

/-- Around the sites between the tags of a container stand these tags. -/
lemma SpansTile.enclosed {span : Span} {opened closed : Nat} {spans : List Span}
    (between : SpansTile (span.start + opened) (span.stop - closed) spans) :
    SpansTile span.start span.stop
      (⟨span.start, span.start + opened⟩ :: (spans ++ [⟨span.stop - closed, span.stop⟩])) :=
  have closing : SpansTile (span.stop - closed) span.stop [⟨span.stop - closed, span.stop⟩] :=
    ⟨rfl, Nat.sub_le _ _, rfl⟩
  ⟨rfl, Nat.le_add_right _ _, between.append closing⟩

section

variable {source : Text} {tags : List Tag} {start stop : Nat}

/-- **The sites of blocks follow one another**, over the part of the document that the blocks tile. -/
theorem sites_tile (blocks : List Block) (inLoop : Bool) (tiles : Tiles start stop blocks)
    (carries : ∀ block ∈ walkBlocks blocks, block.CarriesSlice source tags) :
    SpansTile start stop ((sitesOf inLoop blocks).map Site.span) := by
  induction blocks using blocks_induction generalizing start stop inLoop with
  | nil => exact tiles
  | cons block rest inside behind =>
    obtain ⟨rfl, nonempty, restTiles⟩ := tiles
    rw [walkBlocks_cons] at carries
    obtain ⟨itself, others⟩ := List.forall_mem_cons.1 carries
    obtain ⟨inner, following⟩ := List.forall_mem_append.1 others
    rw [sitesOf, List.map_append]
    refine SpansTile.append ?_ (behind inLoop restTiles following)
    cases block with
    | role role openTag closeTag children span =>
      have encloses : Encloses source span openTag closeTag children := itself
      rw [Block.sites, List.map_cons, List.map_append]
      exact (inside inLoop encloses.tiles inner).enclosed
    | loop each item openTag closeTag children span =>
      have encloses : Encloses source span openTag closeTag children := itself
      rw [Block.sites, List.map_cons, List.map_append]
      exact (inside true encloses.tiles inner).enclosed
    | text | interpolation | code | hoisted | request => exact ⟨rfl, Nat.le_of_lt nonempty, rfl⟩

variable {blocks : List Block} (laid : Laid source tags start stop blocks) {leaf : Block} {tag : Tag}

include laid

/-- **What is written stands apart from every silent leaf**, and so from the tags under it. -/
theorem apart_of_silent (isLeaf : leaf.element? = none) (member : leaf ∈ walkBlocks blocks)
    (silent : leaf.parts = [] ∧ leaf.inTemplate = []) (starts : leaf.span.start ≤ tag.start)
    (stops : tag.stop ≤ leaf.span.stop) :
    ∀ site ∈ sitesOf false blocks, ¬ site.Silent → site.Apart tag := by
  intro site inSites written
  obtain ⟨looped, found⟩ := exists_leaf_site isLeaf blocks false member
  have other : site ≠ ⟨.leaf, leaf, looped⟩ := by
    rintro rfl
    exact written silent
  have tiles := sites_tile blocks false laid.tiles laid.carries
  have ordered : (sitesOf false blocks).Pairwise fun a b => a.span.stop ≤ b.span.start :=
    List.pairwise_map.1 tiles.pairwise.1
  exact (precedes_or_follows ordered inSites found other).imp (Nat.le_trans · starts)
    (Nat.le_trans stops)

/-- Nothing is written of what hoisted code hides. -/
lemma apart_of_hides {code : Block} (member : code ∈ walkBlocks blocks) {hidden : Block}
    (hides : code.Hides hidden) (same : hidden.span = tag.span) :
    ∀ site ∈ sitesOf false blocks, ¬ site.Silent → site.Apart tag := by
  have starts : code.span.start ≤ tag.span.start := same ▸ hides.starts
  have stops : tag.span.stop ≤ code.span.stop := same ▸ hides.stops
  refine apart_of_silent laid (element?_of_isHoisted hides.hoisted) member ?_ starts stops
  cases code with
  | hoisted => exact ⟨rfl, rfl⟩
  | text | interpolation | code | request | role | loop => exact nomatch hides.hoisted

end

/-! ## What request tags leave behind -/

/-- Templates and the bodies of loops are written site by site, in the order of the document.  The sites
hold what stands in the document under them, and numbering the slots of a template leaves its literal
text as it is. -/
structure Document.WritesSites (source : Text) (document : Document) : Prop where
  tile : SpansTile document.contentStart source.length
    ((sitesOf false document.blocks).map Site.span)
  carries : ∀ site ∈ sitesOf false document.blocks,
    site.block.CarriesSlice source (tagsFrom source document.contentStart)
  parts : partsOf document.blocks =
    ((sitesOf false document.blocks).filter (!·.inLoop)).flatMap Site.parts
  template : ∀ share, (Template.ofBlocks share document.blocks).pieces.map Piece.literal? =
    (partsOf document.blocks).map Part.literal?
  loops : ∀ block ∈ walkBlocks document.blocks, block.element? = some .loop →
    sitesOf true block.children <:+: sitesOf false document.blocks ∧
      loopBody block.children = (sitesOf true block.children).flatMap Site.written

/-- Nothing in a template or in the body of a loop is written for a site over the tag. -/
def Document.LeavesNoTrace (document : Document) (tag : Tag) : Prop :=
  ∀ site ∈ sitesOf false document.blocks, ¬ site.Silent → site.Apart tag

/-- Among the blocks that stand beside a request its body is written as it is by itself, the opening tag
as nothing, and the closing tag as it stands in the document. -/
structure RendersBody (source : Text) (pair : TagPair) (before body after siblings : List Block) :
    Prop where
  stands : siblings = before ++ Layout.requestBlock source pair.opening ::
    (body ++ BuildState.tagText source pair.closing :: after)
  parts : partsOf siblings = partsOf before ++ (partsOf body ++
    .literal (source.slice pair.closing.start pair.closing.stop) :: partsOf after)
  inLoop : loopBody siblings = loopBody before ++ (loopBody body ++
    (templateLiteral (source.slice pair.closing.start pair.closing.stop) ++ loopBody after))

section

variable {source : Text} {tags : List Tag} {pair : TagPair} {body siblings : List Block}

lemma RequestBody.renders (request : RequestBody source tags pair body siblings) :
    ∃ before after, RendersBody source pair before body after siblings := by
  obtain ⟨before, after, split⟩ := request.stands
  have stands : siblings = before ++ Layout.requestBlock source pair.opening ::
      (body ++ BuildState.tagText source pair.closing :: after) := by
    rw [← split]
    simp
  refine ⟨before, after, stands, ?_, ?_⟩
  · rw [stands, partsOf_append, partsOf, partsOf_append]
    rfl
  · rw [stands, loopBody_append, loopBody, loopBody_append]
    rfl

/-- A closing tag that stands behind the body of its request leaves a trace. -/
lemma RequestBody.trace {blocks : List Block} {start stop : Nat}
    (request : RequestBody source tags pair body siblings)
    (laid : Laid source tags start stop blocks)
    (member : siblings ∈ blocks :: (walkBlocks blocks).map Block.children) :
    ∃ site ∈ sitesOf false blocks, ¬ site.Silent ∧ ¬ site.Apart pair.closing := by
  have stands : BuildState.tagText source pair.closing ∈ siblings :=
    request.stands.subset (List.mem_cons_of_mem _ (List.mem_append_right _ (List.mem_singleton_self _)))
  have onWalk : BuildState.tagText source pair.closing ∈ walkBlocks blocks := by
    rcases List.mem_cons.1 member with rfl | inner
    · exact mem_walkBlocks stands
    · obtain ⟨parent, visible, rfl⟩ := List.mem_map.1 inner
      exact walkBlocks_children_subset visible (mem_walkBlocks stands)
  have nonempty : pair.closing.start < pair.closing.stop := laid.walk_nonempty onWalk
  obtain ⟨looped, found⟩ := exists_leaf_site rfl blocks false onWalk
  refine ⟨_, found, fun silent => List.cons_ne_nil _ _ silent.1, fun apart => ?_⟩
  rcases apart with ahead | behind
  · exact absurd nonempty (Nat.not_lt.2 ahead)
  · exact absurd nonempty (Nat.not_lt.2 behind)

end

/-- The opening tag of a pair of request tags is a tag that opens a request. -/
lemma opening_mem_requestTags {source : Text} {start : Nat} {pair : TagPair}
    (paired : pair ∈ (Pairing.ofTags (supportedTags (scan source start))).pairs)
    (isRequest : pair.opening.element? = some .request) :
    pair.opening ∈ requestTags (scan source start) := by
  have accounts := ofTags_accounts ((scan_tags_ordered source start).filter Tag.isSupported)
  obtain ⟨opening, -, joins⟩ := accounts.joins pair paired
  refine List.mem_filter.2 ⟨List.mem_of_mem_filter opening, ?_⟩
  rw [Tag.opensRequest_iff, joins.opening]
  exact ⟨isRequest, nofun⟩

section

variable {source : Text} {document : Document} (parsed : Document.parse source = .ok document)

include parsed

lemma laid_of_parse :
    Laid source (tagsFrom source document.contentStart) document.contentStart source.length
      document.blocks := by
  rw [blocks_of_parse parsed]
  exact (build_lossless_from (contentStart_le parsed)).laid

lemma writesSites_of_parse : document.WritesSites source where
  tile := sites_tile _ _ (laid_of_parse parsed).tiles (laid_of_parse parsed).carries
  carries site member := (laid_of_parse parsed).carries _ (block_of_mem_sitesOf _ _ site member)
  parts := partsOf_eq_sites _
  template share := literals_numberParts share [] _
  loops _ member isLoop := ⟨loopSites_isInfix isLoop _ _ member, loopBody_eq_sites true _⟩

lemma leavesNoTrace_of_requestTag {tag : Tag}
    (member : tag ∈ requestTags (scan source document.contentStart)) :
    document.LeavesNoTrace tag := by
  have laid := laid_of_parse parsed
  obtain ⟨block, onWalk, keeps⟩ := keeps_build (contentStart_le parsed) member
  rw [← blocks_of_parse parsed] at onWalk
  rcases keeps with rfl | hides
  · exact apart_of_silent laid rfl onWalk ⟨rfl, rfl⟩ (Nat.le_refl _) (Nat.le_refl _)
  · exact apart_of_hides laid onWalk hides rfl

/-- **What request tags leave in a template.**  Templates and the bodies of loops are written site by
site.  A request tag that opens or closes itself leaves no trace in them.  The closing tag of a request
leaves none exactly if hoisted code hides the request; otherwise it is written behind the body, and the
body is written as it is by itself. -/
theorem requestTags_rendered :
    document.WritesSites source ∧
      (∀ tag ∈ requestTags (scan source document.contentStart), document.LeavesNoTrace tag) ∧
      ∀ pair ∈ (Pairing.ofTags (supportedTags (scan source document.contentStart))).pairs,
        pair.opening.element? = some .request →
          document.LeavesNoTrace pair.opening ∧
          (document.LeavesNoTrace pair.closing ↔
            ∃ code ∈ walkBlocks document.blocks, code.HidesPair source pair) ∧
          ((∃ code ∈ walkBlocks document.blocks, code.HidesPair source pair) ∨
            ∃ siblings ∈ document.blocks :: (walkBlocks document.blocks).map Block.children,
              ∃ before body after,
                Laid source (tagsFrom source document.contentStart) pair.opening.stop
                  pair.closing.start body ∧
                RendersBody source pair before body after siblings) := by
  refine ⟨writesSites_of_parse parsed, fun tag => leavesNoTrace_of_requestTag parsed, ?_⟩
  intro pair paired isRequest
  have laid := laid_of_parse parsed
  have kept := requestPairs_build (contentStart_le parsed) pair paired isRequest
  rw [← blocks_of_parse parsed] at kept
  refine ⟨leavesNoTrace_of_requestTag parsed (opening_mem_requestTags paired isRequest),
    ⟨fun noTrace => ?_, fun ⟨code, onWalk, hides⟩ => ?_⟩, ?_⟩
  · refine kept.resolve_left fun ⟨siblings, member, body, request⟩ => ?_
    obtain ⟨site, inSites, written, touches⟩ := request.trace laid member
    exact touches (noTrace site inSites written)
  · exact apart_of_hides laid onWalk hides.2 rfl
  · refine kept.symm.imp_right fun ⟨siblings, member, body, request⟩ => ?_
    obtain ⟨before, after, renders⟩ := request.renders
    exact ⟨siblings, member, before, body, after, request.laid, renders⟩

end

/-- A request with a body. -/
def requestWithBody : Text :=
  "<User><Request>a</Request></User>".toList

/-- The opening tag of the request leaves no trace; its closing tag is in the template. -/
theorem requestTags_rendered_user : ∃ document, Document.parse requestWithBody = .ok document ∧
    (Template.ofBlocks false document.blocks).text = "<User>a</Request></User>".toList ∧
      ∃ tag ∈ requestTags (scan requestWithBody document.contentStart),
        tag.span = ⟨6, 15⟩ ∧ document.LeavesNoTrace tag := by
  have computed : (Document.parse requestWithBody).map (fun document =>
      (document.contentStart, (Template.ofBlocks false document.blocks).text)) =
      .ok (0, "<User>a</Request></User>".toList) := by decide +kernel
  have spans : (requestTags (scan requestWithBody 0)).map Tag.span = [⟨6, 15⟩] := by decide +kernel
  obtain ⟨document, parsed, found⟩ := exists_parse computed
  obtain ⟨start, text⟩ := Prod.mk.inj found
  obtain ⟨tag, member, span⟩ := List.mem_map.1 (spans ▸ List.mem_singleton_self _)
  rw [← start] at member
  exact ⟨document, parsed, text, tag, member, span, (requestTags_rendered parsed).2.1 tag member⟩

/-- The closing tag of a request is written. -/
theorem not_noTrace_closingTag : ¬ ∀ source document, Document.parse source = .ok document →
    ∀ pair ∈ (Pairing.ofTags (supportedTags (scan source document.contentStart))).pairs,
      pair.opening.element? = some .request → document.LeavesNoTrace pair.closing := by
  intro noTrace
  have computed : (Document.parse "<Request>a</Request>".toList).map (fun document =>
      (document.contentStart, (sitesOf false document.blocks).map fun site =>
        (site.span, site.parts.isEmpty))) =
      .ok (0, [(⟨0, 9⟩, true), (⟨9, 10⟩, false), (⟨10, 20⟩, false)]) := by decide +kernel
  have paired : (Pairing.ofTags (supportedTags (scan "<Request>a</Request>".toList 0))).pairs.map
      (fun pair => (pair.opening.element?, pair.closing.span)) = [(some .request, ⟨10, 20⟩)] := by
    decide +kernel
  obtain ⟨document, parsed, found⟩ := exists_parse computed
  obtain ⟨start, sites⟩ := Prod.mk.inj found
  obtain ⟨pair, member, read⟩ := List.mem_map.1 (paired ▸ List.mem_singleton_self _)
  obtain ⟨isRequest, span⟩ := Prod.mk.inj read
  have listed : ((⟨10, 20⟩ : Span), false) ∈ (sitesOf false document.blocks).map fun site =>
      (site.span, site.parts.isEmpty) := by
    rw [sites]
    decide
  obtain ⟨site, inSites, shown⟩ := List.mem_map.1 listed
  obtain ⟨siteSpan, written⟩ := Prod.mk.inj shown
  have apart := noTrace _ _ parsed pair (start ▸ member) isRequest site inSites fun silent => by
    rw [silent.1] at written
    exact nomatch written
  obtain ⟨starts, stops⟩ := Span.mk.inj span
  rw [Site.Apart, siteSpan, starts, stops] at apart
  exact apart.elim (by decide) (by decide)

end GlassPrompt
