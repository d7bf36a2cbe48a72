import GlassPrompt.Proofs.Document.IssueOrigins
import GlassPrompt.Proofs.Document.RegionBlocks
import GlassPrompt.Proofs.Document.WalkOrder

/-!
# Structural issues show in the blocks

Whether a role is opened inside another one is decided where its tag is taken in, by the frames that are
open there.  Where its block ends up in the tree is decided later, when these frames are closed.  The two
agree: every frame that stays in the document as a role or a loop keeps what has been put into it, and a
frame of code takes all of it away.

* `Block.Told`, `Told` — of blocks that have a role around them or not, the issues tell what is wrong.
* `Frame.Told`, `ToldLayers` — the same of open frames and the blocks in them.
* `Layout.Step.told`, `BuildState.told_addToken`, `BuildState.told_finish` — building preserves it.
* `told_build` — the issues of a document tell what is wrong with its blocks.
* `structuralIssues_of_parse` — a role is inside another one, and a loop lacks an attribute, if and only
  if an issue at its start says so.
-/

namespace GlassPrompt

/-! ## What issues tell of blocks -/

/-- A role is opened inside another one. -/
def Problem.IsNesting (problem : Problem) : Prop :=
  ∃ role, problem = .nestedRole role

/-- An issue tells that there is a role around a role, or that a loop lacks an attribute, if and only if
this is so; `within` says whether there is a role around the block. -/
def Block.Told (issues : List Issue) (within : Bool) : Block → Prop
  | .role _ _ _ _ span => within = true ↔ IssueAt issues Problem.IsNesting span.start
  | .loop each item _ _ _ span =>
    (each = [] ↔ IssueAt issues (· = .loopWithout .each) span.start) ∧
      (item = [] ↔ IssueAt issues (· = .loopWithout .item) span.start)
  | _ => True

/-- The issues tell what is wrong with the blocks and with all blocks inside them. -/
inductive Told (issues : List Issue) : Bool → List Block → Prop
  | nil {within : Bool} : Told issues within []
  | cons {within : Bool} {block : Block} {rest : List Block} (here : block.Told issues within)
      (inside : Told issues (block.isRole || within) block.children)
      (behind : Told issues within rest) : Told issues within (block :: rest)

section

variable {issues : List Issue} {within : Bool} {blocks : List Block} {block : Block}

lemma Told.append {first second : List Block} (before : Told issues within first)
    (behind : Told issues within second) : Told issues within (first ++ second) := by
  induction before with
  | nil => exact behind
  | cons here inside _ _ ih => exact .cons here inside (ih behind)

/-- Of leaves there is nothing to tell. -/
lemma Told.leaves (leaf : ∀ block ∈ blocks, block.element? = none) : Told issues within blocks := by
  induction blocks with
  | nil => exact .nil
  | cons block rest ih =>
    obtain ⟨here, behind⟩ := List.forall_mem_cons.1 leaf
    refine .cons ?_ ?_ (ih behind)
    · cases block with
      | role | loop => exact nomatch here
      | text | interpolation | code | hoisted | request => trivial
    · rw [children_eq_nil_of_leaf here]
      exact .nil

/-- A block on the walk is told, inside a role or not. -/
lemma Told.of_mem (told : Told issues within blocks) (member : block ∈ walkBlocks blocks) :
    ∃ around, block.Told issues around ∧ Told issues (block.isRole || around) block.children ∧
      (within = true → around = true) := by
  induction told with
  | nil => exact nomatch member
  | @cons within first rest here inside behind ihInside ihBehind =>
    rw [walkBlocks_cons] at member
    rcases List.mem_cons.1 member with rfl | member
    · exact ⟨within, here, inside, id⟩
    · rcases List.mem_append.1 member with child | later
      · obtain ⟨around, told, children, outer⟩ := ihInside child
        exact ⟨around, told, children, fun isIn => outer (by rw [isIn, Bool.or_true])⟩
      · exact ihBehind later

/-- A role block that is told to have a role around it has one among the blocks, if there is none around
all of them. -/
lemma Told.exists_outer (told : Told issues within blocks) (member : block ∈ walkBlocks blocks)
    (isRole : block.isRole = true) (nested : IssueAt issues Problem.IsNesting block.span.start) :
    within = true ∨ ∃ outer ∈ walkBlocks blocks, outer.isRole = true ∧
      block ∈ walkBlocks outer.children := by
  induction told with
  | nil => exact nomatch member
  | @cons within first rest here inside behind ihInside ihBehind =>
    rw [walkBlocks_cons] at member ⊢
    rcases List.mem_cons.1 member with rfl | member
    · cases block with
      | role => exact .inl (here.2 nested)
      | text | interpolation | code | hoisted | request | loop => exact nomatch isRole
    · rcases List.mem_append.1 member with child | later
      · rcases ihInside child with around | ⟨outer, onWalk, outerRole, isIn⟩
        · rcases Bool.or_eq_true_iff.1 around with firstRole | around
          · exact .inr ⟨first, List.mem_cons_self, firstRole, child⟩
          · exact .inl around
        · exact .inr ⟨outer, by simp [onWalk], outerRole, isIn⟩
      · refine (ihBehind later).imp_right ?_
        rintro ⟨outer, onWalk, outerRole, isIn⟩
        exact ⟨outer, by simp [onWalk], outerRole, isIn⟩

/-- **A role has a role around it if and only if an issue tells so.** -/
theorem Told.nested_iff (told : Told issues false blocks) (member : block ∈ walkBlocks blocks)
    (isRole : block.isRole = true) :
    (∃ outer ∈ walkBlocks blocks, outer.isRole = true ∧ block ∈ walkBlocks outer.children) ↔
      IssueAt issues Problem.IsNesting block.span.start := by
  constructor
  · rintro ⟨outer, onWalk, outerRole, isIn⟩
    obtain ⟨around, -, children, -⟩ := told.of_mem onWalk
    rw [outerRole, Bool.true_or] at children
    obtain ⟨within, here, -, inRole⟩ := children.of_mem isIn
    cases block with
    | role => exact here.1 (inRole rfl)
    | text | interpolation | code | hoisted | request | loop => exact nomatch isRole
  · intro nested
    exact (told.exists_outer member isRole nested).resolve_left nofun

end

/-! ## What issues tell of frames -/

/-- The frame is that of a role. -/
def Frame.isRole (frame : Frame) : Bool :=
  match frame.element with
  | .role _ => true
  | _ => false

/-- What issues tell of a frame is what they have to tell of the block that it leaves behind. -/
def Frame.Told (issues : List Issue) (within : Bool) (frame : Frame) : Prop :=
  match frame.element with
  | .role _ => within = true ↔ IssueAt issues Problem.IsNesting frame.tag.start
  | .loop => ∀ key : LoopAttribute, (frame.tag.attributes.text? key.name).getD [] = [] ↔
      IssueAt issues (· = .loopWithout key) frame.tag.start
  | _ => True

/-- The issues tell what is wrong with the open frames, innermost first, with the blocks in them and with
the finished blocks. -/
def ToldLayers (issues : List Issue) : List Frame → List Block → Prop
  | [], blocks => Told issues false blocks
  | frame :: outer, blocks =>
    frame.Told issues (outer.any Frame.isRole) ∧
      Told issues ((frame :: outer).any Frame.isRole) frame.children ∧ ToldLayers issues outer blocks

/-- The issues tell what is wrong with a layout. -/
abbrev Layout.Told (issues : List Issue) (layout : Layout) : Prop :=
  ToldLayers issues layout.frames layout.blocks

section

variable {issues : List Issue} {source : Text} {tags : List Tag} {layout : Layout}

/-- A frame leaves behind what the issues tell of it. -/
lemma told_frameBlocks {frame : Frame} {within : Bool} (told : frame.Told issues within)
    (children : Told issues (frame.isRole || within) frame.children) (closing : Option Tag)
    (stop : Nat) : Told issues within (BuildState.frameBlocks source frame closing stop).1 := by
  obtain ⟨kind, tag, blocks⟩ := frame
  cases kind with
  | role speaker =>
    rw [frameBlocks_role]
    exact .cons told children .nil
  | loop =>
    rw [frameBlocks_loop]
    exact .cons ⟨told .each, told .item⟩ children .nil
  | request =>
    rw [frameBlocks_request]
    refine children.append (.leaves ?_)
    cases closing with
    | none => exact nofun
    | some closingTag => exact List.forall_mem_singleton.2 rfl
  | code =>
    obtain ⟨kept, left⟩ := frameBlocks_code source tag blocks closing stop
    rw [left]
    exact .leaves (List.forall_mem_singleton.2 rfl)

lemma Layout.Told.push {blocks : List Block} (told : layout.Told issues)
    (new : GlassPrompt.Told issues (layout.frames.any Frame.isRole) blocks) :
    (layout.push blocks).Told issues := by
  obtain ⟨frames, finished, closed⟩ := layout
  cases frames with
  | nil => exact GlassPrompt.Told.append told new
  | cons frame outer => exact ⟨told.1, told.2.1.append new, told.2.2⟩

lemma Layout.Told.pushLeaves {leaves : List Block} (told : layout.Told issues)
    (leaf : ∀ block ∈ leaves, block.element? = none) : (layout.push leaves).Told issues :=
  told.push (.leaves leaf)

lemma Layout.Told.openFrame {element : Element} {tag : Tag} (told : layout.Told issues)
    (opened : (Frame.mk element tag []).Told issues (layout.frames.any Frame.isRole)) :
    (layout.openFrame element tag).Told issues :=
  ⟨opened, .nil, told⟩

lemma Layout.Told.closeFrame {frame : Frame} {outer : List Frame} (told : layout.Told issues)
    (innermost : layout.frames = frame :: outer) (closing : Option Tag) (stop : Nat) :
    (layout.closeFrame source frame outer closing stop).Told issues := by
  have layers : ToldLayers issues layout.frames layout.blocks := told
  rw [innermost] at layers
  obtain ⟨here, children, around⟩ := layers
  have outside : Layout.Told issues { layout with
      frames := outer, closed := layout.closed ++ [(some frame.tag, closing)] } := around
  exact outside.push (told_frameBlocks here children closing stop)

/-- **Every step that opens nothing preserves what the issues tell.** -/
theorem Layout.Step.told {before after : Nat × Layout} (step : Layout.Step source tags before after)
    (closings : ∀ tag ∈ tags, tag.form = .closing) (told : before.2.Told issues) :
    after.2.Told issues := by
  cases step with
  | text => exact told.pushLeaves (List.forall_mem_singleton.2 rfl)
  | region => exact told.pushLeaves (List.forall_mem_singleton.2 (BuildState.element?_regionBlock _))
  | literal => exact told.pushLeaves (List.forall_mem_singleton.2 rfl)
  | request known element form => exact nomatch (closings _ known).symm.trans form
  | openRequest known element form => exact nomatch (closings _ known).symm.trans form
  | openOther known named other form => exact absurd (closings _ known) form
  | close innermost => exact told.closeFrame innermost none _
  | closeBy known form innermost name => exact told.closeFrame innermost _ _

theorem Layout.Steps.told {before after : Nat × Layout} (steps : Layout.Steps source tags before after)
    (closings : ∀ tag ∈ tags, tag.form = .closing) (told : before.2.Told issues) :
    after.2.Told issues := by
  induction steps with
  | refl => exact told
  | tail _ step ih => exact step.told closings ih

end

/-! ## The moves of the builder -/

namespace BuildState

variable {source : Text} {issues : List Issue} {state : BuildState}

/-- The issues at a tag are the problems that it has in the state. -/
def Records (issues : List Issue) (state : BuildState) (tag : Tag) : Prop :=
  ∀ p : Problem → Prop, (∀ problem, p problem → problem.kind = .structural) →
    (IssueAt issues p tag.start ↔ ∃ problem ∈ state.tagProblems tag, p problem)

lemma isNesting_structural (problem : Problem) (nesting : problem.IsNesting) :
    problem.kind = .structural := by
  obtain ⟨role, rfl⟩ := nesting
  rfl

/-- The issues tell what is wrong with the frame that a tag opens. -/
lemma Records.told {tag : Tag} (records : Records issues state tag) {element : Element}
    (named : tag.element? = some element) (form : tag.form ≠ .closing) :
    (Frame.mk element tag []).Told issues (state.layout.frames.any Frame.isRole) := by
  have problems : state.tagProblems tag = state.openingProblems element tag := by
    unfold tagProblems
    rw [named]
    cases written : tag.form with
    | closing => exact absurd written form
    | opening | selfClosing => rfl
  cases element with
  | role role =>
    show state.hasOpenRole = true ↔ _
    rw [records Problem.IsNesting isNesting_structural, problems, openingProblems]
    cases state.hasOpenRole with
    | true => exact iff_of_true rfl ⟨_, List.mem_singleton_self _, role, rfl⟩
    | false =>
      refine iff_of_false Bool.false_ne_true ?_
      rintro ⟨problem, member, -⟩
      exact List.not_mem_nil member
  | loop =>
    intro key
    rw [records (· = .loopWithout key) (fun problem same => same ▸ rfl), problems]
    show _ ↔ ∃ problem ∈ List.filterMap _ _, _
    cases key <;> simp [List.mem_filterMap]
  | request => trivial
  | code => trivial

lemma told_addText (told : state.layout.Told issues) (start stop : Nat) :
    (state.addText source start stop).layout.Told issues := by
  obtain ⟨texts, leaf, layout⟩ := exists_layout_addText source state start stop
  rw [layout]
  exact told.pushLeaves leaf

lemma told_openTag (told : state.layout.Told issues) {element : Element} {tag : Tag}
    (opened : (Frame.mk element tag []).Told issues (state.layout.frames.any Frame.isRole)) :
    (state.openTag source element tag).layout.Told issues := by
  by_cases request : element = .request
  · subst request
    have pushed : (state.layout.push [Layout.requestBlock source tag]).Told issues :=
      told.pushLeaves (List.forall_mem_singleton.2 rfl)
    rw [layout_openTag_request]
    split
    · exact pushed
    · exact pushed.openFrame trivial
  · rw [openTag_other request]
    have reported := layout_reports state (state.openingProblems element tag) tag.start tag.stop
    generalize (state.openingProblems element tag).foldl
      (fun state problem => state.report problem tag.start tag.stop) state = next at reported ⊢
    have opens : (next.openFrame element tag).layout.Told issues := by
      rw [layout_openFrame, reported]
      exact told.openFrame opened
    dsimp only
    split
    · rw [layout_closeFrame source _ rfl]
      exact opens.closeFrame rfl none tag.stop
    · exact opens

lemma told_addTag (told : state.layout.Told issues) {tag : Tag} (records : Records issues state tag) :
    (state.addTag source tag).layout.Told issues := by
  unfold addTag
  rw [layout_note _ rfl]
  have noted : ({ state with tags := state.tags ++ [tag] } : BuildState).layout.Told issues := told
  split
  · rw [layout_push]
    exact noted.pushLeaves (List.forall_mem_singleton.2 rfl)
  · next closing =>
    exact (closeTag_steps (List.mem_singleton_self tag) closing).told
      (List.forall_mem_singleton.2 closing) noted
  · next element named notClosing => exact told_openTag noted (records.told named notClosing)

/-- **Every token preserves what the issues tell**, if they record the problems of its tag. -/
theorem told_addToken (told : state.layout.Told issues) {token : Token}
    (records : ∀ tag, token = .tag tag →
      Records issues (state.addText source state.position tag.start) tag) :
    (state.addToken source token).layout.Told issues := by
  cases token with
  | error e => exact told
  | region region =>
    show (addRegion region _).layout.Told issues
    rw [layout_addRegion]
    exact (told_addText told _ _).pushLeaves
      (List.forall_mem_singleton.2 (element?_regionBlock region))
  | tag tag => exact told_addTag (told_addText told _ _) (records tag rfl)

/-- The frames that are open are closed one by one. -/
lemma told_closeFrames (told : state.layout.Told issues) (stop : Nat) :
    (closeFrames source stop state.frames.length state).layout.Told issues := by
  have closes : Layout.Steps source [] (stop, state.layout)
      (stop, (closeFrames source stop state.frames.length state).layout) :=
    closeFrames_steps stop _ (Nat.le_of_eq (List.length_map _).symm)
  exact closes.told nofun told

theorem told_finish (told : state.layout.Told issues) :
    (state.finish source).layout.Told issues := by
  unfold finish
  dsimp only
  rw [layout_reportUnmatched]
  have covered : ({ state.addText source state.position source.length with
      position := source.length } : BuildState).layout.Told issues :=
    told_addText told state.position source.length
  exact told_closeFrames covered source.length

end BuildState

/-! ## Whole documents -/

/-- **The issues of a document tell what is wrong with its blocks.** -/
theorem told_build (source : Text) (start : Nat) :
    Told (build source start).issues false (build source start).blocks := by
  have read (tokens : List Token) (first : tokens <+: scan source start) :
      (BuildState.afterTokens source start tokens).layout.Told (build source start).issues := by
    induction tokens using List.reverseRecOn with
    | nil => exact Told.nil
    | append_singleton tokens token ih =>
      rw [BuildState.afterTokens_concat]
      refine BuildState.told_addToken (ih ((List.prefix_append _ _).trans first)) ?_
      rintro tag rfl
      exact fun p structural => issueAt_build first structural
  have told : (build source start).layout.Told (build source start).issues :=
    BuildState.told_finish (read _ List.prefix_rfl)
  have frames : (build source start).layout.frames = [] := BuildState.frames_finish
  unfold Layout.Told at told
  rw [frames] at told
  exact told

/-- **Structural issues characterise the blocks of a document.**  A role lies inside another role, at any
depth, if and only if there is an issue at its start that tells that a role cannot be nested; and a loop
has no `each` or no alias if and only if there is an issue at its start that tells that it needs one. -/
theorem structuralIssues_of_parse {source : Text} {document : Document}
    (parsed : Document.parse source = .ok document) :
    (∀ block ∈ walkBlocks document.blocks, block.isRole = true →
      ((∃ outer ∈ walkBlocks document.blocks, outer.isRole = true ∧
          block ∈ walkBlocks outer.children) ↔
        ∃ issue ∈ document.issues, (∃ role, issue.problem = .nestedRole role) ∧
          issue.span.start = block.span.start)) ∧
      ∀ each item openTag closeTag children span,
        Block.loop each item openTag closeTag children span ∈ walkBlocks document.blocks →
          (each = [] ↔ ∃ issue ∈ document.issues, issue.problem = .loopWithout .each ∧
            issue.span.start = span.start) ∧
          (item = [] ↔ ∃ issue ∈ document.issues, issue.problem = .loopWithout .item ∧
            issue.span.start = span.start) := by
  have told := told_build source document.contentStart
  rw [← blocks_of_parse parsed, ← issues_of_parse parsed] at told
  refine ⟨fun block member isRole => told.nested_iff member isRole, ?_⟩
  intro each item openTag closeTag children span member
  obtain ⟨around, here, -, -⟩ := told.of_mem member
  exact here

/-- A role inside a loop without an alias, which is left open inside another role; and a role in the body
of a request. -/
def nestedRoles : Text :=
  "<User><For each='xs'><Assistant/></User><Request><System/></Request>".toList

/-- The role in the loop has an issue, so it is inside another one; the role in the body of the request
has none, so it is not.  The loop has an issue for its alias, so it has none. -/
theorem structuralIssues_of_parse_nested : ∃ document, Document.parse nestedRoles = .ok document ∧
    (∃ block ∈ walkBlocks document.blocks, block.span.start = 21 ∧
      ∃ outer ∈ walkBlocks document.blocks, outer.isRole = true ∧
        block ∈ walkBlocks outer.children) ∧
    (∃ block ∈ walkBlocks document.blocks, block.isRole = true ∧ block.span.start = 49 ∧
      ¬ ∃ outer ∈ walkBlocks document.blocks, outer.isRole = true ∧
        block ∈ walkBlocks outer.children) ∧
    ∀ each item openTag closeTag children span,
      Block.loop each item openTag closeTag children span ∈ walkBlocks document.blocks →
        span.start = 6 → each ≠ [] ∧ item = [] := by
  have computed : (Document.parse nestedRoles).map (fun document => (document.issues,
      ((walkBlocks document.blocks).filter Block.isRole).map (·.span.start))) = .ok
        ([⟨.loopWithout .item, ⟨6, 21⟩⟩, ⟨.nestedRole .assistant, ⟨21, 33⟩⟩,
          ⟨.unclosed "For".toList, ⟨6, 21⟩⟩], [0, 21, 49]) := by decide +kernel
  obtain ⟨document, parsed, found⟩ := exists_parse computed
  obtain ⟨issues, starts⟩ := Prod.mk.inj found
  obtain ⟨roles, loops⟩ := structuralIssues_of_parse parsed
  have roleAt (start : Nat) (known : start ∈ [0, 21, 49]) :
      ∃ block ∈ walkBlocks document.blocks, block.isRole = true ∧ block.span.start = start := by
    obtain ⟨block, member, rfl⟩ := List.mem_map.1 (starts ▸ known)
    exact ⟨block, (List.mem_filter.1 member).1, (List.mem_filter.1 member).2, rfl⟩
  obtain ⟨inner, innerMember, innerRole, innerStart⟩ := roleAt 21 (by decide)
  obtain ⟨other, otherMember, otherRole, otherStart⟩ := roleAt 49 (by decide)
  refine ⟨document, parsed, ⟨inner, innerMember, innerStart, ?_⟩,
    ⟨other, otherMember, otherRole, otherStart, fun isIn => ?_⟩, ?_⟩
  · refine (roles inner innerMember innerRole).2 ?_
    simp [issues, innerStart]
  · have nested := (roles other otherMember otherRole).1 isIn
    simp [issues, otherStart] at nested
  · intro each item openTag closeTag children span member start
    obtain ⟨noEach, noItem⟩ := loops each item openTag closeTag children span member
    rw [Ne, noEach, noItem]
    simp [issues, start]

end GlassPrompt
