import GlassPrompt.Document.Builder
import GlassPrompt.Proofs.Markup.TokenStream
import Mathlib.Logic.Relation

/-!
# Building as a sequence of steps

What the builder makes of a document is its layout: the open frames, the finished blocks, and which
frames have been closed by which tag.  Every move of the builder changes the layout by one of eight
small steps, each of which also moves the offset up to which the document is laid out.

* `Layout`, `BuildState.layout` — the view of a building state.
* `Layout.Step` — the steps.  A step says everything that an invariant may need: what is pushed, over
  which part of the document, and under which conditions the builder does it.
* `Layout.Steps` — any number of steps.
* `build_steps_through`, `build_steps` — building leads by such steps from the empty layout at the
  first offset, through the state behind any of its tokens, to the final one at the end of the document.

An invariant of building is therefore proved once for each step, and carried over by induction on the
steps; no later proof has to follow the builder again.
-/

namespace GlassPrompt

/-! ## Layouts -/

/-- What the builder has laid out. -/
structure Layout where
  /-- The open elements, innermost first. -/
  frames : List Frame
  /-- The finished blocks outside all open elements. -/
  blocks : List Block
  /-- The frames closed so far, by their opening tags, each with its closing tag if it has one. -/
  closed : List (Option Tag × Option Tag)

/-- The frame that a move closes, with the tag that closes it. -/
def Move.closed? : Move → Option (Option Tag × Option Tag)
  | .close opening closing => some (opening, closing)
  | _ => none

/-- The layout of a building state. -/
def BuildState.layout (state : BuildState) : Layout :=
  ⟨state.frames, state.blocks, state.journal.filterMap fun entry => entry.1.closed?⟩

namespace Layout

/-- Nothing laid out. -/
def empty : Layout :=
  ⟨[], [], []⟩

/-- Adds blocks to the innermost open element. -/
def push (blocks : List Block) (layout : Layout) : Layout :=
  match layout.frames with
  | [] => { layout with blocks := layout.blocks ++ blocks }
  | frame :: outer =>
    { layout with frames := { frame with children := frame.children ++ blocks } :: outer }

/-- Opens a frame. -/
def openFrame (element : Element) (tag : Tag) (layout : Layout) : Layout :=
  { layout with frames := ⟨element, tag, []⟩ :: layout.frames }

/-- Replaces the innermost frame by the blocks that it leaves behind. -/
def closeFrame (source : Text) (frame : Frame) (outer : List Frame) (closing : Option Tag)
    (stop : Nat) (layout : Layout) : Layout :=
  push (BuildState.frameBlocks source frame closing stop).1
    { layout with frames := outer, closed := layout.closed ++ [(some frame.tag, closing)] }

/-! ## Steps -/

/-- The block of a request tag. -/
def requestBlock (source : Text) (tag : Tag) : Block :=
  .request tag.attributes (source.slice tag.start tag.stop) ⟨tag.start, tag.stop⟩

/-- One step of laying out `source`, whose tags are `tags`: from an offset and a layout to the next
ones. -/
inductive Step (source : Text) (tags : List Tag) : Nat × Layout → Nat × Layout → Prop
  /-- Literal text, which is no single tag. -/
  | text {start stop : Nat} {layout : Layout} (nonempty : start < stop)
      (inside : stop ≤ source.length) (untagged : ∀ tag ∈ tags, tag.start = start → tag.stop ≠ stop) :
      Step source tags (start, layout)
        (stop, layout.push [.text (decodeBraces (source.slice start stop)) ⟨start, stop⟩])
  /-- A brace region. -/
  | region {region : Region} {layout : Layout} (readIn : (Token.region region).ReadIn source) :
      Step source tags (region.start, layout)
        (region.stop, layout.push [BuildState.regionBlock region])
  /-- A tag that is kept as literal text. -/
  | literal {tag : Tag} {layout : Layout} (known : tag ∈ tags) :
      Step source tags (tag.start, layout)
        (tag.stop, layout.push [BuildState.tagText source tag])
  /-- A request tag without a body. -/
  | request {tag : Tag} {layout : Layout} (known : tag ∈ tags)
      (element : tag.element? = some .request) (form : tag.form = .selfClosing) :
      Step source tags (tag.start, layout) (tag.stop, layout.push [requestBlock source tag])
  /-- A request tag whose body follows. -/
  | openRequest {tag : Tag} {layout : Layout} (known : tag ∈ tags)
      (element : tag.element? = some .request) (form : tag.form = .opening) :
      Step source tags (tag.start, layout)
        (tag.stop, (layout.push [requestBlock source tag]).openFrame .request tag)
  /-- The tag of any other element; a self-closing one is closed in the next step. -/
  | openOther {tag : Tag} {element : Element} {layout : Layout} (known : tag ∈ tags)
      (named : tag.element? = some element) (other : element ≠ .request)
      (form : tag.form ≠ .closing) :
      Step source tags (tag.start, layout) (tag.stop, layout.openFrame element tag)
  /-- A frame is closed without a tag of its own. -/
  | close {pos : Nat} {frame : Frame} {outer : List Frame} {layout : Layout}
      (innermost : layout.frames = frame :: outer) :
      Step source tags (pos, layout) (pos, layout.closeFrame source frame outer none pos)
  /-- A frame is closed by a closing tag of its name. -/
  | closeBy {tag : Tag} {frame : Frame} {outer : List Frame} {layout : Layout} (known : tag ∈ tags)
      (form : tag.form = .closing) (innermost : layout.frames = frame :: outer)
      (name : frame.tag.name = tag.name) :
      Step source tags (tag.start, layout)
        (tag.stop, layout.closeFrame source frame outer (some tag) tag.stop)

/-- Any number of steps. -/
abbrev Steps (source : Text) (tags : List Tag) : Nat × Layout → Nat × Layout → Prop :=
  Relation.ReflTransGen (Step source tags)

end Layout

/-! ## What a frame leaves behind -/

/-- The text of a closing tag, if there is one. -/
def closingText (source : Text) : Option Tag → Text
  | none => []
  | some tag => source.slice tag.start tag.stop

lemma frameBlocks_role (source : Text) (role : Role) (tag : Tag) (children : List Block)
    (closing : Option Tag) (stop : Nat) :
    (BuildState.frameBlocks source ⟨.role role, tag, children⟩ closing stop).1 =
      [.role role (source.slice tag.start tag.stop) (closingText source closing) children
        ⟨tag.start, stop⟩] := by
  cases closing <;> rfl

lemma frameBlocks_loop (source : Text) (tag : Tag) (children : List Block) (closing : Option Tag)
    (stop : Nat) :
    (BuildState.frameBlocks source ⟨.loop, tag, children⟩ closing stop).1 =
      [.loop ((tag.attributes.text? LoopAttribute.each.name).getD [])
        ((tag.attributes.text? LoopAttribute.item.name).getD [])
        (source.slice tag.start tag.stop) (closingText source closing) children
        ⟨tag.start, stop⟩] := by
  cases closing <;> rfl

lemma frameBlocks_request (source : Text) (tag : Tag) (children : List Block) (closing : Option Tag)
    (stop : Nat) :
    (BuildState.frameBlocks source ⟨.request, tag, children⟩ closing stop).1 =
      children ++ (closing.map (BuildState.tagText source)).toList := rfl

lemma frameBlocks_code (source : Text) (tag : Tag) (children : List Block) (closing : Option Tag)
    (stop : Nat) :
    ∃ kept, (BuildState.frameBlocks source ⟨.code, tag, children⟩ closing stop).1 =
      [.hoisted kept ⟨tag.start, stop⟩] :=
  ⟨_, rfl⟩

/-! ## The layout of a building state -/

namespace BuildState

variable (source : Text) (state : BuildState)

@[simp] lemma layout_push (blocks : List Block) :
    (state.push blocks).layout = state.layout.push blocks := by
  unfold push layout Layout.push
  cases state.frames <;> rfl

@[simp] lemma layout_openFrame (element : Element) (tag : Tag) :
    (state.openFrame element tag).layout = state.layout.openFrame element tag := rfl

lemma layout_note {move : Move} (h : move.closed? = none) :
    (state.note move).layout = state.layout := by
  simp [layout, note, h]

@[simp] lemma layout_addRegion (region : Region) :
    (state.addRegion region).layout = state.layout.push [regionBlock region] := by
  rw [addRegion, layout_note _ rfl, layout_push]

lemma layout_note_close (opening closing : Option Tag) :
    (state.note (.close opening closing)).layout =
      { state.layout with closed := state.layout.closed ++ [(opening, closing)] } := by
  simp [layout, note, Move.closed?]

lemma layout_closeFrame {frame : Frame} {outer : List Frame} (h : state.frames = frame :: outer)
    (closing : Option Tag) (stop : Nat) :
    (state.closeFrame source closing stop).layout =
      state.layout.closeFrame source frame outer closing stop := by
  unfold closeFrame
  rw [h]
  dsimp only
  rw [layout_note_close, layout_push, Layout.closeFrame, Layout.push, Layout.push, layout]
  cases outer <;> rfl

/-- Any number of reports adds its issues and changes nothing else. -/
lemma foldl_report {α : Type} (items : List α) (problem : α → Problem) (start stop : α → Nat) :
    items.foldl (fun state item => state.report (problem item) (start item) (stop item)) state =
      { state with issues := state.issues ++ items.map fun item =>
          ⟨problem item, ⟨start item, stop item⟩⟩ } := by
  induction items generalizing state with
  | nil => rw [List.foldl_nil, List.map_nil, List.append_nil]
  | cons item rest ih =>
    rw [List.foldl_cons, ih]
    simp [report]

lemma reports_eq (problems : List Problem) (start stop : Nat) :
    problems.foldl (fun state problem => state.report problem start stop) state =
      { state with issues := state.issues ++ problems.map fun problem =>
          ⟨problem, ⟨start, stop⟩⟩ } :=
  state.foldl_report problems id (fun _ => start) (fun _ => stop)

lemma layout_reports (problems : List Problem) (start stop : Nat) :
    (problems.foldl (fun state problem => state.report problem start stop) state).layout
      = state.layout := by
  rw [reports_eq]
  rfl

/-- The issue of a tag without a partner. -/
def unmatchedIssue (tag : Tag) : Issue :=
  ⟨unmatchedProblem tag, ⟨tag.start, tag.stop⟩⟩

lemma reportUnmatched_eq : state.reportUnmatched =
    { state with issues := state.issues ++
        (Pairing.ofTags (state.tags.filter Tag.isSupported)).unmatched.map unmatchedIssue } :=
  state.foldl_report _ unmatchedProblem Tag.start Tag.stop

lemma layout_reportUnmatched : state.reportUnmatched.layout = state.layout := by
  rw [reportUnmatched_eq]
  rfl

/-! ## Open tags -/

/-- The tags of the open frames, innermost first. -/
def openTags : List Tag :=
  state.frames.map (·.tag)

@[simp] lemma openTags_push (blocks : List Block) :
    (state.push blocks).openTags = state.openTags := by
  unfold push openTags
  cases h : state.frames with
  | nil => simp
  | cons frame outer => simp

@[simp] lemma openTags_note (move : Move) : (state.note move).openTags = state.openTags := rfl

@[simp] lemma openTags_openFrame (element : Element) (tag : Tag) :
    (state.openFrame element tag).openTags = tag :: state.openTags := rfl

@[simp] lemma openTags_closeFrame (closing : Option Tag) (stop : Nat) :
    (state.closeFrame source closing stop).openTags = state.openTags.tail := by
  unfold closeFrame
  cases h : state.frames with
  | nil => rw [openTags_note, openTags, h, List.map_nil, List.tail_nil]
  | cons frame outer =>
    dsimp only
    rw [openTags_note, openTags_push, openTags, openTags, h, List.map_cons, List.tail_cons]

lemma openTags_closeFrames (stop count : Nat) :
    (closeFrames source stop count state).openTags = state.openTags.drop count := by
  induction count generalizing state with
  | zero => rfl
  | succ count ih => rw [closeFrames, ih, openTags_closeFrame, List.drop_tail]

lemma openTags_reports (problems : List Problem) (start stop : Nat) :
    (problems.foldl (fun state problem => state.report problem start stop) state).openTags
      = state.openTags := by
  rw [reports_eq]
  rfl

/-- The innermost frame of a name is found among the open tags. -/
lemma findFrame_eq (name : Text) :
    state.frames.findIdx? (·.tag.name == name) = state.openTags.findIdx? (·.name == name) := by
  rw [openTags, List.findIdx?_map]
  rfl

lemma frames_of_openTags {state : BuildState} {tag : Tag} {tags : List Tag}
    (h : state.openTags = tag :: tags) :
    ∃ frame outer, state.frames = frame :: outer ∧ frame.tag = tag := by
  unfold openTags at h
  obtain ⟨frame, outer, frames, tag, -⟩ := List.map_eq_cons_iff.1 h
  exact ⟨frame, outer, frames, tag⟩

end BuildState

/-! ## The moves of the builder as steps -/

namespace BuildState

open Layout

variable {source : Text} {tags : List Tag} {state : BuildState}

lemma closeFrame_step {tag : Tag} {rest : List Tag} (h : state.openTags = tag :: rest) (pos : Nat) :
    Step source tags (pos, state.layout) (pos, (state.closeFrame source none pos).layout) := by
  obtain ⟨frame, outer, frames, -⟩ := frames_of_openTags h
  rw [layout_closeFrame source state frames]
  exact .close frames

/-- Only frames that are there are closed. -/
lemma closeFrames_steps (pos count : Nat) (enough : count ≤ state.openTags.length) :
    Steps source tags (pos, state.layout) (pos, (closeFrames source pos count state).layout) := by
  induction count generalizing state with
  | zero => exact .refl
  | succ count ih =>
    cases open_ : state.openTags with
    | nil => simp [open_] at enough
    | cons tag rest =>
      refine .head (closeFrame_step open_ pos) (ih ?_)
      rw [openTags_closeFrame, open_, List.tail_cons]
      simpa [open_] using enough

/-- The builder and `splitAtOpening?` find the same open tag. -/
lemma splitAtOpening?_of_findIdx? {opened : List Tag} {name : Text} {inner : Nat}
    (h : opened.findIdx? (·.name == name) = some inner) :
    inner < opened.length ∧ ∃ opening outer, opened.drop inner = opening :: outer ∧
      splitAtOpening? name opened = some (opened.take inner, opening, outer) := by
  obtain ⟨bound, found, first⟩ := List.findIdx?_eq_some_iff_getElem.1 h
  refine ⟨bound, opened[inner], opened.drop (inner + 1), List.drop_eq_getElem_cons bound, ?_⟩
  refine splitAtOpening?_eq_some_iff.2 ⟨?_, by simpa using found, ?_⟩
  · rw [← List.drop_eq_getElem_cons bound, List.take_append_drop]
  · intro tag member
    obtain ⟨index, below, rfl⟩ := List.mem_take_iff_getElem.1 member
    simpa using first index (by omega)

lemma closeTag_steps {tag : Tag} (known : tag ∈ tags) (form : tag.form = .closing) :
    Steps source tags (tag.start, state.layout) (tag.stop, (state.closeTag source tag).layout) := by
  unfold closeTag
  rw [findFrame_eq]
  split
  · rw [layout_push]
    exact .single (.literal known)
  · next inner found =>
    obtain ⟨bound, opening, outer, drop, split⟩ := splitAtOpening?_of_findIdx? found
    obtain ⟨-, name, -⟩ := splitAtOpening?_eq_some_iff.1 split
    have left := openTags_closeFrames source state tag.start inner
    rw [drop] at left
    obtain ⟨frame, below, frames, rfl⟩ := frames_of_openTags left
    refine .tail (closeFrames_steps tag.start inner (Nat.le_of_lt bound)) ?_
    rw [layout_closeFrame source _ frames]
    exact .closeBy known form frames name

lemma layout_openTag_request (tag : Tag) :
    (state.openTag source .request tag).layout =
      if tag.form = .selfClosing then state.layout.push [requestBlock source tag]
      else (state.layout.push [requestBlock source tag]).openFrame .request tag := by
  have reported := layout_reports state (state.openingProblems .request tag) tag.start tag.stop
  unfold openTag
  dsimp only
  generalize (state.openingProblems .request tag).foldl
    (fun state problem => state.report problem tag.start tag.stop) state = opened at reported ⊢
  split
  · rw [layout_push, ← reported]
    rfl
  · rw [layout_openFrame, layout_push, ← reported]
    rfl

lemma openTag_other {element : Element} (other : element ≠ .request) (tag : Tag) :
    state.openTag source element tag =
      let opened := (state.openingProblems element tag).foldl
        (fun state problem => state.report problem tag.start tag.stop) state
      if tag.form = .selfClosing then
        (opened.openFrame element tag).closeFrame source none tag.stop
      else opened.openFrame element tag := by
  unfold openTag
  cases element with
  | request => exact absurd rfl other
  | role role => cases tag.form <;> rfl
  | loop => cases tag.form <;> rfl
  | code => cases tag.form <;> rfl

lemma TagForm.eq_opening {form : TagForm} (notClosing : form ≠ .closing)
    (notSelf : form ≠ .selfClosing) : form = .opening := by
  cases form with
  | opening => rfl
  | closing => exact absurd rfl notClosing
  | selfClosing => exact absurd rfl notSelf

lemma openTag_steps {tag : Tag} {element : Element} (known : tag ∈ tags)
    (named : tag.element? = some element) (form : tag.form ≠ .closing) :
    Steps source tags (tag.start, state.layout)
      (tag.stop, (state.openTag source element tag).layout) := by
  by_cases request : element = .request
  · subst request
    rw [layout_openTag_request]
    split
    · next selfClosing => exact .single (.request known named selfClosing)
    · next notSelf =>
      exact .single (.openRequest known named (TagForm.eq_opening form notSelf))
  · rw [openTag_other request, ← layout_reports state (state.openingProblems element tag)
      tag.start tag.stop]
    generalize (state.openingProblems element tag).foldl
      (fun state problem => state.report problem tag.start tag.stop) state = opened
    have opens : Step source tags (tag.start, opened.layout)
        (tag.stop, (opened.openFrame element tag).layout) :=
      .openOther known named request form
    dsimp only
    split
    · exact .tail (.single opens) (closeFrame_step (openTags_openFrame opened element tag) tag.stop)
    · exact .single opens

lemma addTag_steps {tag : Tag} (known : tag ∈ tags) :
    Steps source tags (tag.start, state.layout) (tag.stop, (state.addTag source tag).layout) := by
  unfold addTag
  rw [layout_note _ rfl]
  rw [show state.layout = ({ state with tags := state.tags ++ [tag] } : BuildState).layout from rfl]
  generalize ({ state with tags := state.tags ++ [tag] } : BuildState) = noted
  split
  · rw [layout_push]
    exact .single (.literal known)
  · next closing => exact closeTag_steps known closing
  · next element named notClosing => exact openTag_steps known named notClosing

lemma addText_steps {start stop : Nat} (ordered : start ≤ stop) (inside : stop ≤ source.length)
    (untagged : start < stop → ∀ tag ∈ tags, tag.start = start → tag.stop ≠ stop) :
    Steps source tags (start, state.layout) (stop, (state.addText source start stop).layout) := by
  unfold addText
  rw [layout_note _ rfl]
  split
  · next empty =>
    rw [Nat.le_antisymm ordered empty]
  · next nonempty =>
    rw [layout_push]
    have nonempty := Nat.lt_of_not_le nonempty
    exact .single (.text nonempty inside (untagged nonempty))

/-! ### Tokens -/

/-- Building stands between two tokens: everything read lies before its offset, and everything that
is still to come behind it. -/
structure StandsBetween (source : Text) (done rest : List Token) (pos : Nat) : Prop where
  inside : pos ≤ source.length
  passed : ∀ token ∈ done, token.isMarkup = true → token.start < pos
  ahead : ∀ token ∈ rest, pos ≤ token.start

lemma StandsBetween.after {done rest : List Token} {token : Token} {pos : Nat}
    (stands : StandsBetween source done (token :: rest) pos) (readIn : token.ReadIn source)
    (ordered : (done ++ token :: rest).Pairwise Token.Precedes) (markup : token.isMarkup = true) :
    StandsBetween source (done ++ [token]) rest token.stop := by
  have here := stands.ahead token List.mem_cons_self
  have nonempty : token.start < token.stop := readIn.start_lt_stop
  refine ⟨readIn.stop_le, ?_, ?_⟩
  · intro other member otherMarkup
    rcases List.mem_append.1 member with member | member
    · have := stands.passed other member otherMarkup
      omega
    · rw [List.mem_singleton.1 member]
      exact nonempty
  · intro later member
    have following := (List.pairwise_cons.1 (List.pairwise_append.1 ordered).2.1).1 later member
    exact following.2 markup

/-- No tag starts in the literal text before the next token. -/
lemma StandsBetween.untagged {done rest : List Token} {token : Token} {pos : Nat}
    (stands : StandsBetween source done (token :: rest) pos)
    (ordered : (done ++ token :: rest).Pairwise Token.Precedes) (gap : pos < token.start) :
    ∀ tag ∈ (done ++ token :: rest).filterMap Token.tag?, tag.start ≠ pos := by
  intro tag member start
  rcases List.mem_append.1 (mem_of_mem_tags member) with member | member
  · have before : tag.start < pos := stands.passed _ member rfl
    omega
  · rcases List.mem_cons.1 member with rfl | member
    · exact absurd start (Nat.ne_of_gt gap)
    · have following := (List.pairwise_cons.1 (List.pairwise_append.1 ordered).2.1).1 _ member
      have behind : token.start < tag.start := following.1
      omega

lemma addToken_steps {done rest : List Token} {token : Token} (readIn : token.ReadIn source)
    (ordered : (done ++ token :: rest).Pairwise Token.Precedes)
    (stands : StandsBetween source done (token :: rest) state.position) :
    Steps source ((done ++ token :: rest).filterMap Token.tag?) (state.position, state.layout)
        ((state.addToken source token).position, (state.addToken source token).layout) ∧
      StandsBetween source (done ++ [token]) rest (state.addToken source token).position := by
  have here := stands.ahead token List.mem_cons_self
  have inside := readIn.start_lt
  have text : Steps source ((done ++ token :: rest).filterMap Token.tag?)
      (state.position, state.layout)
      (token.start, (state.addText source state.position token.start).layout) :=
    addText_steps here (Nat.le_of_lt inside) fun gap tag member start =>
      absurd start (stands.untagged ordered gap tag member)
  cases token with
  | error e =>
    refine ⟨.refl, stands.inside, ?_, ?_⟩
    · intro other member markup
      rcases List.mem_append.1 member with member | member
      · exact stands.passed other member markup
      · rw [List.mem_singleton.1 member] at markup
        exact Bool.noConfusion markup
    · intro later member
      exact stands.ahead later (List.mem_cons_of_mem _ member)
  | region r =>
    refine ⟨.tail text ?_, stands.after readIn ordered rfl⟩
    have pushed : Step source ((done ++ Token.region r :: rest).filterMap Token.tag?)
        (r.start, (state.addText source state.position r.start).layout)
        (r.stop, (state.addText source state.position r.start).layout.push [regionBlock r]) :=
      .region readIn
    rw [← layout_addRegion] at pushed
    exact pushed
  | tag t =>
    refine ⟨.trans text ?_, stands.after readIn ordered rfl⟩
    exact addTag_steps (List.mem_filterMap.2 ⟨.tag t, by simp, rfl⟩)

/-- Any number of tokens, with others behind them. -/
lemma addTokens_steps (taken rest : List Token) {tokens : List Token}
    (readIn : ∀ token ∈ tokens, token.ReadIn source) (ordered : tokens.Pairwise Token.Precedes) :
    ∀ {done : List Token} {state : BuildState}, tokens = done ++ (taken ++ rest) →
      StandsBetween source done (taken ++ rest) state.position →
      Steps source (tokens.filterMap Token.tag?) (state.position, state.layout)
          ((taken.foldl (addToken source) state).position,
            (taken.foldl (addToken source) state).layout) ∧
        StandsBetween source (done ++ taken) rest
          (taken.foldl (addToken source) state).position := by
  induction taken with
  | nil =>
    intro done state split stands
    rw [List.append_nil]
    exact ⟨.refl, stands⟩
  | cons token taken ih =>
    intro done state split stands
    subst split
    obtain ⟨first, between⟩ := addToken_steps (readIn token (by simp)) ordered stands
    obtain ⟨others, ends⟩ := ih (by simp) between
    rw [List.append_assoc] at ends
    exact ⟨.trans first others, ends⟩

/-- At the end the text behind the last token is laid out, and what is open is closed. -/
lemma finish_steps (inside : state.position ≤ source.length)
    (passed : ∀ tag ∈ tags, tag.start < state.position) :
    Steps source tags (state.position, state.layout)
      (source.length, (state.finish source).layout) := by
  have closes (covered : BuildState) : Steps source tags (source.length, covered.layout)
      (source.length, (closeFrames source source.length covered.frames.length covered).layout) :=
    closeFrames_steps _ _ (by rw [openTags, List.length_map])
  unfold finish
  dsimp only
  rw [layout_reportUnmatched]
  refine .trans (addText_steps inside (Nat.le_refl _) ?_)
    (closes { state.addText source state.position source.length with position := source.length })
  intro _ tag member start
  exact absurd start (Nat.ne_of_lt (passed tag member))

lemma frames_finish : (state.finish source).layout.frames = [] := by
  have closes (covered : BuildState) :
      (closeFrames source source.length covered.frames.length covered).frames = [] := by
    have opened := openTags_closeFrames source covered source.length covered.frames.length
    rw [List.drop_of_length_le (by rw [openTags, List.length_map])] at opened
    exact List.map_eq_nil_iff.1 opened
  unfold finish
  dsimp only
  rw [layout_reportUnmatched]
  exact closes { state.addText source state.position source.length with position := source.length }

end BuildState

/-! ## The whole document -/

/-- The tags of a document from an offset on. -/
def tagsFrom (source : Text) (start : Nat) : List Tag :=
  (scan source start).filterMap Token.tag?

lemma readIn_of_mem_tagsFrom {source : Text} {start : Nat} {tag : Tag}
    (member : tag ∈ tagsFrom source start) : (Token.tag tag).ReadIn source :=
  (readIn_of_mem_scan source start _ (mem_of_mem_tags member)).2

/-- The state behind some tokens of a document. -/
def BuildState.afterTokens (source : Text) (start : Nat) (done : List Token) : BuildState :=
  done.foldl (addToken source) (.init start)

lemma BuildState.afterTokens_concat (source : Text) (start : Nat) (done : List Token) (token : Token) :
    afterTokens source start (done ++ [token]) =
      (afterTokens source start done).addToken source token := by
  rw [afterTokens, List.foldl_append]
  rfl

/-- **Building passes through the state behind any of its tokens**: steps lead there, and on from there
to the end. -/
theorem build_steps_through {source : Text} {start : Nat} (inside : start ≤ source.length)
    {done rest : List Token} (split : scan source start = done ++ rest) :
    Layout.Steps source (tagsFrom source start) (start, .empty)
        ((BuildState.afterTokens source start done).position,
          (BuildState.afterTokens source start done).layout) ∧
      Layout.Steps source (tagsFrom source start)
        ((BuildState.afterTokens source start done).position,
          (BuildState.afterTokens source start done).layout)
        (source.length, ⟨[], (build source start).blocks, (build source start).layout.closed⟩) := by
  have readIn : ∀ token ∈ scan source start, token.ReadIn source := fun token member =>
    (readIn_of_mem_scan source start token member).2
  have ahead : ∀ token ∈ scan source start, start ≤ token.start := fun token member =>
    (readIn_of_mem_scan source start token member).1
  have ordered := scan_pairwise source start
  have begins : BuildState.StandsBetween source [] (done ++ rest)
      (BuildState.init start).position := by
    rw [← split]
    exact ⟨inside, fun _ none => absurd none List.not_mem_nil, ahead⟩
  obtain ⟨before, between⟩ := BuildState.addTokens_steps done rest readIn ordered split begins
  rw [List.nil_append] at between
  obtain ⟨behind, stands⟩ := BuildState.addTokens_steps rest [] readIn ordered
    (split.trans (congrArg _ (List.append_nil rest).symm))
    ((List.append_nil rest).symm ▸ between)
  have whole : build source start =
      (rest.foldl (BuildState.addToken source) (BuildState.afterTokens source start done)).finish
        source := by
    rw [build, split, List.foldl_append]
    rfl
  have passed : ∀ tag ∈ tagsFrom source start, tag.start < (rest.foldl
      (BuildState.addToken source) (BuildState.afterTokens source start done)).position := by
    intro tag member
    exact stands.passed _ (split ▸ mem_of_mem_tags member) rfl
  have finishes := BuildState.finish_steps stands.inside passed
  have closed : (build source start).layout =
      ⟨[], (build source start).blocks, (build source start).layout.closed⟩ := by
    rw [← BuildState.frames_finish]
    rfl
  rw [← closed, whole]
  exact ⟨before, .trans behind finishes⟩

/-- **Building lays out the whole document**, from its first offset to its end, and leaves no frame
open. -/
theorem build_steps {source : Text} {start : Nat} (inside : start ≤ source.length) :
    Layout.Steps source (tagsFrom source start) (start, .empty)
      (source.length, ⟨[], (build source start).blocks, (build source start).layout.closed⟩) := by
  obtain ⟨before, behind⟩ := build_steps_through inside (List.nil_append (scan source start)).symm
  exact .trans before behind

end GlassPrompt
