import GlassPrompt.Proofs.Document.Closings

/-!
# The builder follows the pairing of tags

Two loops decide which tags belong together: the one that pairs tags, and the builder, which opens and
closes frames.  They keep the same stack for tags of the vocabulary, so the diagnostics, the folding
and the block tree of a document agree.

* `BuildState.Follows` — a building state and a pairing state agree on the open tags and on the pairs.
* `BuildState.addTag_follows`, `addTokens_follows` — one tag, and any number of tokens, keep them in
  agreement.
* `FollowsPairing`, `build_followsPairing` — what this means for the moves of the builder and for the
  blocks that it makes.
-/

namespace GlassPrompt

/-! ## The pairs of a building state -/

/-- The tags of the vocabulary among tokens. -/
def supportedTags (tokens : List Token) : List Tag :=
  (tokens.filterMap Token.tag?).filter Tag.isSupported

lemma supportedTags_append (first second : List Token) :
    supportedTags (first ++ second) = supportedTags first ++ supportedTags second := by
  rw [supportedTags, List.filterMap_append, List.filter_append]
  rfl

/-- The pair of tags that opened and closed a frame, if a move closes one by a tag. -/
def Move.pair? : Move → Option TagPair
  | .close (some opening) (some closing) => some ⟨opening, closing⟩
  | _ => none

namespace BuildState

/-- The pairs of tags that have opened and closed a frame. -/
def paired (state : BuildState) : List TagPair :=
  state.journal.filterMap fun entry => entry.1.pair?

variable (source : Text) (state : BuildState)

lemma paired_note (move : Move) : (state.note move).paired = state.paired ++ move.pair?.toList := by
  rw [paired, note, List.filterMap_append]
  cases pair : move.pair? <;> simp [paired, pair]

@[simp] lemma paired_push (blocks : List Block) : (state.push blocks).paired = state.paired := by
  unfold push paired
  cases state.frames <;> rfl

@[simp] lemma paired_openFrame (element : Element) (tag : Tag) :
    (state.openFrame element tag).paired = state.paired := rfl

lemma paired_reports (problems : List Problem) (start stop : Nat) :
    (problems.foldl (fun state problem => state.report problem start stop) state).paired
      = state.paired := by
  rw [reports_eq]
  rfl

lemma paired_addText (start stop : Nat) : (state.addText source start stop).paired = state.paired := by
  unfold addText
  rw [paired_note]
  split <;> simp [Move.pair?]

lemma openTags_addText (start stop : Nat) :
    (state.addText source start stop).openTags = state.openTags := by
  unfold addText
  rw [openTags_note]
  split <;> simp

lemma paired_closeFrame_none (stop : Nat) :
    (state.closeFrame source none stop).paired = state.paired := by
  unfold closeFrame
  cases h : state.frames with
  | nil => simp [paired_note, Move.pair?]
  | cons frame outer =>
    dsimp only
    rw [paired_note, paired_push]
    exact List.append_nil _

lemma paired_closeFrames (stop count : Nat) :
    (closeFrames source stop count state).paired = state.paired := by
  induction count generalizing state with
  | zero => rfl
  | succ count ih => rw [closeFrames, ih, paired_closeFrame_none]

variable {source} {state}

lemma paired_closeFrame_some {opening closing : Tag} {outer : List Tag}
    (h : state.openTags = opening :: outer) (stop : Nat) :
    (state.closeFrame source (some closing) stop).paired = state.paired ++ [⟨opening, closing⟩] := by
  obtain ⟨frame, below, frames, rfl⟩ := frames_of_openTags h
  unfold closeFrame
  rw [frames]
  dsimp only
  rw [paired_note, paired_push]
  rfl

/-- A frame is on record as closed by a tag exactly if its tags are a pair. -/
lemma mem_paired_iff {opening closing : Tag} :
    ⟨opening, closing⟩ ∈ state.paired ↔ (some opening, some closing) ∈ state.layout.closed := by
  have moves : ∀ move : Move, move.pair? = some ⟨opening, closing⟩ ↔
      move.closed? = some (some opening, some closing) := by
    intro move
    cases move with
    | close first second => cases first <;> cases second <;> simp [Move.pair?, Move.closed?]
    | _ => simp [Move.pair?, Move.closed?]
  simp only [paired, layout, List.mem_filterMap, moves]

/-! ## The simulation -/

/-- Building and pairing agree on the open tags, and on the pairs that have been found. -/
structure Follows (state : BuildState) (pairing : PairingState) : Prop where
  opened : state.openTags = pairing.opened
  pairs : state.paired = pairing.pairs

variable {pairing : PairingState}

/-- What does not concern frames keeps building and pairing in agreement. -/
lemma Follows.congr {other : BuildState} (h : state.Follows pairing)
    (opened : other.openTags = state.openTags) (pairs : other.paired = state.paired) :
    other.Follows pairing :=
  ⟨opened.trans h.opened, pairs.trans h.pairs⟩

lemma Follows.push (h : state.Follows pairing) (blocks : List Block) :
    (state.push blocks).Follows pairing :=
  h.congr (openTags_push state blocks) (paired_push state blocks)

/-- A frame is opened for an opening tag. -/
lemma Follows.openFrame (h : state.Follows pairing) (element : Element) {tag : Tag}
    (form : tag.form = .opening) : (state.openFrame element tag).Follows (pairing.step tag) := by
  rw [PairingState.step_opening pairing form]
  exact ⟨congrArg (tag :: ·) h.opened, h.pairs⟩

/-- The frame of a self-closing tag is closed at once. -/
lemma Follows.openAndClose (h : state.Follows pairing) (element : Element) (tag : Tag) (stop : Nat) :
    ((state.openFrame element tag).closeFrame source none stop).Follows pairing := by
  refine h.congr ?_ ?_
  · rw [openTags_closeFrame, openTags_openFrame, List.tail_cons]
  · rw [paired_closeFrame_none, paired_openFrame]

lemma closeTag_follows (h : state.Follows pairing) {tag : Tag} (form : tag.form = .closing) :
    (state.closeTag source tag).Follows (pairing.step tag) := by
  unfold closeTag
  rw [findFrame_eq, h.opened]
  cases found : pairing.opened.findIdx? (·.name == tag.name) with
  | none =>
    have unnamed : splitAtOpening? tag.name pairing.opened = none :=
      splitAtOpening?_eq_none_iff.2 (by simpa using List.findIdx?_eq_none_iff.1 found)
    rw [PairingState.step_stray form unnamed]
    have pushed := h.push [tagText source tag]
    exact ⟨pushed.opened, pushed.pairs⟩
  | some inner =>
    obtain ⟨-, opening, outer, drop, split⟩ := splitAtOpening?_of_findIdx? found
    have left : (closeFrames source tag.start inner state).openTags = opening :: outer := by
      rw [openTags_closeFrames, h.opened, drop]
    rw [PairingState.step_closing form split]
    refine ⟨?_, ?_⟩
    · rw [openTags_closeFrame, left, List.tail_cons]
    · rw [paired_closeFrame_some left, paired_closeFrames, h.pairs]

lemma openTag_follows (h : state.Follows pairing) {tag : Tag} (element : Element)
    (form : tag.form ≠ .closing) :
    (state.openTag source element tag).Follows (pairing.step tag) := by
  have reported : ((state.openingProblems element tag).foldl
      (fun state problem => state.report problem tag.start tag.stop) state).Follows pairing :=
    h.congr (openTags_reports state _ _ _) (paired_reports state _ _ _)
  by_cases request : element = .request
  · subst request
    unfold openTag
    dsimp only
    generalize (state.openingProblems .request tag).foldl
      (fun state problem => state.report problem tag.start tag.stop) state = opened at reported ⊢
    have counted : ({ opened with requests := opened.requests + 1 } : BuildState).Follows pairing :=
      ⟨reported.opened, reported.pairs⟩
    split
    · next self =>
      rw [PairingState.step_selfClosing pairing self]
      exact counted.push _
    · next notSelf => exact (counted.push _).openFrame .request (TagForm.eq_opening form notSelf)
  · rw [openTag_other request]
    dsimp only
    split
    · next self =>
      rw [PairingState.step_selfClosing pairing self]
      exact reported.openAndClose element tag tag.stop
    · next notSelf => exact reported.openFrame element (TagForm.eq_opening form notSelf)

/-- **One tag keeps building and pairing in agreement**, if pairing takes in the tags of the
vocabulary only. -/
theorem addTag_follows (h : state.Follows pairing) (tag : Tag) :
    (state.addTag source tag).Follows (if tag.isSupported then pairing.step tag else pairing) := by
  have noted : ({ state with tags := state.tags ++ [tag] } : BuildState).Follows pairing :=
    ⟨h.opened, h.pairs⟩
  unfold addTag
  generalize ({ state with tags := state.tags ++ [tag] } : BuildState) = state at noted
  have passes {other : BuildState} {pairing : PairingState} (h : other.Follows pairing) :
      (other.note .tag).Follows pairing :=
    h.congr (openTags_note _ _) ((paired_note _ _).trans (List.append_nil _))
  split
  · next unknown =>
    rw [if_neg (by simp [Tag.isSupported, unknown])]
    exact passes (noted.push _)
  · next named closing =>
    rw [if_pos (by simp [Tag.isSupported, named])]
    exact passes (closeTag_follows noted closing)
  · next element named notClosing =>
    rw [if_pos (by simp [Tag.isSupported, named])]
    exact passes (openTag_follows noted element notClosing)

lemma addToken_follows (h : state.Follows pairing) (token : Token) :
    (state.addToken source token).Follows
      ((supportedTags [token]).foldl PairingState.step pairing) := by
  cases token with
  | error e => exact ⟨h.opened, h.pairs⟩
  | region r =>
    refine h.congr ?_ ?_
    · show ((state.addText source state.position r.start).push [regionBlock r]).openTags = _
      rw [openTags_push, openTags_addText]
    · show (((state.addText source state.position r.start).push [regionBlock r]).note
        .region).paired = _
      rw [paired_note, paired_push, paired_addText]
      exact List.append_nil _
  | tag t =>
    have texted : (state.addText source state.position t.start).Follows pairing :=
      h.congr (openTags_addText ..) (paired_addText ..)
    have added : (addTag source t (state.addText source state.position t.start)).Follows
        (if t.isSupported then pairing.step t else pairing) := addTag_follows texted t
    have tags : supportedTags [.tag t] = if t.isSupported then [t] else [] := by
      cases supported : t.isSupported <;> simp [supportedTags, Token.tag?, supported]
    rw [tags]
    split
    · next supported =>
      rw [if_pos supported] at added
      exact ⟨added.opened, added.pairs⟩
    · next unsupported =>
      rw [if_neg unsupported] at added
      exact ⟨added.opened, added.pairs⟩

/-- Any number of tokens keep building and pairing in agreement. -/
theorem addTokens_follows (h : state.Follows pairing) (tokens : List Token) :
    (tokens.foldl (addToken source) state).Follows
      ((supportedTags tokens).foldl PairingState.step pairing) := by
  induction tokens generalizing state pairing with
  | nil => exact h
  | cons token rest ih =>
    have tags : supportedTags (token :: rest) = supportedTags [token] ++ supportedTags rest := by
      rw [supportedTags, supportedTags, supportedTags, ← List.filter_append, ← List.filterMap_append]
      rfl
    rw [tags, List.foldl_append]
    exact ih (addToken_follows h token)

lemma paired_reportUnmatched : state.reportUnmatched.paired = state.paired := by
  rw [reportUnmatched_eq]
  rfl

lemma paired_finish : (state.finish source).paired = state.paired := by
  have closes (covered : BuildState) :
      (closeFrames source source.length covered.frames.length covered).paired = covered.paired :=
    paired_closeFrames source covered _ _
  unfold finish
  dsimp only
  rw [paired_reportUnmatched]
  refine (closes { state.addText source state.position source.length with
    position := source.length }).trans ?_
  exact paired_addText source state _ _

end BuildState

/-- The state after the first tokens of a document, and the pairing of their tags, agree. -/
theorem build_prefix_follows (source : Text) (start count : Nat) :
    (((scan source start).take count).foldl (BuildState.addToken source) (.init start)).Follows
      (pairingState (supportedTags ((scan source start).take count))) :=
  BuildState.addTokens_follows ⟨rfl, rfl⟩ _

/-! ## Pairing tags of the vocabulary -/

/-- Tags of the vocabulary are all in one nesting. -/
lemma pairs_ofTags_perm {tags : List Tag} (supported : ∀ tag ∈ tags, tag.isSupported = true) :
    (Pairing.ofTags tags).pairs.Perm (pairingState tags).pairs := by
  have all : tags.filter Tag.isSupported = tags := List.filter_eq_self.2 supported
  have none : tags.filter (!·.isSupported) = [] :=
    List.filter_eq_nil_iff.2 fun tag member => by simp [supported tag member]
  unfold Pairing.ofTags
  rw [all, none]
  refine (List.mergeSort_perm _ _).trans ?_
  have empty : (Pairing.ofNesting []).pairs = [] := rfl
  rw [empty, List.append_nil]
  rfl

/-! ## The builder and the pairing -/

/-- What is built from `source`, from offset `start` on, agrees with the pairing of its tags. -/
structure FollowsPairing (source : Text) (start : Nat) : Prop where
  /-- After any number of tokens the open frames are those of the open tags. -/
  stack : ∀ count,
    (((scan source start).take count).foldl (BuildState.addToken source) (.init start)).openTags =
      (pairingState (supportedTags ((scan source start).take count))).opened
  /-- Whenever a frame is to be closed, one is open. -/
  rooted : ∀ entry ∈ (build source start).journal, ∀ closing, entry.1 ≠ .close none closing
  /-- The frames that a tag closes are those of the pairs. -/
  closings : (build source start).paired.Perm
    (Pairing.ofTags (supportedTags (scan source start))).pairs
  /-- A role or loop ends with a closing tag exactly if its opening tag is paired, and then it is the
  tag that the pair shows. -/
  blocks : ∀ block ∈ walkBlocks (build source start).blocks, ∀ element,
    block.element? = some element →
      ∃ opening ∈ supportedTags (scan source start),
        opening.element? = some element ∧ opening.start = block.span.start ∧
        (block.closeText ≠ [] ↔ ∃ closing,
          ⟨opening, closing⟩ ∈ (Pairing.ofTags (supportedTags (scan source start))).pairs) ∧
        ∀ closing, ⟨opening, closing⟩ ∈ (Pairing.ofTags (supportedTags (scan source start))).pairs →
          block.span.stop = closing.stop ∧
            block.closeText = source.slice closing.start closing.stop
  /-- A paired role or loop is in the tree, or lies inside hoisted code. -/
  placed : ∀ pair ∈ (Pairing.ofTags (supportedTags (scan source start))).pairs, ∀ element,
    pair.opening.element? = some element → element.isContainer = true →
      ∃ block ∈ walkBlocks (build source start).blocks, block.Holds pair.opening

/-- All frames that are ever closed by a tag are those of the pairs. -/
lemma build_paired (source : Text) (start : Nat) :
    (build source start).paired.Perm
      (Pairing.ofTags (supportedTags (scan source start))).pairs := by
  have follows : (((scan source start).foldl (BuildState.addToken source) (.init start)).Follows
      (pairingState (supportedTags (scan source start)))) :=
    BuildState.addTokens_follows ⟨rfl, rfl⟩ (scan source start)
  rw [build, BuildState.paired_finish, follows.pairs]
  exact (pairs_ofTags_perm fun tag member => (List.mem_filter.1 member).2).symm

/-- **The builder follows the pairing of tags**, from any offset of any document on. -/
theorem build_followsPairing {source : Text} {start : Nat} (inside : start ≤ source.length) :
    FollowsPairing source start := by
  obtain ⟨-, accounted, settled, placed⟩ := build_sound inside
  have pairs {opening closing : Tag} :
      ⟨opening, closing⟩ ∈ (Pairing.ofTags (supportedTags (scan source start))).pairs ↔
        (some opening, some closing) ∈ (build source start).layout.closed :=
    (build_paired source start).mem_iff.symm.trans BuildState.mem_paired_iff
  refine ⟨?_, ?_, build_paired source start, ?_, ?_⟩
  · intro count
    exact (build_prefix_follows source start count).opened
  · intro entry member closing popped
    have closed : (none, closing) ∈ (build source start).layout.closed :=
      List.mem_filterMap.2 ⟨entry, member, by rw [popped]; rfl⟩
    obtain ⟨opening, -, eq, -⟩ := accounted.known none (List.mem_map.2 ⟨_, closed, rfl⟩)
    exact nomatch eq
  · intro block member element isElement
    obtain ⟨opening, closing, closed, closedBy⟩ :=
      settled block (List.mem_append_left _ member) element isElement
    have named : opening.element? = some element := closedBy.element.symm.trans isElement
    obtain ⟨tag, known, eq, -⟩ := accounted.known (some opening) (List.mem_map.2 ⟨_, closed, rfl⟩)
    obtain rfl := Option.some.inj eq
    have supported : opening ∈ supportedTags (scan source start) :=
      List.mem_filter.2 ⟨known, by simp [Tag.isSupported, named]⟩
    have readIn : ∀ tag, closing = some tag → (Token.tag tag).ReadIn source := by
      rintro tag rfl
      exact readIn_of_mem_tagsFrom (accounted.closings _ closed tag rfl)
    have paired {tag : Tag} : closing = some tag ↔
        ⟨opening, tag⟩ ∈ (Pairing.ofTags (supportedTags (scan source start))).pairs := by
      rw [pairs]
      exact ⟨fun isClosing => isClosing ▸ closed, fun isPair => accounted.closing_unique closed isPair⟩
    refine ⟨opening, supported, named, closedBy.start.symm, ?_, ?_⟩
    · rw [closedBy.closeText_ne_nil_iff readIn]
      simp only [paired]
    · intro tag isPair
      have isClosing := paired.2 isPair
      refine ⟨closedBy.stop tag isClosing, ?_⟩
      rw [closedBy.text, isClosing]
      rfl
  · intro pair paired element named container
    obtain ⟨block, member, holds⟩ := placed pair.opening (some pair.closing) (pairs.1 paired) element
      named container
    refine ⟨block, ?_, holds⟩
    rcases List.mem_append.1 member with blocks | frames
    · exact blocks
    · exact nomatch frames

/-- The crossing tags of `crossingDocument` are treated alike by the builder and the pairing. -/
theorem followsPairing_crossing :
    0 ≤ crossingDocument.length ∧ FollowsPairing crossingDocument 0 :=
  ⟨by decide, build_followsPairing (by decide)⟩

end GlassPrompt
