import GlassPrompt.Proofs.Document.StackDiscipline
import GlassPrompt.Proofs.Document.WalkOrder
import GlassPrompt.Proofs.Markup.CodeBodies

/-!
# Code elements become hoisted code

A code element that is closed is hoisted code in the document.  Only an open code frame around it could
take it away again; there is none, since every opening code tag before it stands right before its own
closing tag.

* `opened_noCode` — behind such tags, no code tag is open.
* `Layout.Shown`, `Layout.Change.shown` — a block without a code frame around it stays in the layout.
* `BuildState.layout_openCode`, `BuildState.layout_closeCode` — an opening and a closing code tag.
* `codeBody_opaque` — the body of a code element is opaque and becomes hoisted code.
-/

namespace GlassPrompt

/-! ## No code tag is open -/

lemma element?_of_code {tag : Tag} (name : tag.name = Element.code.name) :
    tag.element? = some .code := by
  rw [Tag.element?, name]
  exact Element.ofName?_eq_some_iff.2 rfl

lemma name_of_code {tag : Tag} (element : tag.element? = some .code) :
    tag.name = Element.code.name :=
  (Element.ofName?_eq_some_iff.1 element).symm

/-- A tag that does not open code leaves no code tag open. -/
lemma step_noCode {pairing : PairingState} {tag : Tag} (notOpening : (Token.tag tag).opensCode = false)
    (noCode : ∀ opening ∈ pairing.opened, opening.name ≠ Element.code.name) :
    ∀ opening ∈ (pairing.step tag).opened, opening.name ≠ Element.code.name := by
  cases form : tag.form with
  | selfClosing => rwa [PairingState.step_selfClosing pairing form]
  | opening =>
    rw [PairingState.step_opening pairing form]
    refine List.forall_mem_cons.2 ⟨fun name => ?_, noCode⟩
    exact absurd (opensCode_iff.2 ⟨name, form⟩) (Bool.eq_false_iff.1 notOpening)
  | closing =>
    cases split : splitAtOpening? tag.name pairing.opened with
    | none =>
      rw [PairingState.step_stray form split]
      exact noCode
    | some parts =>
      obtain ⟨inner, opening, outer⟩ := parts
      obtain ⟨opened, -, -⟩ := splitAtOpening?_eq_some_iff.1 split
      rw [PairingState.step_closing form split]
      intro other member
      exact noCode other (by rw [opened]; simp [member])

/-- An opening code tag and a closing one right behind it leave the same tags open. -/
lemma step_step_code {pairing : PairingState} {opening closing : Tag}
    (opens : (Token.tag opening).opensCode = true) (name : closing.name = Element.code.name)
    (form : closing.form = .closing) :
    ((pairing.step opening).step closing).opened = pairing.opened := by
  obtain ⟨named, openingForm⟩ := opensCode_iff.1 opens
  have split : splitAtOpening? closing.name (opening :: pairing.opened) =
      some ([], opening, pairing.opened) :=
    splitAtOpening?_eq_some_iff.2 ⟨rfl, named.trans name.symm, nofun⟩
  rw [PairingState.step_opening pairing openingForm, PairingState.step_closing form split]

/-- **Where every opening code tag stands right before a closing one, none is open.** -/
theorem opened_noCode {tokens : List Token} (closes : ClosesCode tokens) {pairing : PairingState}
    (noCode : ∀ opening ∈ pairing.opened, opening.name ≠ Element.code.name) :
    ∀ opening ∈ ((supportedTags tokens).foldl PairingState.step pairing).opened,
      opening.name ≠ Element.code.name := by
  induction closes generalizing pairing with
  | nil => exact noCode
  | @other token rest notOpening closes ih =>
    rw [← List.singleton_append, supportedTags_append, List.foldl_append]
    refine ih ?_
    cases token with
    | region r => exact noCode
    | error e => exact noCode
    | tag tag =>
      cases supported : tag.isSupported with
      | false => simpa [supportedTags, Token.tag?, supported] using noCode
      | true => simpa [supportedTags, Token.tag?, supported] using step_noCode notOpening noCode
  | @pair opening closing rest opens name form closes ih =>
    have both : supportedTags [.tag opening, .tag closing] = [opening, closing] := by
      simp [supportedTags, Token.tag?, Tag.isSupported, element?_of_code (opensCode_iff.1 opens).1,
        element?_of_code name]
    have first : supportedTags (.tag opening :: .tag closing :: rest) =
        supportedTags [.tag opening, .tag closing] ++ supportedTags rest :=
      supportedTags_append [.tag opening, .tag closing] rest
    rw [first, List.foldl_append, both]
    refine ih ?_
    show ∀ opening ∈ ((pairing.step _).step _).opened, _
    rw [step_step_code opens name form]
    exact noCode

/-! ## Blocks without code around them -/

namespace Layout

/-- The block is finished, or it is in a frame that is open, and neither that frame nor one around it is
code. -/
def ShownIn (block : Block) : List Frame → List Block → Prop
  | [], blocks => block ∈ walkBlocks blocks
  | frame :: outer, blocks =>
    (block ∈ walkBlocks frame.children ∧ ∀ around ∈ frame :: outer, around.element ≠ .code) ∨
      ShownIn block outer blocks

/-- The block is in the layout without a code frame around it. -/
def Shown (block : Block) (layout : Layout) : Prop :=
  ShownIn block layout.frames layout.blocks

variable {layout : Layout} {block : Block} {blocks : List Block}

lemma Shown.push (shown : layout.Shown block) (blocks : List Block) :
    (layout.push blocks).Shown block := by
  obtain ⟨frames, finished, closed⟩ := layout
  cases frames with
  | nil =>
    show block ∈ walkBlocks (finished ++ blocks)
    rw [walkBlocks_append]
    exact List.mem_append_left _ shown
  | cons frame outer =>
    refine Or.imp_left (fun inside => ⟨?_, ?_⟩) shown
    · show block ∈ walkBlocks (frame.children ++ blocks)
      rw [walkBlocks_append]
      exact List.mem_append_left _ inside.1
    · exact List.forall_mem_cons.2 (List.forall_mem_cons.1 inside.2)

lemma shown_push (noCode : ∀ frame ∈ layout.frames, frame.element ≠ .code)
    (member : block ∈ walkBlocks blocks) : (layout.push blocks).Shown block := by
  obtain ⟨frames, finished, closed⟩ := layout
  cases frames with
  | nil =>
    show block ∈ walkBlocks (finished ++ blocks)
    rw [walkBlocks_append]
    exact List.mem_append_right _ member
  | cons frame outer =>
    refine .inl ⟨?_, List.forall_mem_cons.2 (List.forall_mem_cons.1 noCode)⟩
    show block ∈ walkBlocks (frame.children ++ blocks)
    rw [walkBlocks_append]
    exact List.mem_append_right _ member

/-- What is pushed does not change which elements are open. -/
lemma noCode_push (noCode : ∀ frame ∈ layout.frames, frame.element ≠ .code) :
    ∀ frame ∈ (layout.push blocks).frames, frame.element ≠ .code := by
  obtain ⟨frames, finished, closed⟩ := layout
  cases frames with
  | nil => exact noCode
  | cons frame outer => exact List.forall_mem_cons.2 (List.forall_mem_cons.1 noCode)

/-- A frame that is not code leaves behind what is in it. -/
lemma mem_frameBlocks {source : Text} {frame : Frame} (noCode : frame.element ≠ .code)
    (closing : Option Tag) (stop : Nat) (member : block ∈ walkBlocks frame.children) :
    block ∈ walkBlocks (BuildState.frameBlocks source frame closing stop).1 := by
  obtain ⟨kind, tag, children⟩ := frame
  cases kind with
  | code => exact absurd rfl noCode
  | role speaker =>
    rw [frameBlocks_role]
    simp [walkBlocks, Block.walk, member]
  | loop =>
    rw [frameBlocks_loop]
    simp [walkBlocks, Block.walk, member]
  | request =>
    rw [frameBlocks_request, walkBlocks_append]
    exact List.mem_append_left _ member

/-- **Every change keeps a block that has no code frame around it.** -/
theorem Change.shown {source : Text} {tags : List Tag} {before after : Nat × Layout}
    (change : Change source tags before after) (shown : before.2.Shown block) :
    after.2.Shown block := by
  cases change with
  | push laid leaf => exact shown.push _
  | openFrame known named laid leaf => exact .inr (shown.push _)
  | @closeFrame pos stop frame outer closing layout innermost closes =>
    have inFrames : ShownIn block layout.frames layout.blocks := shown
    rw [innermost] at inFrames
    rcases inFrames with ⟨inside, noCode⟩ | outside
    · obtain ⟨here, around⟩ := List.forall_mem_cons.1 noCode
      exact shown_push around (mem_frameBlocks here closing stop inside)
    · have below : Shown block { layout with
          frames := outer, closed := layout.closed ++ [(some frame.tag, closing)] } := outside
      exact below.push _

theorem Steps.shown {source : Text} {tags : List Tag} {before after : Nat × Layout}
    (readIn : ∀ tag ∈ tags, (Token.tag tag).ReadIn source) (steps : Steps source tags before after)
    (shown : before.2.Shown block) : after.2.Shown block := by
  induction steps with
  | refl => exact shown
  | tail _ step ih => exact (step.change readIn).shown ih

end Layout

/-! ## A code element -/

namespace BuildState

variable (source : Text) (state : BuildState)

/-- An opening code tag opens a frame behind the text before it. -/
lemma layout_openCode {opening : Tag} (opens : (Token.tag opening).opensCode = true) :
    ∃ texts, (state.addToken source (.tag opening)).layout =
      (state.layout.push texts).openFrame .code opening := by
  obtain ⟨named, form⟩ := opensCode_iff.1 opens
  obtain ⟨texts, -, pushed⟩ := exists_layout_addText source state state.position opening.start
  refine ⟨texts, ?_⟩
  show (addTag source opening (state.addText source state.position opening.start)).layout = _
  unfold addTag
  rw [layout_note _ rfl, element?_of_code named, form]
  dsimp only
  rw [openTag_other (show Element.code ≠ .request by decide)]
  dsimp only
  rw [form, if_neg nofun, layout_openFrame, layout_reports]
  exact congrArg (Layout.openFrame .code opening) pushed

/-- A closing code tag turns the innermost frame into hoisted code, if that frame is one of code. -/
lemma layout_closeCode {opening closing : Tag} {children : List Block} {outer : List Frame}
    (innermost : state.layout.frames = ⟨.code, opening, children⟩ :: outer)
    (named : opening.name = Element.code.name) (name : closing.name = Element.code.name)
    (form : closing.form = .closing) :
    ∃ closed, (state.addToken source (.tag closing)).layout =
      Layout.push [.hoisted (extractImports (source.slice opening.stop closing.start)).2
        ⟨opening.start, closing.stop⟩] ⟨outer, state.layout.blocks, closed⟩ := by
  obtain ⟨texts, -, pushed⟩ := exists_layout_addText source state state.position closing.start
  show ∃ closed, (addTag source closing (state.addText source state.position closing.start)).layout = _
  have noted : { state.addText source state.position closing.start with
      tags := (state.addText source state.position closing.start).tags ++ [closing] }.layout =
        state.layout.push texts := pushed
  unfold addTag
  rw [layout_note _ rfl, element?_of_code name, form]
  dsimp only
  generalize ({ state.addText source state.position closing.start with
      tags := (state.addText source state.position closing.start).tags ++ [closing] } :
    BuildState) = texted at noted ⊢
  have frames : texted.frames = ⟨.code, opening, children ++ texts⟩ :: outer := by
    refine (congrArg Layout.frames noted).trans ?_
    rw [Layout.push, innermost]
  have blocks : texted.blocks = state.layout.blocks := by
    refine (congrArg Layout.blocks noted).trans ?_
    rw [Layout.push, innermost]
  have found : texted.frames.findIdx? (·.tag.name == closing.name) = some 0 := by
    rw [frames, List.findIdx?_cons, if_pos (by simp [named, name])]
  unfold closeTag
  rw [found]
  dsimp only
  rw [closeFrames, layout_closeFrame source _ frames]
  refine ⟨texted.layout.closed ++ [(some opening, some closing)], ?_⟩
  rw [← blocks]
  rfl

end BuildState

/-- The open frames belong to tags of their elements. -/
lemma Layered.element?_of_mem {source : Text} {tags : List Tag} {start pos : Nat} {frames : List Frame}
    {blocks : List Block} (h : Layered source tags start frames blocks pos) :
    ∀ frame ∈ frames, frame.tag ∈ tags ∧ frame.tag.element? = some frame.element := by
  induction frames generalizing pos with
  | nil => exact nofun
  | cons frame outer ih => exact List.forall_mem_cons.2 ⟨h.1, ih h.2.2⟩

/-- Behind the tokens before an opening code tag that is closed, no code frame is open. -/
lemma frames_noCode {source : Text} {start : Nat} (inside : start ≤ source.length)
    {done rest : List Token} (split : scan source start = done ++ rest) (closes : ClosesCode done) :
    ∀ frame ∈ (BuildState.afterTokens source start done).frames, frame.element ≠ .code := by
  intro frame member isCode
  have readIn : ∀ tag ∈ tagsFrom source start, (Token.tag tag).ReadIn source :=
    fun tag member => readIn_of_mem_tagsFrom member
  have covers := (build_steps_through inside split).1.covers readIn (.nil source _ start)
  have follows : (BuildState.afterTokens source start done).Follows
      (pairingState (supportedTags done)) := BuildState.addTokens_follows ⟨rfl, rfl⟩ done
  have opened : frame.tag ∈ (pairingState (supportedTags done)).opened := by
    rw [← follows.opened]
    exact List.mem_map_of_mem member
  have element := (covers.element?_of_mem frame member).2
  rw [isCode] at element
  have none : ∀ opening ∈ PairingState.empty.opened, opening.name ≠ Element.code.name :=
    fun opening none => nomatch none
  exact opened_noCode closes none frame.tag opened (name_of_code element)

/-- A code element and the tag that closes it, which is the next token, become hoisted code. -/
lemma hoisted_of_scan {text : Text} {start : Nat} (inside : start ≤ text.length) {opening closing : Tag}
    {done rest : List Token} (split : scan text start = done ++ .tag opening :: .tag closing :: rest)
    (opens : (Token.tag opening).opensCode = true) (name : closing.name = Element.code.name)
    (form : closing.form = .closing) (closes : ClosesCode done) :
    Block.hoisted (extractImports (text.slice opening.stop closing.start)).2
      ⟨opening.start, closing.stop⟩ ∈ walkBlocks (build text start).blocks := by
  have readIn : ∀ tag ∈ tagsFrom text start, (Token.tag tag).ReadIn text :=
    fun tag member => readIn_of_mem_tagsFrom member
  have taken : scan text start = (done ++ [.tag opening, .tag closing]) ++ rest := by
    rw [split, List.append_assoc]
    rfl
  have noCode := frames_noCode inside split closes
  have state : BuildState.afterTokens text start (done ++ [.tag opening, .tag closing]) =
      ((BuildState.afterTokens text start done).addToken text (.tag opening)).addToken text
        (.tag closing) := by
    rw [List.append_cons, BuildState.afterTokens_concat, BuildState.afterTokens_concat]
  obtain ⟨texts, opened⟩ :=
    BuildState.layout_openCode text (BuildState.afterTokens text start done) opens
  obtain ⟨closed, hoisted⟩ := BuildState.layout_closeCode text
    ((BuildState.afterTokens text start done).addToken text (.tag opening))
    (congrArg Layout.frames opened) (opensCode_iff.1 opens).1 name form
  have shown : (BuildState.afterTokens text start (done ++ [.tag opening, .tag closing])).layout.Shown
      (.hoisted (extractImports (text.slice opening.stop closing.start)).2
        ⟨opening.start, closing.stop⟩) := by
    rw [state, hoisted]
    exact Layout.shown_push (Layout.noCode_push noCode) (List.mem_singleton_self _)
  exact Layout.Steps.shown readIn (build_steps_through inside taken).2 shown

/-- **The body of a code element is opaque and becomes hoisted code.**  Of an opening code tag behind
which a closing one is written somewhere, the nearest closing one is the next token, whatever stands
between the two; no token of the document starts there.  The document has hoisted code from the start
of the one to the end of the other, which is the body without its import statements, and it has nothing
else that starts where the element does. -/
theorem codeBody_opaque {text : Text} {start stop : Nat} (inside : start ≤ text.length) {opening : Tag}
    (member : .tag opening ∈ scan text start) (name : opening.name = Element.code.name)
    (form : opening.form = .opening) (behind : opening.stop ≤ stop) (ends : CodeEndsAt text stop)
    (least : ∀ p, opening.stop ≤ p → CodeEndsAt text p → stop ≤ p) :
    ∃ closing : Tag, closing.name = Element.code.name ∧ closing.form = .closing ∧
      closing.start = stop ∧
      (∃ done rest, scan text start = done ++ .tag opening :: .tag closing :: rest) ∧
      (∀ token ∈ scan text start, token.start ≤ opening.start ∨ stop ≤ token.start) ∧
      Block.hoisted (extractImports (text.slice opening.stop stop)).2 ⟨opening.start, closing.stop⟩ ∈
        walkBlocks (build text start).blocks ∧
      ∀ block ∈ walkBlocks (build text start).blocks, block.span.start = opening.start →
        block = .hoisted (extractImports (text.slice opening.stop stop)).2
          ⟨opening.start, closing.stop⟩ := by
  have opens : (Token.tag opening).opensCode = true := opensCode_iff.2 ⟨name, form⟩
  obtain ⟨closing, named, closes, rfl, next⟩ := scan_of_opensCode member opens behind ends least
  obtain ⟨done, rest, split⟩ := List.append_of_mem member
  have found : (scan text start)[done.length]? = some (.tag opening) := by
    rw [split]
    simp
  have itself := (restarts_of_getElem? text start done.length _ found).itself
  rw [split, List.drop_left] at itself
  obtain ⟨-, rfl⟩ := List.cons.inj (itself.symm.trans next)
  have ordered := scan_pairwise text start
  rw [split] at ordered
  obtain ⟨-, behindDone, beforeRest⟩ := List.pairwise_append.1 ordered
  have inTree := hoisted_of_scan inside split opens named closes (closesCode_of_scan ends opens behind split)
  refine ⟨closing, named, closes, rfl, ⟨done, _, split⟩, ?_, inTree, ?_⟩
  · intro token inScan
    rw [split] at inScan
    rcases List.mem_append.1 inScan with before | later
    · exact .inl (Nat.le_of_lt (beforeRest token before _ List.mem_cons_self).1)
    · rcases List.mem_cons.1 later with rfl | later
      · exact .inl (Nat.le_refl _)
      · rcases List.mem_cons.1 later with rfl | later
        · exact .inr (Nat.le_refl _)
        · have follows := (List.pairwise_cons.1 (List.pairwise_cons.1 behindDone).2).1 token later
          exact .inr (Nat.le_of_lt follows.1)
  · intro block onWalk starts
    by_contra other
    rcases precedes_or_follows (build_lossless_from inside).laid.walk_pairwise onWalk inTree other with
      before | after
    · exact Nat.ne_of_lt before.1 starts
    · exact Nat.ne_of_gt after.1 starts

/-- Code with an import statement, a quote and a brace that stay open, and the closing tag of another
name. -/
def unbalancedCode : Text :=
  "<User><Code>\nimport a from 'b'\nx = \"\x7b</Codex>\n</Code\t>c</User>".toList

/-- All of it but the import statement is hoisted code, up to the closing code tag. -/
theorem codeBody_opaque_unbalanced :
    Token.tag ⟨"Code".toList, [], .opening, 6, 12⟩ ∈ scan unbalancedCode 0 ∧
      CodeEndsAt unbalancedCode 46 ∧
      ∃ closing : Tag, closing.form = .closing ∧ closing.start = 46 ∧
        Block.hoisted "\nx = \"\x7b</Codex>\n".toList ⟨6, closing.stop⟩ ∈
          walkBlocks (build unbalancedCode 0).blocks := by
  have member : Token.tag ⟨"Code".toList, [], .opening, 6, 12⟩ ∈ scan unbalancedCode 0 := by
    decide +kernel
  have ends : CodeEndsAt unbalancedCode 46 := ⟨['\t'], rfl, by decide +kernel⟩
  have least (p : Nat) (behind : 12 ≤ p) (isEnd : CodeEndsAt unbalancedCode p) : 46 ≤ p := by
    have none : ∀ p < 46, 12 ≤ p →
        startsRawEnd Element.code.name (unbalancedCode.drop p) = false := by decide +kernel
    by_contra before
    exact Bool.noConfusion ((none p (by omega) behind).symm.trans (startsRawEnd_iff.2 isEnd))
  have kept : (extractImports (unbalancedCode.slice 12 46)).2 =
      "\nx = \"\x7b</Codex>\n".toList := by decide +kernel
  obtain ⟨closing, -, form, starts, -, -, hoisted, -⟩ :=
    codeBody_opaque (Nat.zero_le _) member rfl rfl (by decide) ends least
  rw [kept] at hoisted
  exact ⟨member, ends, closing, form, starts, hoisted⟩

end GlassPrompt
