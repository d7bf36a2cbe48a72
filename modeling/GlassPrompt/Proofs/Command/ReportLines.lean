import GlassPrompt.Proofs.Command.Runs
import GlassPrompt.Proofs.Document.IssueNames
import GlassPrompt.Proofs.Text.Lines

/-!
# Lines that report issues

The name of a prompt stands in the lines that report its issues as it is.  An opening square bracket in
it may start a style tag, and that may ask for a colour that is none.  Nothing else in such a line can
be wrong, as messages hold no such brackets.

* `segmentsFrom_of_not_mem`, `segments_warning` — the segments of lines.
* `tagStyleName_yellow`, `foldlM_warning` — the word at the start of the line, and its style.
* `reportable_of_not_mem` — the issues of a prompt without a bracket in its name can be reported.
* `tagStyleName_rgb`, `consoleText_rgb` — a name that asks for a colour without numbers.
-/

namespace GlassPrompt

/-! ## Segments -/

section

variable {c : Char} {text rest : Text}

lemma readStyleTag?_cons_of_ne (h : c ≠ '[') : readStyleTag? (c :: rest) = none := by
  unfold readStyleTag?
  split
  · next eq => exact absurd (List.cons.inj eq).1 h
  · rfl

lemma readStyleTag?_of_not_mem (free : '[' ∉ text) : readStyleTag? text = none := by
  cases text with
  | nil => rfl
  | cons c rest => exact readStyleTag?_cons_of_ne fun bracket => free (bracket ▸ List.mem_cons_self)

lemma readStyleTag?_eq_some {inside after : Text} (start : isStyleStart c = true)
    (free : inside.all (fun d => d != '[' && d != ']') = true) :
    readStyleTag? ('[' :: c :: (inside ++ ']' :: after)) = some (c :: inside, after) := by
  have inner : ∀ d ∈ inside, (d != '[' && d != ']') = true := List.all_eq_true.1 free
  rw [readStyleTag?, if_pos start, List.dropWhile_append_of_pos inner,
    List.takeWhile_append_of_pos inner]
  simp

/-- What is read as plain text, backslashes together. -/
lemma append_slashes (c : Char) (rest : Text) :
    c :: ((c :: rest).takeWhile (· == '\\')).drop 1 ++
      rest.drop (((c :: rest).takeWhile (· == '\\')).length - 1) = c :: rest := by
  by_cases slash : c = '\\'
  · have whole := @List.takeWhile_append_dropWhile _ (· == '\\') rest
    have dropped : rest.drop (rest.takeWhile (· == '\\')).length = rest.dropWhile (· == '\\') :=
      (congrArg (List.drop _) whole.symm).trans List.drop_left
    simp [slash, dropped, whole]
  · simp [slash]

/-- A text without an opening square bracket is plain. -/
lemma segmentsFrom_of_not_mem (plain : Text) (free : '[' ∉ text) :
    segmentsFrom plain text = segmentsFrom (plain ++ text) [] := by
  fun_induction segmentsFrom plain text with
  | case1 plain empty => simp [segmentsFrom, empty]
  | case2 plain filled => simp [segmentsFrom, filled]
  | case3 plain c rest _ style after read ih =>
    have nothing := readStyleTag?_of_not_mem fun member =>
      free ((List.dropWhile_suffix (· == '\\')).subset member)
    exact absurd (nothing.symm.trans read) nofun
  | case4 plain c rest slashes nothing ih =>
    have part : '[' ∉ rest.drop (slashes.length - 1) := fun member =>
      free (List.mem_cons_of_mem _ ((List.drop_suffix _ _).subset member))
    rw [ih part, List.append_assoc, append_slashes]

/-- Text without an opening square bracket and backslashes is plain, whatever follows it. -/
lemma segmentsFrom_append (plain : Text) (noTag : '[' ∉ text) (noSlash : '\\' ∉ text) :
    segmentsFrom plain (text ++ rest) = segmentsFrom (plain ++ text) rest := by
  induction text generalizing plain with
  | nil => simp
  | cons c more ih =>
    simp only [List.mem_cons, not_or] at noTag noSlash
    obtain ⟨notBracket, noTag⟩ := noTag
    obtain ⟨notSlash, noSlash⟩ := noSlash
    rw [List.cons_append, segmentsFrom]
    have slashes : (c :: (more ++ rest)).takeWhile (· == '\\') = [] := by
      simp [Ne.symm notSlash]
    have tail : (c :: (more ++ rest)).dropWhile (· == '\\') = c :: (more ++ rest) := by
      simp [Ne.symm notSlash]
    simp only [slashes]
    split
    · next style after read =>
      rw [tail, readStyleTag?_cons_of_ne (Ne.symm notBracket)] at read
      simp at read
    · simpa using ih (plain ++ [c]) noTag noSlash

/-- A style tag ends the plain text before it. -/
lemma segmentsFrom_of_readStyleTag? {tag after : Text} (plain : Text)
    (read : readStyleTag? text = some (tag, after)) :
    segmentsFrom plain text =
      (if plain.isEmpty then [] else [.plain plain]) ++ .style tag :: segmentsFrom [] after := by
  have bracket : text.head? = some '[' := by
    by_contra other
    unfold readStyleTag? at read
    split at read
    · exact other rfl
    · simp at read
  obtain ⟨rest, rfl⟩ := List.head?_eq_some_iff.1 bracket
  have slashes : ('[' :: rest).takeWhile (· == '\\') = [] := by simp
  have tail : ('[' :: rest).dropWhile (· == '\\') = '[' :: rest := by simp
  rw [segmentsFrom]
  split
  · next other behind found =>
    rw [tail, read, Option.some.injEq, Prod.mk.injEq] at found
    obtain ⟨rfl, rfl⟩ := found
    simp [escapedSegments]
  · next none =>
    simp [tail, read] at none

end

/-! ## The word at the start of a line -/

/-- The word that a warning starts with is in a style, which ends with the word. -/
lemma segments_warning (rest : Text) :
    segments (styled "yellow" "warning".toList ++ rest) =
      [.style "yellow".toList, .plain "warning".toList, .style "/yellow".toList] ++
        segmentsFrom [] rest := by
  have line : styled "yellow" "warning".toList ++ rest =
      '[' :: 'y' :: ("ellow".toList ++ ']' :: ("warning".toList ++
        '[' :: '/' :: ("yellow".toList ++ ']' :: rest))) := by
    simp [styled]
  have opening (after : Text) := @readStyleTag?_eq_some 'y' "ellow".toList after
    (by decide) (by decide)
  have closing (after : Text) := @readStyleTag?_eq_some '/' "yellow".toList after
    (by decide) (by decide)
  rw [segments, line, segmentsFrom_of_readStyleTag? [] (opening _),
    segmentsFrom_append [] (by decide) (by decide),
    segmentsFrom_of_readStyleTag? _ (closing _)]
  simp

section

variable {word : Text}

/-- A word that is no amounts of colours is the name of a colour, or no style. -/
lemma readColour_of_amounts? (noAmounts : amounts? (Text.lower word) = none) :
    readColour word = .ok (Text.lower word) ∨ readColour word = .error .noStyle := by
  unfold readColour
  dsimp only
  rw [noAmounts]
  split
  · exact .inl rfl
  · exact .inr rfl

/-- A style that is one word asks for a colour. -/
lemma read_of_single (single : Text.words word = [word]) (noPlain : Text.trim word ≠ Style.plainText)
    (role : Style.WordRole.ofWord (Text.lower word) = .colour) :
    Style.read word =
      (readColour word).map fun colour => { Style.plain with colour := some colour } := by
  rw [Style.read, if_neg noPlain, single]
  cases found : readColour word with
  | error fault =>
    -- the equations of `readWords` would have the table of colours evaluated
    delta Style.readWords Style.readWords._f
    dsimp only
    rw [found, role]
    rfl
  | ok colour =>
    delta Style.readWords Style.readWords._f
    dsimp only
    rw [found, role]
    rfl

lemma tagStyleName_of_style {style : Style} (h : Style.read word = .ok style) :
    tagStyleName word = .ok style.text := by
  unfold tagStyleName styleName
  rw [h]
  rfl

lemma tagStyleName_of_noStyle (h : Style.read word = .error .noStyle) :
    tagStyleName word = .ok (Text.lower (Text.trim word)) := by
  unfold tagStyleName styleName
  rw [h]
  rfl

lemma tagStyleName_of_noNumber (h : Style.read word = .error .noNumber) :
    tagStyleName word = .error .noNumber := by
  unfold tagStyleName styleName
  rw [h]
  rfl

end

lemma read_yellow : Style.read "yellow".toList = .error .noStyle ∨
    Style.read "yellow".toList = .ok { Style.plain with colour := some "yellow".toList } := by
  have lower : Text.lower "yellow".toList = "yellow".toList := by decide
  rw [read_of_single (by decide) (by decide) (by decide)]
  rcases @readColour_of_amounts? "yellow".toList (by decide) with found | missing
  · rw [found, lower]
    exact .inr rfl
  · rw [missing]
    exact .inl rfl

lemma tagStyleName_yellow : tagStyleName "yellow".toList = .ok "yellow".toList := by
  rcases read_yellow with missing | found
  · rw [tagStyleName_of_noStyle missing]
    decide
  · rw [tagStyleName_of_style found]
    decide

section

variable {rendering : Rendering} {text name : Text}

/-- A tag that is not an ending one starts its style. -/
lemma add_starting (parsed : StyleTag.parse text = ⟨name, none⟩) (starting : name.head? ≠ some '/') :
    rendering.add (.style text) = rendering.startStyle ⟨name, none⟩ := by
  unfold Rendering.add
  dsimp only
  rw [parsed]
  dsimp only
  split
  · exact absurd rfl starting
  · rfl

lemma add_ending (parsed : StyleTag.parse text = ⟨'/' :: name, none⟩) :
    rendering.add (.style text) = rendering.endStyle (Text.trim name) := by
  unfold Rendering.add
  dsimp only
  rw [parsed]
  rfl

/-- An ending tag ends the innermost style if that is the one it names. -/
lemma endStyle_innermost {style : Text} {start : Nat} {outer : List OpenStyle}
    (filled : name.isEmpty = false) (named : tagStyleName name = .ok style)
    (notHandler : style.head? ≠ some '@')
    (innermost : rendering.openStyles = ⟨⟨style, none⟩, start⟩ :: outer) :
    rendering.endStyle name = .ok { rendering with
      openStyles := outer
      parts := rendering.partOf ⟨⟨style, none⟩, start⟩ :: rendering.parts } := by
  have taken : rendering.takeEnded name = .ok (⟨⟨style, none⟩, start⟩, outer) := by
    simp [Rendering.takeEnded, filled, named, innermost, takeStyle?]
  have noHandler : StyleTag.isForHandler ⟨style, none⟩ = false := by
    simp [StyleTag.isForHandler, notHandler]
  unfold Rendering.endStyle
  rw [taken]
  dsimp only
  rw [noHandler]
  rfl

lemma consoleText_of_rendering {line : Text}
    (rendered : (segments line).foldlM Rendering.add .empty = .ok rendering)
    (good : rendering.hasGoodStyles = true) : consoleText line = .ok (expandTabs rendering.text) := by
  rw [consoleText, rendered]
  dsimp only
  rw [if_pos good]

end

lemma foldlM_cons_of_ok {α β ε : Type} {step : β → α → Except ε β} {before after : β} {a : α}
    (stepped : step before a = .ok after) (rest : List α) :
    (a :: rest).foldlM step before = rest.foldlM step after := by
  rw [List.foldlM_cons, stepped]
  rfl

/-- The word that a warning starts with, as it is shown. -/
def warningShown : Rendering :=
  ⟨"warning".toList, [], [⟨0, 7, "yellow".toList⟩]⟩

lemma foldlM_warning (rest : List Segment) :
    (([.style "yellow".toList, .plain "warning".toList, .style "/yellow".toList] : List Segment) ++
      rest).foldlM Rendering.add .empty = rest.foldlM Rendering.add warningShown := by
  have started : Rendering.empty.add (.style "yellow".toList) =
      .ok ⟨[], [⟨⟨"yellow".toList, none⟩, 0⟩], []⟩ := by
    rw [@add_starting _ _ "yellow".toList (by decide) (by decide),
      Rendering.startStyle, tagStyleName_yellow]
    rfl
  have said : Rendering.add ⟨[], [⟨⟨"yellow".toList, none⟩, 0⟩], []⟩ (.plain "warning".toList) =
      .ok ⟨"warning".toList, [⟨⟨"yellow".toList, none⟩, 0⟩], []⟩ := by
    decide +kernel
  have ended : Rendering.add ⟨"warning".toList, [⟨⟨"yellow".toList, none⟩, 0⟩], []⟩
      (.style "/yellow".toList) = .ok warningShown := by
    have trimmed : Text.trim "yellow".toList = "yellow".toList := by decide
    rw [@add_ending _ _ "yellow".toList (by decide), trimmed,
      endStyle_innermost (by decide) tagStyleName_yellow (by decide) rfl]
    decide
  rw [List.cons_append, foldlM_cons_of_ok started, List.cons_append, foldlM_cons_of_ok said,
    List.cons_append, foldlM_cons_of_ok ended, List.nil_append]

/-! ## Whole lines -/

lemma hasGoodStyles_of_parts {rendering : Rendering} (closed : rendering.openStyles = [])
    (yellow : ∀ part ∈ rendering.parts, part.style = "yellow".toList) :
    rendering.hasGoodStyles = true := by
  unfold Rendering.hasGoodStyles Rendering.allParts
  rw [closed, List.map_nil, List.nil_append]
  refine List.all_eq_true.2 fun part member => ?_
  rw [yellow part (List.mem_of_mem_filter member)]
  rcases read_yellow with missing | found
  · rw [missing]
  · rw [found]

/-- A line that starts with the word, and holds no opening square bracket behind it, is understood. -/
lemma consoleText_warning {rest : Text} (free : '[' ∉ rest) :
    ∃ shown, consoleText (styled "yellow" "warning".toList ++ rest) = .ok shown := by
  have rendered : ∃ rendering : Rendering, (segmentsFrom [] rest).foldlM Rendering.add warningShown =
      .ok rendering ∧ rendering.openStyles = [] ∧ rendering.parts = warningShown.parts := by
    rw [segmentsFrom_of_not_mem [] free, segmentsFrom]
    split
    · exact ⟨_, rfl, rfl, rfl⟩
    · exact ⟨_, rfl, rfl, rfl⟩
  obtain ⟨rendering, eq, closed, parts⟩ := rendered
  have good : rendering.hasGoodStyles = true :=
    hasGoodStyles_of_parts closed (parts ▸ List.forall_mem_singleton.2 rfl)
  refine ⟨_, consoleText_of_rendering ?_ good⟩
  rw [segments_warning, foldlM_warning, eq]

/-- The line of an issue is understood if the name of the prompt has no opening square bracket. -/
lemma consoleText_warningLine {path : Path} {issue : Issue} (free : '[' ∉ path.name)
    (quotes : issue.problem.QuotesName) :
    ∃ shown, consoleText (warningLine path issue) = .ok shown := by
  have line : warningLine path issue = styled "yellow" "warning".toList ++
      (' ' :: path.name ++ ": ".toList ++ issue.problem.message) := by
    simp [warningLine]
  rw [line]
  refine consoleText_warning ?_
  simp only [List.cons_append, List.mem_cons, List.mem_append, not_or]
  exact ⟨by decide, ⟨free, by decide⟩, quotes.bracket_not_mem⟩

/-- **The issues of a prompt without an opening square bracket in its name can be reported.** -/
theorem reportable_of_not_mem {workspace : Workspace} {path : Path} {overrides : Settings.Overrides}
    {file : CompiledFile} (compiled : workspace.compileFile path overrides = .ok file)
    (free : '[' ∉ path.name) : file.Reportable path := by
  obtain ⟨-, _, text, -, -, parsed⟩ := compileFile_eq_ok_iff.1 compiled
  intro issue member
  exact consoleText_warningLine free (quotesName_of_parse parsed issue member)

/-! ## A name that asks for a colour -/

set_option maxRecDepth 20000 in
lemma bracket_not_mem_colourNames : '(' ∉ colourNames.toList := by
  obtain ⟨letters, spelled, free⟩ : ∃ letters, colourNames = String.ofList letters ∧
      letters.contains '(' = false :=
    ⟨_, rfl, by decide⟩
  rw [spelled, String.toList_ofList]
  intro bracket
  rw [List.contains_iff_mem.2 bracket] at free
  exact nomatch free

/-- The names of colours have no round brackets. -/
lemma isColourName_of_bracket {text : Text} (bracket : '(' ∈ text) : isColourName text = false := by
  refine Bool.eq_false_iff.2 fun named => bracket_not_mem_colourNames ?_
  rw [isColourName, List.contains_iff_mem] at named
  exact (mem_of_mem_splitOnP (List.mem_of_mem_filter named) '(' bracket).1

lemma readColour_of_checkAmounts {word : Text} {amounts : List Text} {fault : StyleFault}
    (noName : isColourName (Text.lower word) = false)
    (noNumber : (isHexColour (Text.lower word) || isNumberedColour (Text.lower word)) = false)
    (found : amounts? (Text.lower word) = some amounts) (bad : checkAmounts amounts = .error fault) :
    readColour word = .error fault := by
  unfold readColour
  dsimp only
  rw [Bool.or_assoc, noName, noNumber, found]
  dsimp only
  rw [bad]
  rfl

/-- A colour that is given by numbers, and has none. -/
lemma tagStyleName_rgb : tagStyleName "rgb(,,)".toList = .error .noNumber := by
  refine tagStyleName_of_noNumber ?_
  have noColour : readColour "rgb(,,)".toList = .error .noNumber :=
    @readColour_of_checkAmounts _ [[], [], []] _ (isColourName_of_bracket (by decide))
      (by decide) (by decide) (by decide)
  rw [read_of_single (by decide) (by decide) (by decide), noColour]
  rfl

/-- A line that asks for that colour is not understood. -/
lemma consoleText_rgb {rest before : Text} {more : List Segment}
    (split : segmentsFrom [] rest = .plain before :: .style "rgb(,,)".toList :: more) :
    consoleText (styled "yellow" "warning".toList ++ rest) = .error .noNumber := by
  have fails (rendering : Rendering) : rendering.add (.style "rgb(,,)".toList) = .error .noNumber := by
    rw [@add_starting _ _ "rgb(,,)".toList (by decide) (by decide),
      Rendering.startStyle, tagStyleName_rgb]
    rfl
  rw [consoleText, segments_warning, foldlM_warning, split, foldlM_cons_of_ok rfl, List.foldlM_cons,
    fails]
  rfl

end GlassPrompt
