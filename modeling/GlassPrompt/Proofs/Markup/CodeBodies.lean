import GlassPrompt.Proofs.Markup.Restart
import GlassPrompt.Proofs.Markup.SelfDelimiting

/-!
# The bodies of code elements

Behind an opening code tag, scanning goes on at the nearest closing code tag, if there is one.  What
reads as a closing code tag there is found without reading the body, and is then read as a tag like any
other; the two readings agree, so the closing tag is the next token.

* `CodeEndsAt` — a closing code tag is written at an offset; `startsRawEnd_iff` relates it to the search.
* `readToken_codeEnd` — what is written there is read as a closing code tag.
* `scan_of_opensCode` — the token behind an opening code tag is the nearest closing code tag.
* `ClosesCode`, `closesCode_of_scan` — before an opening code tag that is closed, every opening code tag
  stands right before a closing one.
-/

namespace GlassPrompt

/-! ## Closing code tags -/

/-- A closing code tag is written at the offset: blanks may stand before its `>`. -/
def CodeEndsAt (text : Text) (offset : Nat) : Prop :=
  ∃ blanks, Text.isBlankText blanks = true ∧
    "</Code".toList ++ blanks ++ ['>'] <+: text.drop offset

lemma startsRawEnd_iff {text : Text} : startsRawEnd Element.code.name text = true ↔
    ∃ blanks, Text.isBlankText blanks = true ∧ "</Code".toList ++ blanks ++ ['>'] <+: text := by
  unfold startsRawEnd
  constructor
  · intro starts
    split at starts
    · exact nomatch starts
    · next rest mark =>
      have whole := Text.isPrefixOf?_eq_some_iff.1 mark
      obtain ⟨blanks, blank, eq⟩ := Text.exists_trimStart rest
      obtain ⟨more, close⟩ := List.head?_eq_some_iff.1 (beq_iff_eq.1 starts)
      refine ⟨blanks, blank, more, ?_⟩
      rw [← whole, eq, close, List.append_assoc, List.append_assoc, List.singleton_append]
      rfl
  · rintro ⟨blanks, blank, more, rfl⟩
    have mark : ('<' :: '/' :: Element.code.name).isPrefixOf?
        ("</Code".toList ++ blanks ++ ['>'] ++ more) = some (blanks ++ '>' :: more) := by
      rw [Text.isPrefixOf?_eq_some_iff, List.append_assoc, List.append_assoc, List.singleton_append]
      rfl
    rw [mark]
    dsimp only
    rw [Text.trimStart_of_blank blank, Text.trimStart_of_noBlank rfl]
    rfl

/-- The search finds the nearest place. -/
lemma offsetWhere?_of_least {p : Text → Bool} {text : Text} {n : Nat} (inside : n ≤ text.length)
    (here : p (text.drop n) = true) (least : ∀ m < n, p (text.drop m) = false) :
    Text.offsetWhere? p text = some n := by
  induction text generalizing n with
  | nil =>
    obtain rfl : n = 0 := Nat.le_zero.1 inside
    exact if_pos here
  | cons c rest ih =>
    rw [Text.offsetWhere?]
    cases n with
    | zero => exact if_pos here
    | succ n =>
      have notHere : p (c :: rest) = false := least 0 (Nat.succ_pos n)
      rw [notHere, if_neg Bool.false_ne_true, ih (Nat.le_of_succ_le_succ inside) here fun m below =>
        least (m + 1) (Nat.succ_lt_succ below)]
      rfl

/-- What is written as a closing code tag is read as one. -/
lemma readToken_codeEnd {blanks : Text} (blank : Text.isBlankText blanks = true) (offset : Nat)
    (more : Text) : readToken offset '<' ("/Code".toList ++ blanks ++ ['>'] ++ more) =
      (some (.tag ⟨Element.code.name, [], .closing, offset, offset + blanks.length + 7⟩),
        blanks.length + 6) := by
  have stops : ∀ c ∈ (blanks ++ ['>'] ++ more).head?, isTagNameRest c = false := by
    cases blanks with
    | nil =>
      rintro _ ⟨⟩
      decide
    | cons c rest =>
      rintro _ ⟨⟩
      exact isTagNameRest_of_isBlank (Text.isBlankText_iff.1 blank c List.mem_cons_self)
  have closing : readClosing Element.code.name (blanks ++ ['>'] ++ more) =
      .read Element.code.name [] .closing more := by
    rw [readClosing, List.append_assoc, Text.trimStart_of_blank blank]
    rfl
  have read : readTag ("/Code".toList ++ blanks ++ ['>'] ++ more) =
      .read Element.code.name [] .closing more := by
    have named : readTagName readClosing (Element.code.name ++ (blanks ++ ['>'] ++ more)) =
        readClosing Element.code.name (blanks ++ ['>'] ++ more) := readTagName_name (by decide) stops
    rw [closing] at named
    have split : "/Code".toList ++ blanks ++ ['>'] ++ more =
        '/' :: (Element.code.name ++ (blanks ++ ['>'] ++ more)) := by
      rw [List.append_assoc, List.append_assoc, List.append_assoc]
      rfl
    rw [split]
    exact named
  have step := readToken_of_readTag offset read
  have noBody : rawBodyLength Element.code.name .closing more = 0 := by simp [rawBodyLength]
  have length : ("/Code".toList ++ blanks ++ ['>']).length = blanks.length + 6 := by
    rw [List.length_append, List.length_append]
    show 5 + blanks.length + 1 = blanks.length + 6
    omega
  have ends : offset + 1 + (blanks.length + 6) = offset + blanks.length + 7 := by omega
  rw [noBody, length, ends] at step
  exact step

/-! ## The next token -/

lemma opensCode_iff {tag : Tag} : (Token.tag tag).opensCode = true ↔
    tag.name = Element.code.name ∧ tag.form = .opening := by
  simp [Token.opensCode]

/-- A step at an opening code tag goes on at the nearest closing one. -/
lemma readToken_opensCode {text rest : Text} {offset stop : Nat} {opening : Tag}
    (drop : text.drop offset = '<' :: rest)
    (found : (readToken offset '<' rest).1 = some (.tag opening))
    (opens : (Token.tag opening).opensCode = true) (behind : opening.stop ≤ stop)
    (ends : CodeEndsAt text stop) (least : ∀ p, opening.stop ≤ p → CodeEndsAt text p → stop ≤ p) :
    offset + 1 + (readToken offset '<' rest).2 = stop := by
  obtain ⟨-, after, read, at_, width⟩ := readTag_of_readToken found
  obtain ⟨part, eq, -⟩ := writtenAs_of_readTag opening read
  have step : readToken offset '<' rest = readAngle offset rest := rfl
  rw [step, readAngle_tag (noComment_of_readTag read) read]
  dsimp only
  have tail : text.drop opening.stop = after := by
    rw [width, ← List.drop_drop, ← List.drop_drop, drop, List.drop_one, List.tail_cons, eq,
      List.length_append, Nat.add_sub_cancel, List.drop_left]
  obtain ⟨named, form⟩ := opensCode_iff.1 opens
  have isEnd (distance : Nat) : startsRawEnd Element.code.name (after.drop distance) = true ↔
      CodeEndsAt text (opening.stop + distance) := by
    rw [startsRawEnd_iff, CodeEndsAt, ← List.drop_drop, tail]
  have inside : stop - opening.stop ≤ after.length := by
    obtain ⟨blanks, -, more, whole⟩ := ends
    have lengths := congrArg List.length whole
    have tailLength := congrArg List.length tail
    simp only [List.length_append, List.length_drop] at lengths tailLength
    have mark : 0 < "</Code".toList.length := by decide
    omega
  have body : rawEnd? Element.code.name after = some (stop - opening.stop) := by
    refine offsetWhere?_of_least inside ?_ fun m below => ?_
    · rw [isEnd, Nat.add_sub_cancel' behind]
      exact ends
    · refine Bool.eq_false_iff.2 fun here => ?_
      have first := least _ (Nat.le_add_right _ _) ((isEnd m).1 here)
      omega
  rw [rawBodyLength, if_pos ⟨named, form⟩, named, body, Option.getD_some]
  omega

section

variable {text : Text} {start stop : Nat} {opening : Tag}

/-- **The token behind an opening code tag is the nearest closing code tag**, whatever stands between
them. -/
theorem scan_of_opensCode (member : .tag opening ∈ scan text start)
    (opens : (Token.tag opening).opensCode = true) (behind : opening.stop ≤ stop)
    (ends : CodeEndsAt text stop) (least : ∀ p, opening.stop ≤ p → CodeEndsAt text p → stop ≤ p) :
    ∃ closing : Tag, closing.name = Element.code.name ∧ closing.form = .closing ∧
      closing.start = stop ∧
      scan text opening.start = .tag opening :: .tag closing :: scan text closing.stop := by
  obtain ⟨c, rest, drop, found⟩ := readToken_of_mem_scan member
  obtain ⟨rfl, -⟩ := readTag_of_readToken found
  have next := readToken_opensCode drop found opens behind ends least
  obtain ⟨blanks, blank, more, whole⟩ := ends
  have here : text.drop stop = '<' :: ("/Code".toList ++ blanks ++ ['>'] ++ more) := whole.symm
  have goesOn : stop + 1 + (blanks.length + 6) = stop + blanks.length + 7 := by omega
  refine ⟨⟨Element.code.name, [], .closing, stop, stop + blanks.length + 7⟩, rfl, rfl, rfl, ?_⟩
  show scan text (Token.tag opening).start = _
  rw [scan_of_drop drop, found, next, scan_of_drop here, readToken_codeEnd blank, goesOn]
  rfl

end

/-! ## The tokens before -/

/-- Every opening code tag among the tokens stands right before a closing code tag. -/
inductive ClosesCode : List Token → Prop
  | nil : ClosesCode []
  | other {token : Token} {rest : List Token} (notOpening : token.opensCode = false)
      (closes : ClosesCode rest) : ClosesCode (token :: rest)
  | pair {opening closing : Tag} {rest : List Token}
      (opens : (Token.tag opening).opensCode = true) (name : closing.name = Element.code.name)
      (form : closing.form = .closing) (closes : ClosesCode rest) :
      ClosesCode (.tag opening :: .tag closing :: rest)

lemma exists_leastEnd {text : Text} {start stop : Nat} (behind : start ≤ stop)
    (ends : CodeEndsAt text stop) : ∃ least, start ≤ least ∧ CodeEndsAt text least ∧
      ∀ p, start ≤ p → CodeEndsAt text p → least ≤ p := by
  classical
  have some : ∃ p, start ≤ p ∧ CodeEndsAt text p := ⟨stop, behind, ends⟩
  obtain ⟨after, isEnd⟩ := Nat.find_spec some
  exact ⟨Nat.find some, after, isEnd, fun p after isEnd => Nat.find_min' some ⟨after, isEnd⟩⟩

lemma scan_tail {text : Text} {start : Nat} {token second : Token} {rest : List Token}
    (split : scan text start = token :: second :: rest) :
    scan text second.start = second :: rest := by
  have found : (scan text start)[1]? = some second := by rw [split]; rfl
  have restarts := restarts_of_getElem? text start 1 second found
  rw [split] at restarts
  exact restarts.itself

/-- **Before an opening code tag that is closed somewhere, all others are closed at once.** -/
theorem closesCode_of_scan {text : Text} {stop : Nat} (ends : CodeEndsAt text stop) {opening : Tag}
    (opens : (Token.tag opening).opensCode = true) (behind : opening.stop ≤ stop) {rest : List Token}
    {done : List Token} {start : Nat} (split : scan text start = done ++ .tag opening :: rest) :
    ClosesCode done := by
  -- A code element is two tokens, so the induction is on the number of tokens.
  induction count : done.length using Nat.strong_induction_on generalizing done start with
  | _ count ih =>
    cases done with
    | nil => exact .nil
    | cons token done =>
      subst count
      have head : (scan text start)[0]? = some token := by rw [split]; rfl
      cases isCode : token.opensCode with
      | false =>
        obtain ⟨second, more, tail⟩ : ∃ second more, done ++ .tag opening :: rest = second :: more :=
          List.exists_cons_of_ne_nil (by simp)
        rw [List.cons_append, tail] at split
        have next := scan_tail split
        rw [← tail] at next
        exact .other isCode (ih done.length (Nat.lt_succ_self _) next rfl)
      | true =>
        cases token with
        | region r => exact nomatch isCode
        | error e => exact nomatch isCode
        | tag first =>
          have member : Token.tag first ∈ scan text start := by rw [split]; simp
          have ordered := scan_pairwise text start
          rw [split, List.cons_append] at ordered
          have before := ((List.pairwise_cons.1 ordered).1 (.tag opening) (by simp)).2 rfl
          have nonempty := (readIn_of_mem_scan text start (.tag opening) (by rw [split]; simp)).2
          have after : first.stop ≤ stop := by
            have ends : first.stop ≤ opening.start := before
            have opened : opening.start < opening.stop := nonempty.start_lt_stop
            omega
          obtain ⟨least, afterFirst, isEnd, isLeast⟩ := exists_leastEnd after ends
          obtain ⟨closing, named, form, -, next⟩ :=
            scan_of_opensCode member isCode afterFirst isEnd isLeast
          have itself : scan text first.start = scan text start :=
            (restarts_of_getElem? text start 0 _ head).itself
          rw [itself, split, List.cons_append, List.cons.injEq] at next
          obtain ⟨-, tail⟩ := next
          cases done with
          | nil =>
            obtain ⟨same, -⟩ := List.cons.inj tail
            rw [Token.tag.inj same, opensCode_iff, form] at opens
            exact nomatch opens.2
          | cons second done =>
            obtain ⟨rfl, later⟩ := List.cons.inj tail
            exact .pair isCode named form (ih done.length (by simp) later.symm rfl)

end GlassPrompt
