import GlassPrompt.Proofs.Markup.AttributeText
import GlassPrompt.Proofs.Markup.Continuation
import GlassPrompt.Proofs.Markup.RegionGrammar

/-!
# Braces behind a backslash

In literal text a backslash makes the brace behind it literal, and scanning passes over both.  It never
stops between the two, whatever it has read before, so no region starts at such a brace.

In the script of a region a backslash means something only inside a string literal, where it takes the
next character with it.  In code it stands for itself, and a brace behind it counts: a region may end
at such a brace, and does so exactly if its script ends in a backslash that is no part of a literal, a
comment or an inner region.

* `FollowsBackslash` — an offset right behind a backslash.
* `StopsApart`, `readToken_stopsApart` — one step does not stop between a backslash and a brace.
* `not_followsBackslash_of_mem_scan` — the regions of a scan start at braces without a backslash.
* `isScript_of_backslash` — a script without the backslash at its end.
* `regionBraces_behindBackslash` — what stands ahead of the two braces of a region.
* `not_unescaped_regex` — a region that ends at a brace behind a backslash.
-/

namespace GlassPrompt

/-- A brace of either kind. -/
def isBrace (c : Char) : Bool :=
  c == '\x7b' || c == '\x7d'

/-- The character before the offset is a backslash. -/
def FollowsBackslash (text : Text) : Nat → Prop
  | 0 => False
  | offset + 1 => text[offset]? = some '\\'

/-! ## One step -/

/-- Behind `c` and `more` characters of `rest`, no backslash is parted from a brace. -/
def StopsApart (c : Char) (rest : Text) (more : Nat) : Prop :=
  (c :: rest)[more]? = some '\\' → ∀ d ∈ rest[more]?, isBrace d = false

section

variable {c : Char} {rest : Text} {offset : Nat}

/-- What is read ends in another character. -/
lemma stopsApart_of_append {part after : Text} {last : Char} {more : Nat}
    (split : c :: rest = part ++ last :: after) (length : part.length = more)
    (notBackslash : last ≠ '\\') : StopsApart c rest more := by
  intro backslash
  subst length
  rw [split, List.getElem?_append_right (le_refl _), Nat.sub_self] at backslash
  exact absurd (Option.some.inj backslash) notBackslash

lemma stopsApart_zero (notBackslash : c ≠ '\\') : StopsApart c rest 0 :=
  stopsApart_of_append (List.nil_append (c :: rest)).symm rfl notBackslash

lemma readBrace_stopsApart : StopsApart '\x7b' rest (readBrace offset rest).2 := by
  unfold readBrace
  split
  · exact stopsApart_zero (by decide)
  · next n length =>
    -- The closing brace is the last character that is passed over.
    obtain ⟨two, split⟩ := append_of_braceLength? length
    have within := braceLength?_le length
    rw [List.append_assoc, List.singleton_append] at split
    refine stopsApart_of_append split ?_ (by decide)
    simp only [List.length_cons, List.length_take] at within ⊢
    omega

/-- A comment that is closed ends in a `>`. -/
lemma exists_comment {body : Text} {n : Nat} (length : commentLength? body = some n) :
    ∃ inside after, body = inside ++ '>' :: after ∧ inside.length + 1 = n := by
  obtain ⟨m, offset, rfl⟩ := Option.map_eq_some_iff.1 length
  have mark : "-->".toList <+: body.drop m :=
    List.isPrefixOf_iff_prefix.1 (drop_of_offsetWhere? offset)
  obtain ⟨after, eq⟩ := mark
  have lengths := congrArg List.length eq
  refine ⟨body.take m ++ ['-', '-'], after, ?_, ?_⟩
  · rw [List.append_assoc]
    exact (List.take_append_drop m body).symm.trans (congrArg (body.take m ++ ·) eq.symm)
  · simp at lengths ⊢
    omega

/-- Behind a tag and the body that is passed over with it, scanning goes on at a `<` or right behind
the tag. -/
lemma readTag_stopsApart {name after : Text} {attributes : Attributes} {form : TagForm}
    (read : readTag rest = .read name attributes form after) :
    StopsApart '<' rest (rest.length - after.length + rawBodyLength name form after) := by
  obtain ⟨part, eq, written⟩ := writtenAs_of_readTag ⟨name, attributes, form, 0, 0⟩ read
  have width : rest.length - after.length = part.length := by
    rw [eq, List.length_append, Nat.add_sub_cancel]
  have behindTag : StopsApart '<' rest part.length := by
    obtain ⟨front, ends⟩ := written.back
    have split : '<' :: rest = front ++ '>' :: after := by
      rw [eq, ← List.cons_append, ← ends, List.append_assoc, List.singleton_append]
    have length := congrArg List.length ends
    exact stopsApart_of_append split (by simpa using length) (by decide)
  rw [width]
  unfold rawBodyLength
  split
  · cases closing : rawEnd? name after with
    | none => exact behindTag
    | some n =>
      -- The closing tag starts with a `<`, which is no brace.
      intro _ d next
      have starts : startsRawEnd name (after.drop n) = true := drop_of_offsetWhere? closing
      rw [eq, List.getElem?_append_right (Nat.le_add_right _ _), Nat.add_sub_cancel_left,
        Option.getD_some, ← List.head?_drop] at next
      obtain ⟨tail, behind⟩ := List.head?_eq_some_iff.1 next
      rw [behind, startsRawEnd] at starts
      by_cases angle : '<' = d
      · exact angle ▸ rfl
      · simp [List.isPrefixOf?, angle] at starts
  · exact behindTag

lemma readAngle_stopsApart : StopsApart '<' rest (readAngle offset rest).2 := by
  unfold readAngle
  split
  · next body comment =>
    have start := Text.isPrefixOf?_eq_some_iff.1 comment
    split
    · have split : '<' :: rest = "<!-".toList ++ '-' :: body := congrArg ('<' :: ·) start.symm
      exact stopsApart_of_append split rfl (by decide)
    · next n length =>
      obtain ⟨inside, after, eq, count⟩ := exists_comment length
      have split : '<' :: rest = ("<!--".toList ++ inside) ++ '>' :: after := by
        rw [List.append_assoc, ← eq]
        exact congrArg ('<' :: ·) start.symm
      refine stopsApart_of_append split ?_ (by decide)
      rw [List.length_append, ← count]
      show 4 + inside.length = 3 + (inside.length + 1)
      omega
  · split
    · exact stopsApart_zero (by decide)
    · exact stopsApart_zero (by decide)
    · next read => exact readTag_stopsApart read

/-- **One step never stops between a backslash and a brace.** -/
theorem readToken_stopsApart (offset : Nat) (c : Char) (rest : Text) :
    StopsApart c rest (readToken offset c rest).2 := by
  unfold readToken
  split
  · next backslash =>
    split
    · next brace =>
      -- The backslash takes the brace with it.
      intro both
      rw [List.getElem?_cons_succ, ← List.head?_eq_getElem?] at both
      rcases brace with brace | brace <;> exact absurd (brace.symm.trans both) (by decide)
    · next noBrace =>
      intro _ d next
      rw [← List.head?_eq_getElem?] at next
      rw [not_or] at noBrace
      rw [isBrace, Bool.or_eq_false_iff, beq_eq_false_iff_ne, beq_eq_false_iff_ne]
      exact ⟨fun same => noBrace.1 (same ▸ next), fun same => noBrace.2 (same ▸ next)⟩
  · next notBackslash =>
    split
    · next brace => exact brace ▸ readBrace_stopsApart
    · split
      · next angle => exact angle ▸ readAngle_stopsApart
      · exact stopsApart_zero notBackslash

end

/-! ## The whole scan -/

/-- The regions of a scan start at braces without a backslash before them, the first character of the
scan apart. -/
theorem not_followsBackslash_of_mem_scan (text : Text) (start : Nat) :
    ∀ region, .region region ∈ scan text start →
      region.start = start ∨ ¬ FollowsBackslash text region.start := by
  induction start using scan_induction text with
  | nil => exact fun _ member => nomatch member
  | step start c rest eq ih =>
    intro region member
    rcases List.mem_append.1 member with here | later
    · exact .inl (readToken_readIn eq (Option.mem_toList.1 here)).1
    · refine (ih region later).elim (fun first => .inr fun follows => ?_) .inr
      -- The region starts where the step stops, so the step has passed over its backslash, if any.
      have apart := readToken_stopsApart start c rest
      generalize (readToken start c rest).2 = more at later first apart
      obtain ⟨brace, tail, here, found⟩ := readToken_of_mem_scan later
      have isBrace : brace = '\x7b' := (braceLength?_of_readToken found).1
      have at_ (i : Nat) : text[start + i]? = (c :: rest)[i]? := by
        rw [← eq, List.getElem?_drop]
      have next : rest[more]? = some '\x7b' := by
        rw [← List.getElem?_cons_succ (a := c), ← at_, ← isBrace, ← List.head?_drop,
          ← Nat.add_assoc, Nat.add_right_comm, ← first]
        exact congrArg List.head? here
      rw [first, Nat.add_right_comm] at follows
      exact absurd (apart ((at_ more).symm.trans follows) _ next) (by decide)

/-! ## The end of a script -/

/-- What ends in `last` still does so behind another character. -/
lemma exists_behind {script front rest : Text} {last d : Char} (other : d ≠ last)
    (whole : script ++ [last] = front ++ d :: rest) :
    ∃ more, rest = more ++ [last] ∧ script = front ++ d :: more := by
  rcases List.eq_nil_or_concat rest with rfl | ⟨more, e, rfl⟩
  · obtain ⟨-, ends⟩ := List.append_inj' whole rfl
    exact absurd (List.cons.inj ends).1.symm other
  · rw [List.concat_eq_append, ← List.cons_append, ← List.append_assoc] at whole
    obtain ⟨same, ends⟩ := List.append_inj' whole rfl
    exact ⟨more, by rw [List.concat_eq_append, ends], same⟩

/-- A script that ends in a backslash is a script without it: literals, comments and inner regions end
in other characters, so the backslash stands in code. -/
theorem isScript_of_backslash {script : Text} (isScript : IsScript (script ++ ['\\'])) :
    IsScript script := by
  generalize whole : script ++ ['\\'] = text at isScript
  induction isScript generalizing script with
  | nil => exact absurd whole (by simp)
  | region nested _ _ ih =>
    obtain ⟨more, rfl, rfl⟩ := exists_behind (by decide) whole
    exact .region nested (ih rfl)
  | @literal quote body rest quotes inside _ ih =>
    have notBackslash : quote ≠ '\\' := by
      rintro rfl
      exact absurd quotes (by decide)
    obtain ⟨more, rfl, rfl⟩ := exists_behind notBackslash whole
    exact .literal quotes inside (ih rfl)
  | lineComment oneLine _ ih =>
    obtain ⟨more, rfl, rfl⟩ := exists_behind (by decide) whole
    exact .lineComment oneLine (ih rfl)
  | @blockComment body rest noEnd _ ih =>
    have split : script ++ ['\\'] = ('/' :: '*' :: body ++ ['*']) ++ '/' :: rest := by
      rw [whole, List.append_assoc, List.singleton_append]
    obtain ⟨more, rfl, rfl⟩ := exists_behind (by decide) split
    rw [List.append_assoc, List.singleton_append]
    exact .blockComment noEnd (ih rfl)
  | single noBrace noQuote noComment _ ih =>
    cases script with
    | nil => exact .nil
    | cons d more =>
      obtain ⟨rfl, rfl⟩ := List.cons.inj whole
      exact .single noBrace noQuote (fun comment => noComment (comment.append _)) (ih rfl)

/-! ## The braces of a region -/

/-- Before the closing brace of a region stands what its script ends in. -/
lemma followsBackslash_closing_iff {text : Text} {region : Region}
    (readIn : (Token.region region).ReadIn text) :
    FollowsBackslash text (region.stop - 1) ↔ ∃ script, region.source = script ++ ['\\'] := by
  obtain ⟨inOrder, inside, slice⟩ := readIn
  have length : (text.slice region.start region.stop).length = region.stop - region.start :=
    Text.length_slice inside
  rw [slice, List.length_append, List.length_cons, List.length_singleton] at length
  have stop : region.stop - 1 = region.start + region.source.length + 1 := by omega
  have last : text[region.start + region.source.length]? =
      ('\x7b' :: region.source).getLast? := by
    rw [List.getLast?_eq_getElem?, List.length_cons, Nat.add_sub_cancel, ← List.getElem?_drop,
      ← List.getElem?_take_of_lt (j := region.stop - region.start) (by omega)]
    show (text.slice _ _)[_]? = _
    rw [slice]
    exact List.getElem?_append_left (by simp)
  rw [stop, FollowsBackslash, last, List.getLast?_eq_some_iff]
  constructor
  · rintro ⟨front, ends⟩
    cases front with
    | nil => exact absurd ends (by simp)
    | cons brace script => exact ⟨script, (List.cons.inj ends).2⟩
  · rintro ⟨script, ends⟩
    exact ⟨'\x7b' :: script, congrArg _ ends⟩

/-- **Backslashes ahead of the braces of a region.**  No region of a document opens at a brace behind a
backslash.  The brace that closes a region stands behind a backslash exactly if the script of the
region is a whole script and then a backslash; a brace behind a backslash in a string literal closes
nothing. -/
theorem regionBraces_behindBackslash {text : Text} {region : Region}
    (member : .region region ∈ scan text 0) :
    ¬ FollowsBackslash text region.start ∧
      (FollowsBackslash text (region.stop - 1) ↔
        ∃ script, IsScript script ∧ region.source = script ++ ['\\']) := by
  have isScript : IsScript region.source :=
    closesInBraces_iff_isScript.1 (closesInBraces_of_mem_scan member)
  refine ⟨(not_followsBackslash_of_mem_scan text 0 region member).elim (fun first => ?_) id, ?_⟩
  · rw [first]
    exact id
  · rw [followsBackslash_closing_iff (readIn_of_mem_scan text 0 _ member).2]
    refine exists_congr fun script => ⟨fun ends => ⟨?_, ends⟩, And.right⟩
    exact isScript_of_backslash (ends ▸ isScript)

/-- A literal brace, and a region with a brace behind a backslash in a string literal and one in a
regular expression. -/
def backslashDocument : Text :=
  "\\\x7b\x7b'\\\x7d'.match(/\\\x7d/)\x7d".toList

/-- The region starts behind the literal brace and ends at the brace in the regular expression. -/
theorem regionBraces_behindBackslash_regex :
    .region ⟨.interpolation, "'\\\x7d'.match(/\\".toList, 2, 17⟩ ∈ scan backslashDocument 0 ∧
      ¬ FollowsBackslash backslashDocument 2 ∧
      ∃ script, IsScript script ∧ "'\\\x7d'.match(/\\".toList = script ++ ['\\'] := by
  have member : .region ⟨.interpolation, "'\\\x7d'.match(/\\".toList, 2, 17⟩ ∈
      scan backslashDocument 0 := by decide +kernel
  have ahead := regionBraces_behindBackslash member
  exact ⟨member, ahead.1, ahead.2.1 rfl⟩

/-- A regular expression is code, so the backslash in this one does not keep its brace from closing the
region. -/
theorem not_unescaped_regex : ¬ ∀ text region, .region region ∈ scan text 0 →
    ¬ FollowsBackslash text region.start ∧ ¬ FollowsBackslash text (region.stop - 1) := by
  intro unescaped
  have member : .region ⟨.interpolation, "/\\".toList, 0, 4⟩ ∈
      scan "\x7b/\\\x7d/.test(x)\x7d".toList 0 := by decide +kernel
  exact (unescaped _ _ member).2 rfl

end GlassPrompt
