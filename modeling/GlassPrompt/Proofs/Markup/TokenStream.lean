import GlassPrompt.Markup.Token
import GlassPrompt.Proofs.Markup.TagText

/-!
# The token stream is well formed

Scanning reads a document once, from left to right.  This file proves what that means for the tokens
that come out, from any offset on.

* `scan_of_drop`, `scan_induction` — one step of scanning, and induction over a whole scan.  Every
  later statement about a scan is an instance of the second.
* `Token.ReadIn` — a token agrees with the text that it was read from.
* `Token.Precedes` — a token lies before another one.
* `readToken_readIn` — what one step finds is read from the text, and is passed over.
* `scan_wellFormed` — the whole stream: tokens in order, disjoint, and each one as it is written.
-/

namespace GlassPrompt

/-! ## Scanning step by step -/

lemma scan_of_length_le {text : Text} {start : Nat} (h : text.length ≤ start) :
    scan text start = [] := by
  rw [scan, List.drop_of_length_le h, scanFrom]

/-- One step: the character at `start` is read, and scanning goes on behind what that has taken. -/
theorem scan_of_drop {text : Text} {start : Nat} {c : Char} {rest : Text}
    (h : text.drop start = c :: rest) :
    scan text start = (readToken start c rest).1.toList ++
      scan text (start + 1 + (readToken start c rest).2) := by
  have tail : text.drop (start + 1) = rest := by
    rw [← List.drop_drop, h, List.drop_one, List.tail_cons]
  rw [scan, h, scanFrom, scan, ← List.drop_drop, tail]

/-- Induction over a scan: nothing is left, or one character is read and the scan goes on. -/
theorem scan_induction (text : Text) {motive : Nat → List Token → Prop}
    (nil : ∀ start, text.length ≤ start → motive start [])
    (step : ∀ start c rest, text.drop start = c :: rest →
      motive (start + 1 + (readToken start c rest).2)
        (scan text (start + 1 + (readToken start c rest).2)) →
      motive start ((readToken start c rest).1.toList ++
        scan text (start + 1 + (readToken start c rest).2)))
    (start : Nat) : motive start (scan text start) := by
  induction left : text.length - start using Nat.strong_induction_on generalizing start with
  | _ left ih =>
    cases eq : text.drop start with
    | nil =>
      have done : text.length ≤ start := List.drop_eq_nil_iff.1 eq
      rw [scan_of_length_le done]
      exact nil start done
    | cons c rest =>
      have lengths := congrArg List.length eq
      rw [List.length_drop, List.length_cons] at lengths
      rw [scan_of_drop eq]
      exact step start c rest eq (ih _ (by omega) _ rfl)

/-! ## A token and its text -/

/-- A token that stands for a part of the document, and not for something that is missing. -/
def Token.isMarkup : Token → Bool
  | .error _ => false
  | _ => true

/-- The token agrees with the text between its offsets.  A lexical error runs to the end of the
text, and a region stands between its braces. -/
def Token.ReadIn (text : Text) : Token → Prop
  | .tag t => t.start < t.stop ∧ t.stop ≤ text.length ∧ t.WrittenAs (text.slice t.start t.stop)
  | .region r =>
    r.start < r.stop ∧ r.stop ≤ text.length ∧
      text.slice r.start r.stop = '\x7b' :: r.source ++ ['\x7d']
  | .error e => e.start < e.stop ∧ e.stop = text.length

/-- A token starts before another one, and if it is markup it also ends before the other one
starts. -/
def Token.Precedes (first second : Token) : Prop :=
  first.start < second.start ∧ (first.isMarkup = true → first.stop ≤ second.start)

/-! ## What one step finds -/

section

variable {text : Text} {start : Nat} {c : Char} {rest : Text} {token : Token}

/-- An error that is open from `start` on runs to the end of the text. -/
lemma error_readIn (h : text.drop start = c :: rest) (fault : LexicalFault) :
    (Token.error ⟨fault, start, start + 1 + rest.length⟩).ReadIn text := by
  have := Text.length_of_drop (show text.drop start = [c] ++ rest from h) (by simp)
  exact ⟨by show start < start + 1 + rest.length; omega, this⟩

lemma readBrace_readIn (h : text.drop start = '\x7b' :: rest)
    (found : (readBrace start rest).1 = some token) :
    token.start = start ∧ token.ReadIn text ∧
      (token.isMarkup = true → token.stop ≤ start + 1 + (readBrace start rest).2) := by
  unfold readBrace at found ⊢
  split at found
  · obtain rfl := Option.some.inj found
    exact ⟨rfl, error_readIn h .region, fun markup => Bool.noConfusion markup⟩
  · next n length =>
    obtain rfl := Option.some.inj found
    obtain ⟨two, split⟩ := append_of_braceLength? length
    have within := braceLength?_le length
    rw [split] at h
    have partLength : ('\x7b' :: rest.take (n - 2) ++ ['\x7d']).length = n := by
      simp only [List.length_append, List.length_cons, List.length_take, List.length_nil] at within ⊢
      omega
    have ends := Text.length_of_drop h (by simp)
    have slice := Text.slice_of_drop h
    rw [partLength] at ends slice
    refine ⟨rfl, ⟨?_, ?_, slice⟩, fun _ => ?_⟩
    · show start < start + n
      omega
    · show start + n ≤ text.length
      omega
    · show start + n ≤ start + 1 + (n - 1)
      omega

lemma readAngle_readIn (h : text.drop start = '<' :: rest)
    (found : (readAngle start rest).1 = some token) :
    token.start = start ∧ token.ReadIn text ∧
      (token.isMarkup = true → token.stop ≤ start + 1 + (readAngle start rest).2) := by
  unfold readAngle at found ⊢
  split at found
  · split at found
    · obtain rfl := Option.some.inj found
      exact ⟨rfl, error_readIn h .comment, fun markup => Bool.noConfusion markup⟩
    · simp at found
  · split at found
    · simp at found
    · next fault _ =>
      obtain rfl := Option.some.inj found
      exact ⟨rfl, error_readIn h fault, fun markup => Bool.noConfusion markup⟩
    · next name attributes form after read =>
      obtain rfl := Option.some.inj found
      obtain ⟨part, eq, written⟩ := writtenAs_of_readTag
        ⟨name, attributes, form, start, start + 1 + (rest.length - after.length)⟩ read
      have width : rest.length - after.length = part.length := by
        rw [eq, List.length_append, Nat.add_sub_cancel]
      rw [eq, ← List.cons_append] at h
      have ends := Text.length_of_drop h (by simp)
      have slice := Text.slice_of_drop h
      have stop : start + ('<' :: part).length = start + 1 + part.length := by
        rw [List.length_cons]
        omega
      rw [stop] at ends slice
      refine ⟨rfl, ⟨?_, ?_, ?_⟩, fun _ => ?_⟩
      · show start < start + 1 + _
        omega
      · show start + 1 + (rest.length - after.length) ≤ text.length
        omega
      · rw [← slice, ← width] at written
        exact written
      · show start + 1 + (rest.length - after.length) ≤ start + 1 + (_ + _)
        omega

/-- What one step finds starts where the step is made, agrees with the text, and is passed over. -/
theorem readToken_readIn (h : text.drop start = c :: rest)
    (found : (readToken start c rest).1 = some token) :
    token.start = start ∧ token.ReadIn text ∧
      (token.isMarkup = true → token.stop ≤ start + 1 + (readToken start c rest).2) := by
  unfold readToken at found ⊢
  split
  · next backslash =>
    simp only [backslash, if_true] at found
    split at found <;> simp at found
  · next notBackslash =>
    rw [if_neg notBackslash] at found
    split
    · next brace =>
      rw [if_pos brace] at found
      exact readBrace_readIn (brace ▸ h) found
    · next notBrace =>
      rw [if_neg notBrace] at found
      split
      · next angle =>
        rw [if_pos angle] at found
        exact readAngle_readIn (angle ▸ h) found
      · next notAngle =>
        rw [if_neg notAngle] at found
        simp at found

/-- A step that finds a tag has read one behind a `<`. -/
theorem readTag_of_readToken {tag : Tag} (found : (readToken start c rest).1 = some (.tag tag)) :
    c = '<' ∧ ∃ after, readTag rest = .read tag.name tag.attributes tag.form after ∧
      tag.start = start ∧ tag.stop = start + 1 + (rest.length - after.length) := by
  unfold readToken at found
  split at found
  · split at found <;> simp at found
  · split at found
    · unfold readBrace at found
      split at found <;> simp at found
    · split at found
      · next angle =>
        unfold readAngle at found
        split at found
        · split at found <;> simp at found
        · split at found
          · simp at found
          · simp at found
          · next read =>
            obtain rfl := Token.tag.inj (Option.some.inj found)
            exact ⟨angle, _, read, rfl, rfl⟩
      · simp at found

/-- A step that finds a region has read up to the brace that closes it. -/
theorem braceLength?_of_readToken {region : Region}
    (found : (readToken start c rest).1 = some (.region region)) :
    c = '\x7b' ∧ ∃ n, braceLength? .code 0 ('\x7b' :: rest) = some n ∧
      region = ⟨.ofSource (rest.take (n - 2)), rest.take (n - 2), start, start + n⟩ := by
  unfold readToken at found
  split at found
  · split at found <;> simp at found
  · split at found
    · next brace =>
      unfold readBrace at found
      split at found
      · simp at found
      · next n length => exact ⟨brace, n, length, (Token.region.inj (Option.some.inj found)).symm⟩
    · split at found
      · unfold readAngle at found
        split at found <;> split at found <;> simp at found
      · simp at found

end

/-! ## The whole stream -/

/-- Every token of a scan starts at the scan's offset or later, and agrees with the text. -/
theorem readIn_of_mem_scan (text : Text) (start : Nat) :
    ∀ token ∈ scan text start, start ≤ token.start ∧ token.ReadIn text := by
  induction start using scan_induction text with
  | nil => simp
  | step start c rest eq ih =>
    intro token member
    rcases List.mem_append.1 member with here | later
    · obtain ⟨at_, readIn, -⟩ := readToken_readIn eq (Option.mem_toList.1 here)
      exact ⟨Nat.le_of_eq at_.symm, readIn⟩
    · obtain ⟨behind, readIn⟩ := ih token later
      exact ⟨by omega, readIn⟩

/-- Every token of a scan is what one step finds at the place where the token starts. -/
theorem readToken_of_mem_scan {text : Text} {start : Nat} {token : Token}
    (member : token ∈ scan text start) : ∃ c rest, text.drop token.start = c :: rest ∧
      (readToken token.start c rest).1 = some token := by
  induction start using scan_induction text with
  | nil => exact nomatch member
  | step start c rest eq ih =>
    rcases List.mem_append.1 member with here | later
    · have found := Option.mem_toList.1 here
      obtain rfl := (readToken_readIn eq found).1
      exact ⟨c, rest, eq, found⟩
    · exact ih later

/-- The tokens of a scan stand in order, and what is markup does not overlap what follows it. -/
theorem scan_pairwise (text : Text) (start : Nat) :
    (scan text start).Pairwise Token.Precedes := by
  induction start using scan_induction text with
  | nil => exact List.Pairwise.nil
  | step start c rest eq ih =>
    refine List.pairwise_append.2 ⟨?_, ih, ?_⟩
    · cases (readToken start c rest).1 <;> simp
    · intro token here later member
      obtain ⟨at_, -, passed⟩ := readToken_readIn eq (Option.mem_toList.1 here)
      have behind := (readIn_of_mem_scan text _ later member).1
      exact ⟨by omega, fun markup => Nat.le_trans (passed markup) behind⟩

lemma Token.eq_tag_of_tag? {token : Token} {tag : Tag} (h : token.tag? = some tag) :
    token = .tag tag := by
  cases token with
  | tag t => exact congrArg Token.tag (Option.some.inj h)
  | region r => simp [Token.tag?] at h
  | error e => simp [Token.tag?] at h

lemma mem_of_mem_tags {tokens : List Token} {tag : Tag}
    (member : tag ∈ tokens.filterMap Token.tag?) : .tag tag ∈ tokens := by
  obtain ⟨token, among, isTag⟩ := List.mem_filterMap.1 member
  rwa [← Token.eq_tag_of_tag? isTag]

/-- The tags of a scan stand in order. -/
lemma scan_tags_ordered (text : Text) (start : Nat) :
    ((scan text start).filterMap Token.tag?).Pairwise
      fun first second => first.start < second.start := by
  refine List.pairwise_filterMap.2 ((scan_pairwise text start).imp ?_)
  intro first second precedes tag isTag other isOther
  rw [Token.eq_tag_of_tag? isTag, Token.eq_tag_of_tag? isOther] at precedes
  exact precedes.1

lemma Token.ReadIn.start_lt_stop {text : Text} {token : Token} (h : token.ReadIn text) :
    token.start < token.stop := by
  cases token with
  | tag t => exact h.1
  | region r => exact h.1
  | error e => exact h.1

lemma Token.ReadIn.stop_le {text : Text} {token : Token} (h : token.ReadIn text) :
    token.stop ≤ text.length := by
  cases token with
  | tag t => exact h.2.1
  | region r => exact h.2.1
  | error e => exact Nat.le_of_eq h.2

lemma Token.ReadIn.start_lt {text : Text} {token : Token} (h : token.ReadIn text) :
    token.start < text.length :=
  Nat.lt_of_lt_of_le h.start_lt_stop h.stop_le

/-- A scan finds at most one token for each character. -/
lemma length_scan_le (text : Text) (start : Nat) : (scan text start).length ≤ text.length - start := by
  induction start using scan_induction text with
  | nil => simp
  | step start c rest eq ih =>
    have lengths := congrArg List.length eq
    rw [List.length_drop, List.length_cons] at lengths
    have one : (readToken start c rest).1.toList.length ≤ 1 := by
      cases (readToken start c rest).1 <;> simp
    rw [List.length_append]
    omega

/-- **The token stream is well formed.**  From any offset on, a scan ends after at most as many
tokens as there are characters left; its tokens start in strictly increasing order, at the offset or
behind it; a tag or a region ends before the next token starts; and each token agrees with the text
between its offsets. -/
theorem scan_wellFormed (text : Text) (start : Nat) :
    (scan text start).length ≤ text.length - start ∧
      (scan text start).Pairwise (fun first second => first.start < second.start) ∧
      (scan text start).Pairwise
        (fun first second => first.isMarkup = true → first.stop ≤ second.start) ∧
      ∀ token ∈ scan text start, start ≤ token.start ∧ token.ReadIn text :=
  ⟨length_scan_le text start, (scan_pairwise text start).imp fun h => h.1,
    (scan_pairwise text start).imp fun h => h.2, readIn_of_mem_scan text start⟩

end GlassPrompt
