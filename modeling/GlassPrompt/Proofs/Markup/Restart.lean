import GlassPrompt.Proofs.Markup.TokenStream

/-!
# Scanning can start anywhere

Scanning looks neither back nor at absolute offsets, and it remembers nothing but where it stands.  So
text in front of a document only moves the tokens, and a scan that is taken up again at one of its
tokens, or just behind one, goes on as it did before.

* `Token.shift`, `scanFrom_shift` — the same text further back has the same tokens further back.
* `Token.Restarts` — where a scan can be taken up again at a token.
* `readToken_passedTo` — one step goes on where its token says.
* `scan_restarts` — moving and taking up again, for a whole scan.
-/

namespace GlassPrompt

/-! ## Moving a document -/

/-- The token with its offsets moved on. -/
def Token.shift (distance : Nat) : Token → Token
  | .tag t => .tag { t with start := distance + t.start, stop := distance + t.stop }
  | .region r => .region { r with start := distance + r.start, stop := distance + r.stop }
  | .error e => .error { e with start := distance + e.start, stop := distance + e.stop }

section

variable (distance offset : Nat) (rest : Text)

lemma readBrace_shift :
    readBrace (distance + offset) rest =
      ((readBrace offset rest).1.map (Token.shift distance), (readBrace offset rest).2) := by
  unfold readBrace
  split <;> simp [Token.shift, Nat.add_assoc]

lemma readAngle_shift :
    readAngle (distance + offset) rest =
      ((readAngle offset rest).1.map (Token.shift distance), (readAngle offset rest).2) := by
  unfold readAngle
  split
  · split <;> simp [Token.shift, Nat.add_assoc]
  · split <;> simp [Token.shift, Nat.add_assoc]

lemma readToken_shift (c : Char) :
    readToken (distance + offset) c rest =
      ((readToken offset c rest).1.map (Token.shift distance), (readToken offset c rest).2) := by
  unfold readToken
  split
  · split <;> rfl
  · split
    · exact readBrace_shift distance offset rest
    · split
      · exact readAngle_shift distance offset rest
      · rfl

/-- A text that starts further back has its tokens further back. -/
theorem scanFrom_shift (text : Text) :
    scanFrom (distance + offset) text = (scanFrom offset text).map (Token.shift distance) := by
  fun_induction scanFrom offset text with
  | case1 offset => simp [scanFrom]
  | case2 offset c rest token? more read ih =>
    rw [scanFrom, readToken_shift, read, List.map_append, ← ih]
    dsimp only
    congr 1
    · cases token? <;> rfl
    · rw [Nat.add_assoc, Nat.add_assoc, Nat.add_assoc]

end

/-! ## Taking up a scan -/

/-- The tag is one behind which text may be passed over. -/
def Token.opensCode : Token → Bool
  | .tag t => t.name == Element.code.name && t.form == .opening
  | _ => false

/-- How many characters of an open construct are passed over: its mark. -/
def LexicalFault.markLength : LexicalFault → Nat
  | .comment => 4
  | _ => 1

/-- Of the tokens of a scan of `text`, `token` is the first of `rest`, and the scan can be taken up
again there: at the token, behind it if it is markup that does not open code, and behind its mark if it
is an open construct. -/
structure Token.Restarts (text : Text) (token : Token) (rest : List Token) : Prop where
  first : rest.head? = some token
  itself : scan text token.start = rest
  behind : token.isMarkup = true → token.opensCode = false → scan text token.stop = rest.tail
  behindMark : ∀ error, token = .error error →
    scan text (error.start + error.fault.markLength) = rest.tail

section

variable {start : Nat} {c : Char} {rest : Text} {token : Token}

/-- How far a step goes: to the end of the markup that it finds, or behind the mark of a construct that
is open. -/
structure Token.PassedTo (token : Token) (stop : Nat) : Prop where
  markup : token.isMarkup = true → token.opensCode = false → token.stop = stop
  mark : ∀ error, token = .error error → error.start + error.fault.markLength = stop

/-! ### What is open in a tag has a mark of one character -/

lemma markLength_of_readAttributeValue {tag name text : Text} {fault : LexicalFault}
    (h : readAttributeValue tag name text = .broken fault) : fault.markLength = 1 := by
  cases text with
  | nil =>
    obtain rfl : LexicalFault.tag tag = fault := AttributeReading.broken.inj h
    rfl
  | cons c cs =>
    simp only [readAttributeValue] at h
    split at h
    · split at h
      · simp at h
      · obtain rfl : LexicalFault.attributeValue tag = fault := AttributeReading.broken.inj h
        rfl
    · split at h
      · split at h
        · obtain rfl : LexicalFault.attributeExpression tag = fault := AttributeReading.broken.inj h
          rfl
        · simp at h
      · simp at h

lemma markLength_of_readAttribute {tag text : Text} {fault : LexicalFault}
    (h : readAttribute tag text = .broken fault) : fault.markLength = 1 := by
  cases text with
  | nil => simp [readAttribute] at h
  | cons c cs =>
    simp only [readAttribute] at h
    split at h
    · split at h
      · exact markLength_of_readAttributeValue h
      · simp at h
    · simp at h

lemma markLength_of_readAttributes {name text : Text} {attributes : Attributes}
    {fault : LexicalFault} (h : readAttributes name attributes text = .broken fault) :
    fault.markLength = 1 := by
  fun_induction readAttributes name attributes text with
  | case1 =>
    obtain rfl : LexicalFault.tag name = fault := TagReading.broken.inj h
    rfl
  | case2 => simp at h
  | case3 => simp at h
  | case4 => simp at h
  | case5 attributes text open_ read =>
    obtain rfl : open_ = fault := TagReading.broken.inj h
    exact markLength_of_readAttribute read
  | case6 attributes text key value after read _ _ _ ih => exact ih h

lemma markLength_of_readClosing {name text : Text} {fault : LexicalFault}
    (h : readClosing name text = .broken fault) : fault.markLength = 1 := by
  unfold readClosing at h
  split at h
  · obtain rfl : LexicalFault.tag name = fault := TagReading.broken.inj h
    rfl
  · simp at h
  · simp at h

lemma readTagName_eq_broken {reader : Text → Text → TagReading} {text : Text}
    {fault : LexicalFault} (h : readTagName reader text = .broken fault) :
    ∃ called after, reader called after = .broken fault := by
  cases text with
  | nil => simp [readTagName] at h
  | cons c cs =>
    simp only [readTagName] at h
    split at h
    · exact ⟨_, _, h⟩
    · simp at h

lemma markLength_of_readTag {text : Text} {fault : LexicalFault}
    (h : readTag text = .broken fault) : fault.markLength = 1 := by
  unfold readTag at h
  split at h
  · obtain ⟨called, after, broken⟩ := readTagName_eq_broken h
    exact markLength_of_readClosing broken
  · obtain ⟨called, after, broken⟩ := readTagName_eq_broken h
    exact markLength_of_readAttributes broken

/-! ### How far one step goes -/

lemma passedTo_of_error (error : LexicalError) :
    (Token.error error).PassedTo (error.start + error.fault.markLength) := by
  refine ⟨fun markup => Bool.noConfusion markup, ?_⟩
  intro other same
  rw [Token.error.inj same]

lemma rawBodyLength_eq_zero {name : Text} {attributes : Attributes} {form : TagForm}
    {start stop : Nat} (h : (Token.tag ⟨name, attributes, form, start, stop⟩).opensCode = false)
    (body : Text) : rawBodyLength name form body = 0 := by
  unfold rawBodyLength
  rw [if_neg]
  rintro ⟨named, opening⟩
  simp [Token.opensCode, named, opening] at h

lemma readBrace_passedTo (found : (readBrace start rest).1 = some token) :
    token.PassedTo (start + 1 + (readBrace start rest).2) := by
  unfold readBrace at found ⊢
  split at found
  · obtain rfl := Option.some.inj found
    exact passedTo_of_error _
  · next n length =>
    obtain rfl := Option.some.inj found
    have pos := braceLength?_pos length
    refine ⟨fun _ _ => ?_, fun _ isError => nomatch isError⟩
    show start + n = start + 1 + (n - 1)
    omega

lemma readAngle_passedTo (found : (readAngle start rest).1 = some token) :
    token.PassedTo (start + 1 + (readAngle start rest).2) := by
  unfold readAngle at found ⊢
  split at found
  · split at found
    · obtain rfl := Option.some.inj found
      exact passedTo_of_error ⟨.comment, start, _⟩
    · simp at found
  · split at found
    · simp at found
    · next fault read =>
      obtain rfl := Option.some.inj found
      have passed := passedTo_of_error ⟨fault, start, start + 1 + rest.length⟩
      rw [markLength_of_readTag read] at passed
      exact passed
    · next name attributes form after read =>
      obtain rfl := Option.some.inj found
      refine ⟨fun _ noCode => ?_, fun _ isError => nomatch isError⟩
      rw [rawBodyLength_eq_zero noCode]
      rfl

/-- A step goes on where its token says. -/
theorem readToken_passedTo (found : (readToken start c rest).1 = some token) :
    token.PassedTo (start + 1 + (readToken start c rest).2) := by
  unfold readToken at found ⊢
  split
  · next backslash =>
    simp only [backslash, if_true] at found
    split at found <;> simp at found
  · next notBackslash =>
    rw [if_neg notBackslash] at found
    split
    · next brace =>
      rw [if_pos brace] at found
      exact readBrace_passedTo found
    · next notBrace =>
      rw [if_neg notBrace] at found
      split
      · next angle =>
        rw [if_pos angle] at found
        exact readAngle_passedTo found
      · next notAngle =>
        rw [if_neg notAngle] at found
        simp at found

end

/-- A scan can be taken up again at any of its tokens. -/
theorem restarts_of_getElem? (text : Text) (start : Nat) :
    ∀ (index : Nat) (token : Token), (scan text start)[index]? = some token →
      token.Restarts text ((scan text start).drop index) := by
  induction start using scan_induction text with
  | nil => simp
  | step start c rest eq ih =>
    intro index token found
    cases first : (readToken start c rest).1 with
    | none =>
      rw [first] at found
      exact ih index token found
    | some head =>
      rw [first] at found
      cases index with
      | succ index =>
        exact ih index token found
      | zero =>
        obtain rfl : head = token := Option.some.inj found
        have at_ := (readToken_readIn eq first).1
        have passed := readToken_passedTo first
        refine ⟨rfl, ?_, ?_, ?_⟩
        · rw [at_, scan_of_drop eq, first]
          rfl
        · intro markup noCode
          rw [passed.markup markup noCode]
          rfl
        · intro error isError
          rw [passed.mark error isError]
          rfl

/-- **Scanning can start anywhere.**  Text in front of a document moves its tokens and does nothing
else, and from any offset on a scan can be taken up again at every one of its tokens. -/
theorem scan_restarts :
    (∀ before text start, scan (before ++ text) (before.length + start) =
      (scan text start).map (Token.shift before.length)) ∧
    ∀ (text : Text) (start index : Nat) (token : Token), (scan text start)[index]? = some token →
      token.Restarts text ((scan text start).drop index) := by
  refine ⟨?_, restarts_of_getElem?⟩
  intro before text start
  rw [scan, scan, ← List.drop_drop, List.drop_left]
  exact scanFrom_shift before.length start (text.drop start)

/-- A region, a comment that is left open, and a tag. -/
def openCommentDocument : Text :=
  "\x7ba\x7d<!--<b>".toList

/-- Behind the mark of the open comment the tag is found again. -/
theorem scan_restarts_openComment :
    (scan openCommentDocument 0)[1]? = some (.error ⟨.comment, 3, 10⟩) ∧
      (Token.error ⟨.comment, 3, 10⟩).Restarts openCommentDocument
        ((scan openCommentDocument 0).drop 1) := by
  have second : (scan openCommentDocument 0)[1]? = some (.error ⟨.comment, 3, 10⟩) := by
    decide +kernel
  exact ⟨second, scan_restarts.2 openCommentDocument 0 1 _ second⟩

end GlassPrompt
