import GlassPrompt.Proofs.Document.IssueLog
import GlassPrompt.Proofs.Markup.EscapedBraces
import GlassPrompt.Template.Index

/-!
# Texts that are written literally

A text is written literally by putting a backslash before each of its braces.  Scanning passes over
such a pair of characters, and decoding takes the backslash away again.  Both read from the left, and
both find the same pairs, since what is written never starts with a brace: a backslash of the text
itself is never taken for the one that was put before a brace.

* `escapeBraces` — the text with a backslash before each brace.
* `head?_escapeBraces` — what is written does not start with a brace.
* `decodeBraces_escapeBraces` — decoding gives the text back.
* `scanFrom_escapeBraces` — scanning finds nothing in it, unless the text has a `<`.
* `written_literally` — a document of such text is the text.
-/

namespace GlassPrompt

/-- The text with a backslash before each brace. -/
def escapeBraces (text : Text) : Text :=
  text.flatMap fun c => if isBrace c then ['\\', c] else [c]

/-! ## What is written -/

section

variable {c : Char} (rest : Text)

lemma escapeBraces_brace (brace : isBrace c = true) :
    escapeBraces (c :: rest) = '\\' :: c :: escapeBraces rest := by
  simp [escapeBraces, brace]

lemma escapeBraces_noBrace (noBrace : isBrace c = false) :
    escapeBraces (c :: rest) = c :: escapeBraces rest := by
  simp [escapeBraces, noBrace]

end

/-- **What is written does not start with a brace.** -/
lemma head?_escapeBraces (text : Text) : ∀ c ∈ (escapeBraces text).head?, isBrace c = false := by
  cases text with
  | nil => exact nofun
  | cons c rest =>
    cases brace : isBrace c with
    | true =>
      rw [escapeBraces_brace rest brace]
      intro d first
      obtain rfl : '\\' = d := Option.some.inj first
      decide
    | false =>
      rw [escapeBraces_noBrace rest brace]
      intro d first
      obtain rfl : c = d := Option.some.inj first
      exact brace

/-! ## Reading one character -/

section

variable {c : Char} {rest : Text} (offset : Nat)

lemma eq_of_isBrace (brace : isBrace c = true) : c = '\x7b' ∨ c = '\x7d' := by
  simpa [isBrace] using brace

lemma decodeBraces_brace (brace : isBrace c = true) :
    decodeBraces ('\\' :: c :: rest) = c :: decodeBraces rest := by
  rcases eq_of_isBrace brace with rfl | rfl <;> rfl

lemma decodeBraces_apart (apart : ∀ d ∈ rest.head?, isBrace d = false) :
    decodeBraces (c :: rest) = c :: decodeBraces rest := by
  rw [decodeBraces]
  · rintro more - rfl
    exact absurd (apart _ rfl) (by decide)
  · rintro more - rfl
    exact absurd (apart _ rfl) (by decide)

lemma readToken_brace (brace : isBrace c = true) : readToken offset '\\' (c :: rest) = (none, 1) := by
  rcases eq_of_isBrace brace with rfl | rfl <;> rfl

lemma readToken_apart (noBrace : isBrace c = false) (noAngle : c ≠ '<')
    (apart : ∀ d ∈ rest.head?, isBrace d = false) : readToken offset c rest = (none, 0) := by
  have notOpening : c ≠ '\x7b' := by
    rintro rfl
    exact absurd noBrace (by decide)
  have behind : ¬ (rest.head? = some '\x7b' ∨ rest.head? = some '\x7d') := by
    rintro (brace | brace) <;> exact absurd (apart _ brace) (by decide)
  rw [readToken, if_neg behind, if_neg notOpening, if_neg noAngle, ite_self]

end

/-! ## Reading the whole text -/

/-- **Decoding takes away what was put in**, and nothing of the text. -/
theorem decodeBraces_escapeBraces (text : Text) : decodeBraces (escapeBraces text) = text := by
  induction text with
  | nil => rfl
  | cons c rest ih =>
    cases brace : isBrace c with
    | true => rw [escapeBraces_brace rest brace, decodeBraces_brace brace, ih]
    | false =>
      rw [escapeBraces_noBrace rest brace, decodeBraces_apart (head?_escapeBraces rest), ih]

/-- **Scanning finds nothing in a text that is written literally.** -/
theorem scanFrom_escapeBraces {text : Text} (noAngle : '<' ∉ text) (offset : Nat) :
    scanFrom offset (escapeBraces text) = [] := by
  induction text generalizing offset with
  | nil => rw [escapeBraces, List.flatMap_nil, scanFrom]
  | cons c rest ih =>
    obtain ⟨notAngle, later⟩ := not_or.1 (mt List.mem_cons.2 noAngle)
    cases brace : isBrace c with
    | true =>
      rw [escapeBraces_brace rest brace, scanFrom, readToken_brace offset brace]
      exact ih later _
    | false =>
      rw [escapeBraces_noBrace rest brace, scanFrom,
        readToken_apart offset brace (Ne.symm notAngle) (head?_escapeBraces rest)]
      exact ih later _

/-! ## The document -/

section

variable {source : Text} (noTokens : scan source 0 = [])

include noTokens

lemma issues_of_noTokens : (build source 0).issues = [] := by
  have nothing : (Pairing.ofTags []).unmatched = [] := List.mergeSort_nil
  rw [issues_build, noTokens]
  show [] ++ (Pairing.ofTags []).unmatched.map _ = []
  rw [nothing]
  rfl

/-- A document without tokens is its text, if it has any. -/
lemma blocks_of_noTokens : (build source 0).blocks =
    if source.length ≤ 0 then [] else [.text (decodeBraces source) ⟨0, source.length⟩] := by
  have whole : source.slice 0 source.length = source := Text.slice_length source 0
  have noFrames : (BuildState.addText source 0 source.length (.init 0)).frames = [] := by
    unfold BuildState.addText
    split_ifs <;> rfl
  rw [build, noTokens, List.foldl_nil, BuildState.finish, BuildState.reportUnmatched_eq]
  show (BuildState.closeFrames source _ (BuildState.addText source 0 source.length _).frames.length
    _).blocks = _
  rw [noFrames]
  show (BuildState.addText source 0 source.length (.init 0)).blocks = _
  unfold BuildState.addText
  split_ifs with nothing
  · rfl
  · rw [whole]
    rfl

end

/-- **Every text without a `<` can be written literally.**  With a backslash before each brace it has
no tokens, it decodes to the text, and the document that is built of it has the text as its template,
without entries, and no issues. -/
theorem written_literally {text : Text} (noAngle : '<' ∉ text) :
    scan (escapeBraces text) 0 = [] ∧ decodeBraces (escapeBraces text) = text ∧
      (build (escapeBraces text) 0).issues = [] ∧
      ∀ share, (Template.ofBlocks share (build (escapeBraces text) 0).blocks).text = text ∧
        (Template.ofBlocks share (build (escapeBraces text) 0).blocks).entries = [] := by
  have noTokens : scan (escapeBraces text) 0 = [] := scanFrom_escapeBraces noAngle 0
  have decoded := decodeBraces_escapeBraces text
  refine ⟨noTokens, decoded, issues_of_noTokens noTokens, fun share => ?_⟩
  rw [blocks_of_noTokens noTokens, decoded]
  split_ifs with nothing
  · -- Nothing is written, so the text is empty.
    obtain rfl : [] = text := by
      rw [← decoded, List.length_eq_zero_iff.1 (Nat.le_zero.1 nothing)]
      rfl
    exact ⟨rfl, rfl⟩
  · exact ⟨List.append_nil text, rfl⟩

/-- Backslashes before braces, in runs and at the end, and braces side by side. -/
def backslashText : Text :=
  "\\\\\\\x7b\x7b0\x7d\\\x7d\\".toList

/-- A backslash of the text stays, however many stand before a brace. -/
theorem written_literally_backslashes : '<' ∉ backslashText ∧
    escapeBraces backslashText = "\\\\\\\\\x7b\\\x7b0\\\x7d\\\\\x7d\\".toList ∧
    decodeBraces (escapeBraces backslashText) = backslashText ∧
    (Template.ofBlocks true (build (escapeBraces backslashText) 0).blocks).text = backslashText := by
  have noAngle : '<' ∉ backslashText := by decide
  have written := written_literally noAngle
  exact ⟨noAngle, by decide, written.2.1, (written.2.2.2 true).1⟩

end GlassPrompt
