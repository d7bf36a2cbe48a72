import GlassPrompt.Proofs.Frontmatter.RoundTrip

/-!
# Where frontmatter is refused

The frontmatter of a document is refused because of one of its lines: the opening delimiter, if no other
one follows, or else the first line of the block with something wrong.  The error tells which line that
is.

* `RefusedAt` — the line of a document because of which its frontmatter is refused, and the reason.
* `FrontmatterError.IsAt`, `isAt_of_splitFrontmatter` — the error has the number of that line, and the
  line as it is written.
-/

namespace GlassPrompt

/-- The frontmatter of the document is refused because of the line of this index. -/
inductive RefusedAt (text : Text) : ℕ → FrontmatterFault → Prop
  | notClosed {first : Text} {rest : List Text} (lines : Text.lines text = first :: rest)
    (opening : IsDelimiterLine first) (never : ∀ line ∈ rest, ¬ IsDelimiterLine line) :
    RefusedAt text 0 .notClosed
  | declaration {first last : Text} {inner rest : List Text} {index : ℕ} {fault : FrontmatterFault}
    (block : IsBlock first inner last) (lines : Text.lines text = first :: (inner ++ last :: rest))
    (wrong : FirstWrongAt inner index fault) : RefusedAt text (index + 1) fault

/-- The error is about the line of this index: it has the number of the line, counted from one, and the
line as it is written. -/
structure FrontmatterError.IsAt (error : FrontmatterError) (text : Text) (index : ℕ) : Prop where
  refused : RefusedAt text index error.fault
  line : (Text.lines text)[index]? = some error.line
  number : error.lineNumber = index + 1

/-- A line inside a block is one of the document behind the opening delimiter, with the next number. -/
lemma isAt_of_readDeclarations {text first last : Text} {inner rest : List Text}
    {error : FrontmatterError} (block : IsBlock first inner last)
    (lines : Text.lines text = first :: (inner ++ last :: rest))
    (refused : readDeclarations 2 inner = .error error) : ∃ index : ℕ, error.IsAt text index := by
  have read := reading_readDeclarations 2 inner
  rw [refused] at read
  obtain ⟨index, wrong, here, number⟩ := read
  obtain ⟨within, -⟩ := List.getElem?_eq_some_iff.1 here
  refine ⟨index + 1, .declaration block lines wrong, ?_, ?_⟩
  · rw [lines, List.getElem?_cons_succ, List.getElem?_append_left within, here]
  · rw [number, Nat.cast_add, Nat.cast_one]
    omega

/-- **The error of broken frontmatter is about the line because of which it is refused.** -/
theorem isAt_of_splitFrontmatter {text : Text} {error : FrontmatterError}
    (refused : splitFrontmatter text = .error error) : ∃ index : ℕ, error.IsAt text index := by
  cases opens : hasFrontmatter text with
  | false =>
    have read : splitFrontmatter text = .ok ⟨[], 0⟩ := by
      rw [splitFrontmatter, opens]
      rfl
    cases read.symm.trans refused
  | true =>
    rcases block_or_open opens with ⟨first, rest, lines, opening, never⟩ |
      ⟨first, inner, last, rest, block, lines⟩
    · rw [splitFrontmatter_of_open lines opening never] at refused
      obtain rfl := Except.error.inj refused
      exact ⟨0, .notClosed lines opening never, by rw [lines]; rfl, rfl⟩
    · rw [splitFrontmatter_of_block block lines] at refused
      cases read : readDeclarations 2 inner with
      | ok declarations =>
        rw [read] at refused
        cases refused
      | error inside =>
        rw [read] at refused
        obtain rfl := Except.error.inj refused
        exact isAt_of_readDeclarations block lines read

end GlassPrompt
