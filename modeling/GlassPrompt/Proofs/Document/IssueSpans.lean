import GlassPrompt.Proofs.Document.IssueNames
import GlassPrompt.Proofs.Document.IssueOrigins
import GlassPrompt.Proofs.Document.Requests
import GlassPrompt.Proofs.Template.FreeReferences

/-!
# What issues show of a document

An issue of building shows a token: a tag, or a construct that is left open.  An issue of a name that is
not declared shows a block that refers to it.  Tokens and blocks are parts of the document and not empty,
so what an issue shows is, too.

* `Token.span`, `span_of_mem_build` — the issues of building show tokens.
* `span_of_mem_undeclared` — the issues of names show blocks.
* `Span.Inside`, `inside_of_parse` — what the issues of a document show is a part of it.
-/

namespace GlassPrompt

/-- The part of the document that a token takes. -/
def Token.span (token : Token) : Span :=
  ⟨token.start, token.stop⟩

/-- The span is a part of the text, and not empty. -/
structure Span.Inside (span : Span) (text : Text) : Prop where
  start_lt_stop : span.start < span.stop
  stop_le : span.stop ≤ text.length

/-! ## Tokens -/

namespace BuildState

variable {source : Text} {state : BuildState} {issue : Issue}

lemma span_of_mem_newIssues {token : Token} (member : issue ∈ newIssues source state token) :
    issue.span = token.span := by
  cases token with
  | error e =>
    obtain rfl := List.mem_singleton.1 member
    rfl
  | region region => exact nomatch member
  | tag tag =>
    obtain ⟨problem, -, rfl⟩ := List.mem_map.1 member
    rfl

/-- What tokens add to the issues shows them. -/
lemma span_of_mem_addTokens {tokens : List Token}
    (member : issue ∈ (tokens.foldl (addToken source) state).issues) :
    issue ∈ state.issues ∨ ∃ token ∈ tokens, issue.span = token.span := by
  induction tokens generalizing state with
  | nil => exact .inl member
  | cons token rest ih =>
    rcases ih member with before | ⟨later, among, shows⟩
    · rw [issues_addToken, List.mem_append] at before
      rcases before with before | new
      · exact .inl before
      · exact .inr ⟨token, List.mem_cons_self, span_of_mem_newIssues new⟩
    · exact .inr ⟨later, List.mem_cons_of_mem _ among, shows⟩

end BuildState

section

variable {source : Text} {start : ℕ} {issue : Issue}

/-- **The issues of building show tokens.** -/
theorem span_of_mem_build (member : issue ∈ (build source start).issues) :
    ∃ token ∈ scan source start, issue.span = token.span := by
  rw [issues_build, List.mem_append] at member
  rcases member with added | unmatched
  · exact (BuildState.span_of_mem_addTokens added).resolve_left nofun
  · obtain ⟨tag, reported, rfl⟩ := List.mem_map.1 unmatched
    exact ⟨_, mem_scan_of_unmatched reported, rfl⟩

lemma inside_of_mem_scan {token : Token} (member : token ∈ scan source start) :
    token.span.Inside source :=
  have readIn := (readIn_of_mem_scan source start token member).2
  ⟨readIn.start_lt_stop, readIn.stop_le⟩

end

/-! ## Blocks -/

/-- **The issues of names that are not declared show blocks.** -/
theorem span_of_mem_undeclared {document : Document} {issue : Issue}
    (member : issue ∈ document.undeclared) :
    ∃ block ∈ walkBlocks document.blocks, issue.span = block.span := by
  unfold Document.undeclared at member
  split at member
  · exact nomatch member
  · obtain ⟨reference, first, rfl⟩ := List.mem_map.1 member
    have refers := firstReferences_subset _ _ first
    rw [Document.references_eq_filterMap, List.mem_filterMap] at refers
    obtain ⟨place, known, found⟩ := refers
    have onWalk : place.block ∈ walkBlocks document.blocks :=
      block_placesOf [] document.blocks ▸ List.mem_map_of_mem known
    exact ⟨place.block, onWalk, (Document.reference?_eq_some_iff.1 found).2.2⟩

/-! ## The issues of a document -/

/-- **What the issues of a document show is a part of it**, and not empty. -/
theorem inside_of_parse {source : Text} {document : Document}
    (parsed : Document.parse source = .ok document) :
    ∀ issue ∈ document.allIssues, issue.span.Inside source := by
  intro issue member
  rcases List.mem_append.1 member with built | undeclared
  · rw [issues_of_parse parsed] at built
    obtain ⟨token, scanned, shows⟩ := span_of_mem_build built
    exact shows ▸ inside_of_mem_scan scanned
  · obtain ⟨block, onWalk, shows⟩ := span_of_mem_undeclared undeclared
    rw [blocks_of_parse parsed] at onWalk
    have laid := (build_lossless_from (contentStart_le parsed)).laid
    exact shows ▸ ⟨laid.walk_nonempty onWalk, (laid.walk_bounds block onWalk).2⟩

end GlassPrompt
