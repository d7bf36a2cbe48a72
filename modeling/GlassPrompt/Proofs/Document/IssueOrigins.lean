import GlassPrompt.Proofs.Document.IssueLog

/-!
# Where structural issues come from

A structural issue is one of the problems that a tag has where it stands: in the state that is reached
behind the tokens before the tag and the text up to it.  No two tags start at one offset, so the offset
of such an issue tells the tag.

* `BuildState.newIssues`, `BuildState.issues_addToken` — the issues that a token adds.
* `BuildState.atTag` — the state in which a tag is taken in.
* `structural_issues_build` — the structural issues are the problems of the tags.
* `IssueAt`, `issueAt_build` — the issues that start where a tag starts are the problems of that tag.
-/

namespace GlassPrompt

namespace BuildState

/-! ## The issues of a token -/

variable {source : Text} {start : Nat} {state : BuildState}

/-- The issues that a token adds. -/
def newIssues (source : Text) (state : BuildState) : Token → List Issue
  | .error e => [⟨.lexical e.fault, ⟨e.start, e.stop⟩⟩]
  | .region _ => []
  | .tag tag =>
    ((state.addText source state.position tag.start).tagProblems tag).map (⟨·, tag.span⟩)

lemma issues_addToken (token : Token) :
    (state.addToken source token).issues = state.issues ++ newIssues source state token := by
  cases token with
  | error e => rfl
  | region region =>
    exact (congrArg Record.issues (record_addToken_region source state region)).trans
      (List.append_nil _).symm
  | tag tag => exact congrArg Record.issues (record_addToken_tag source state tag)

/-- The state in which a tag behind some tokens is taken in. -/
def atTag (source : Text) (start : Nat) (done : List Token) (tag : Tag) : BuildState :=
  (afterTokens source start done).addText source (afterTokens source start done).position tag.start

/-- Only tags add structural issues. -/
lemma mem_newIssues_structural {done : List Token} {token : Token} {issue : Issue}
    (structural : issue.problem.kind = .structural) :
    issue ∈ newIssues source (afterTokens source start done) token ↔ ∃ tag, token = .tag tag ∧
      ∃ problem ∈ (atTag source start done tag).tagProblems tag, ⟨problem, tag.span⟩ = issue := by
  cases token with
  | error e =>
    refine iff_of_false (fun member => ?_) (fun ⟨tag, isTag, _⟩ => nomatch isTag)
    rw [List.mem_singleton.1 member] at structural
    exact nomatch structural
  | region region => exact iff_of_false (nomatch ·) (fun ⟨tag, isTag, _⟩ => nomatch isTag)
  | tag tag =>
    refine List.mem_map.trans ⟨fun origin => ⟨tag, rfl, origin⟩, ?_⟩
    rintro ⟨other, isTag, origin⟩
    obtain rfl := Token.tag.inj isTag
    exact origin

/-- **The structural issues behind some tokens** are the problems that the tags among them had. -/
theorem structural_issues_afterTokens {tokens : List Token} {issue : Issue}
    (structural : issue.problem.kind = .structural) :
    issue ∈ (afterTokens source start tokens).issues ↔ ∃ done tag, done ++ [.tag tag] <+: tokens ∧
      ∃ problem ∈ (atTag source start done tag).tagProblems tag, ⟨problem, tag.span⟩ = issue := by
  induction tokens using List.reverseRecOn with
  | nil =>
    refine iff_of_false (nomatch ·) ?_
    rintro ⟨done, tag, first, -⟩
    simp at first
  | append_singleton tokens token ih =>
    rw [afterTokens_concat, issues_addToken, List.mem_append, ih, mem_newIssues_structural structural]
    constructor
    · rintro (⟨done, tag, first, origin⟩ | ⟨tag, rfl, origin⟩)
      · exact ⟨done, tag, first.trans (List.prefix_append _ _), origin⟩
      · exact ⟨tokens, tag, List.prefix_rfl, origin⟩
    · rintro ⟨done, tag, first, origin⟩
      rcases List.prefix_concat_iff.1 first with last | before
      · obtain ⟨rfl, isTag⟩ := List.append_inj' last rfl
        obtain rfl : .tag tag = token := List.singleton_inj.1 isTag
        exact .inr ⟨tag, rfl, origin⟩
      · exact .inl ⟨done, tag, before, origin⟩

end BuildState

/-! ## The issues of a document -/

section

variable {source : Text} {start : Nat}

/-- **The structural issues of a document** are the problems that its tags have where they stand. -/
theorem structural_issues_build {issue : Issue} (structural : issue.problem.kind = .structural) :
    issue ∈ (build source start).issues ↔ ∃ done tag, done ++ [.tag tag] <+: scan source start ∧
      ∃ problem ∈ (BuildState.atTag source start done tag).tagProblems tag,
        ⟨problem, tag.span⟩ = issue := by
  rw [issues_build, List.mem_append, ← BuildState.structural_issues_afterTokens structural]
  refine or_iff_left fun unmatched => ?_
  obtain ⟨tag, -, rfl⟩ := List.mem_map.1 unmatched
  rw [kind_unmatchedIssue] at structural
  exact nomatch structural

/-- A tag is told by its start. -/
lemma prefix_unique {done others : List Token} {tag other : Tag}
    (first : done ++ [.tag tag] <+: scan source start)
    (second : others ++ [.tag other] <+: scan source start) (same : tag.start = other.start) :
    done = others ∧ tag = other := by
  -- a prefix that ends before the other one has its last tag among the tokens before the other tag
  have shorter {done others : List Token} {tag other : Tag}
      (longer : others ++ [.tag other] <+: scan source start) (same : tag.start = other.start)
      (within : done ++ [.tag tag] <+: others ++ [.tag other]) : done = others ∧ tag = other := by
    rcases List.prefix_concat_iff.1 within with equal | before
    · obtain ⟨rfl, isTag⟩ := List.append_inj' equal rfl
      exact ⟨rfl, Token.tag.inj (List.singleton_inj.1 isTag)⟩
    · have ordered := List.pairwise_append.1 ((scan_pairwise source start).sublist longer.sublist)
      have behind : tag.start < other.start :=
        (ordered.2.2 (.tag tag) (before.subset (by simp)) _ (List.mem_singleton_self _)).1
      exact absurd same (Nat.ne_of_lt behind)
  rcases List.prefix_or_prefix_of_prefix first second with within | within
  · exact shorter second same within
  · obtain ⟨rfl, rfl⟩ := shorter first same.symm within
    exact ⟨rfl, rfl⟩

/-- An issue with such a problem starts at the offset. -/
def IssueAt (issues : List Issue) (p : Problem → Prop) (start : Nat) : Prop :=
  ∃ issue ∈ issues, p issue.problem ∧ issue.span.start = start

/-- **The issues where a tag starts** are the problems that this tag has where it stands. -/
theorem issueAt_build {done : List Token} {tag : Tag} (isTag : done ++ [.tag tag] <+: scan source start)
    {p : Problem → Prop} (structural : ∀ problem, p problem → problem.kind = .structural) :
    IssueAt (build source start).issues p tag.start ↔
      ∃ problem ∈ (BuildState.atTag source start done tag).tagProblems tag, p problem := by
  constructor
  · rintro ⟨issue, member, holds, starts⟩
    obtain ⟨others, other, isOther, problem, origin, rfl⟩ :=
      (structural_issues_build (structural _ holds)).1 member
    obtain ⟨rfl, rfl⟩ := prefix_unique isOther isTag starts
    exact ⟨problem, origin, holds⟩
  · rintro ⟨problem, origin, holds⟩
    exact ⟨⟨problem, tag.span⟩, (structural_issues_build (structural _ holds)).2
      ⟨done, tag, isTag, problem, origin, rfl⟩, holds, rfl⟩

end

end GlassPrompt
