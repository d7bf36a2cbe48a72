import GlassPrompt.Proofs.Document.IssueLog
import GlassPrompt.Proofs.Document.Opening
import GlassPrompt.Proofs.Editor.TagReports

/-!
# Tags without a partner are reported twice

A document has an issue for each tag of its content that lacks a partner, and the diagnostics leave
these issues out, since the tags without a partner of the whole document have diagnostics of their own.
The two agree as long as the import statements above the content have no part in the pairing: a
specifier such as `'<User>'` reads as an opening tag.

* `Document.unmatchedIssues`, `unmatchedIssues_eq` — the issues that the diagnostics leave out.
* `supported_unmatchedTags_eq` — the tags that have diagnostics.
* `unmatchedIssues_of_parse` — which tags both are about, and when each issue has a diagnostic.
-/

namespace GlassPrompt

/-- The issues of a document about tags without a partner. -/
def Document.unmatchedIssues (document : Document) : List Issue :=
  document.issues.filter (·.problem.kind == .unmatched)

lemma tag?_shift (distance : Nat) (token : Token) :
    (token.shift distance).tag? = token.tag?.map fun tag =>
      { tag with start := distance + tag.start, stop := distance + tag.stop } := by
  cases token <;> rfl

/-- Moving a text does not change which of its tags take part. -/
lemma takesPart_supportedTags_shift {tokens : List Token}
    (aside : ∀ tag ∈ supportedTags tokens, tag.takesPart = false) (distance : Nat) :
    ∀ tag ∈ supportedTags (tokens.map (Token.shift distance)), tag.takesPart = false := by
  intro tag member
  obtain ⟨known, supported⟩ := List.mem_filter.1 member
  obtain ⟨shifted, isToken, isTag⟩ := List.mem_filterMap.1 known
  obtain ⟨token, here, rfl⟩ := List.mem_map.1 isToken
  rw [tag?_shift] at isTag
  obtain ⟨before, found, rfl⟩ := Option.map_eq_some_iff.1 isTag
  exact aside before (List.mem_filter.2 ⟨List.mem_filterMap.2 ⟨token, here, found⟩, supported⟩)

section

variable {source : Text} {document : Document} (parsed : Document.parse source = .ok document)

include parsed

/-- The issues are about the tags of the content. -/
lemma unmatchedIssues_eq : document.unmatchedIssues =
    (Pairing.ofTags (supportedTags (scan source document.contentStart))).unmatched.map
      BuildState.unmatchedIssue := by
  rw [Document.unmatchedIssues, issues_of_parse parsed]
  exact unmatched_issues_build source document.contentStart

/-- The diagnostics are about the tags behind the frontmatter. -/
lemma supported_unmatchedTags_eq : (unmatchedTags source).filter Tag.isSupported =
    (Pairing.ofTags (supportedTags (scan source document.bodyOffset))).unmatched := by
  rw [unmatchedTags, unmatched_ofTags_supported (tagsOf_ordered source), tagsOf,
    (scan_of_parse parsed).1]
  rfl

/-- **Tags without a partner.**  The issues of a document are about the tags of its content, and its
diagnostics about all tags behind the frontmatter.  If the import statements between them leave nothing
open, and none of their tags can be paired, then the issues are about the same tags as the diagnostics,
and each issue that the diagnostics leave out is reported as a tag. -/
theorem unmatchedIssues_of_parse :
    document.unmatchedIssues =
        (Pairing.ofTags (supportedTags (scan source document.contentStart))).unmatched.map
          BuildState.unmatchedIssue ∧
      (unmatchedTags source).filter Tag.isSupported =
        (Pairing.ofTags (supportedTags (scan source document.bodyOffset))).unmatched ∧
      ((∀ token ∈ scan document.importText 0, token.Closed) →
        (∀ tag ∈ supportedTags (scan document.importText 0), tag.takesPart = false) →
        document.unmatchedIssues =
            ((unmatchedTags source).filter Tag.isSupported).map BuildState.unmatchedIssue ∧
          ∀ issue ∈ document.unmatchedIssues, ∃ tag ∈ unmatchedTags source,
            issue = BuildState.unmatchedIssue tag ∧
              unmatchedDiagnostic source tag ∈ diagnostics source) := by
  refine ⟨unmatchedIssues_eq parsed, supported_unmatchedTags_eq parsed, fun closed aside => ?_⟩
  have same : (Pairing.ofTags (supportedTags (scan source document.bodyOffset))).unmatched =
      (Pairing.ofTags (supportedTags (scan source document.contentStart))).unmatched := by
    rw [(scan_of_parse parsed).2 closed, supportedTags_append, ofTags_append_of_not_takesPart]
    exact takesPart_supportedTags_shift aside document.bodyOffset
  have issues : document.unmatchedIssues =
      ((unmatchedTags source).filter Tag.isSupported).map BuildState.unmatchedIssue := by
    rw [unmatchedIssues_eq parsed, supported_unmatchedTags_eq parsed, same]
  refine ⟨issues, fun issue member => ?_⟩
  rw [issues] at member
  obtain ⟨tag, reported, rfl⟩ := List.mem_map.1 member
  have unmatched := List.mem_of_mem_filter reported
  exact ⟨tag, unmatched, rfl,
    List.mem_append_left _ (List.mem_append_left _ (List.mem_map_of_mem unmatched))⟩

end

/-- A document with an import statement, and a tag that closes nothing. -/
def importDocument : Text :=
  "import \x7b a \x7d from './a'\n</User>".toList

/-- Behind an import statement, what is left out as an issue is reported as a tag. -/
theorem unmatchedIssues_of_parse_import :
    ∃ document, Document.parse importDocument = .ok document ∧
      document.unmatchedIssues = [⟨.unopened "User".toList, ⟨24, 31⟩⟩] ∧
      ∀ issue ∈ document.unmatchedIssues, ∃ tag ∈ unmatchedTags importDocument,
        issue = BuildState.unmatchedIssue tag ∧
          unmatchedDiagnostic importDocument tag ∈ diagnostics importDocument := by
  have computed : (Document.parse importDocument).map (fun document =>
      (document.importText, document.unmatchedIssues)) =
      .ok ("import \x7b a \x7d from './a'\n".toList, [⟨.unopened "User".toList, ⟨24, 31⟩⟩]) := by
    decide +kernel
  obtain ⟨document, parsed, found⟩ := exists_parse computed
  obtain ⟨imports, issues⟩ := Prod.mk.inj found
  have reported := (unmatchedIssues_of_parse parsed).2.2
  rw [imports] at reported
  exact ⟨document, parsed, issues, (reported (by decide +kernel) (by decide +kernel)).2⟩

/-- In the document `import '<User>'\n</User>` the tag that closes nothing has an issue, but it is
paired with a tag in the specifier: nothing is reported. -/
theorem not_unmatchedIssues_quotedTag :
    ¬ ∀ source document, Document.parse source = .ok document →
      ∀ issue ∈ document.unmatchedIssues, ∃ tag ∈ unmatchedTags source,
        tag.isSupported = true ∧ tag.start = issue.span.start := by
  intro everyIssue
  have computed : (Document.parse "import '<User>'\n</User>".toList).map Document.unmatchedIssues =
      .ok [⟨.unopened "User".toList, ⟨16, 23⟩⟩] := by decide +kernel
  have nothing : unmatchedTags "import '<User>'\n</User>".toList = [] := by decide +kernel
  obtain ⟨document, parsed, issues⟩ := exists_parse computed
  obtain ⟨tag, reported, -⟩ := everyIssue _ document parsed _ (issues ▸ List.mem_cons_self)
  rw [nothing] at reported
  exact nomatch reported

end GlassPrompt
