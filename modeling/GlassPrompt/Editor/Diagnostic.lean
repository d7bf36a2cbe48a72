import GlassPrompt.Editor.Position
import GlassPrompt.Template.Reference

/-!
# Diagnostics

Diagnostics tell an editor what is wrong with a document.  Tags without a partner, tags outside the
vocabulary and broken frontmatter are errors; the other issues of the document are warnings.

* `unmatchedTags`, `unsupportedTags` — the tags that are reported.
* `Diagnostic` — a message at a range.
* `diagnostics` — everything that there is to say about a document.
-/

namespace GlassPrompt

/-! ## Reported tags -/

/-- The tags without a partner, in document order. -/
def unmatchedTags (text : Text) : List Tag :=
  (Pairing.ofTags (tagsOf text)).unmatched

/-- The tags outside the vocabulary, in document order. -/
def unsupportedTags (text : Text) : List Tag :=
  (tagsOf text).filter (!·.isSupported)

/-! ## Diagnostics -/

/-- How bad a diagnostic is. -/
inductive Severity where
  | error
  | warning
  deriving DecidableEq, Repr

/-- The written name of a severity. -/
def Severity.name : Severity → Text
  | .error => "error".toList
  | .warning => "warning".toList

/-- A message for the editor. -/
structure Diagnostic where
  severity : Severity
  range : Range
  message : Text
  deriving DecidableEq, Repr

/-- The diagnostic of a tag without a partner: it covers the tag's mark and name and one character
more. -/
def unmatchedDiagnostic (text : Text) (tag : Tag) : Diagnostic where
  severity := .error
  range := .ofOffsets text tag.start (tag.start + tag.mark.length + tag.name.length + 1)
  message :=
    if tag.form = .closing then
      "</".toList ++ tag.name ++ "> tag has no matching <".toList ++ tag.name ++ "> tag.".toList
    else '<' :: tag.name ++ "> tag requires a closing </".toList ++ tag.name ++ "> tag.".toList

/-- The diagnostic of a tag outside the vocabulary: it covers the tag's name. -/
def unsupportedDiagnostic (text : Text) (tag : Tag) : Diagnostic where
  severity := .error
  range :=
    .ofOffsets text (tag.start + tag.mark.length) (tag.start + tag.mark.length + tag.name.length)
  message := "Unsupported ".toList ++ tag.name ++ " tag.".toList

/-- The diagnostic of broken frontmatter: it covers the line. -/
def frontmatterDiagnostic (error : FrontmatterError) : Diagnostic where
  severity := .error
  range :=
    let line := (error.lineNumber - 1).toNat
    ⟨⟨line, 0⟩, ⟨line, error.line.length⟩⟩
  message := error.fault.message

/-- The diagnostic of an issue. -/
def issueDiagnostic (text : Text) (issue : Issue) : Diagnostic where
  severity := .warning
  range := .ofOffsets text issue.span.start issue.span.stop
  message := issue.problem.message

/-- The diagnostics of tags. -/
def tagDiagnostics (text : Text) : List Diagnostic :=
  (unmatchedTags text).map (unmatchedDiagnostic text) ++
    (unsupportedTags text).map (unsupportedDiagnostic text)

/-- The issues of a document that its tags do not show. -/
def Document.otherIssues (document : Document) : List Issue :=
  document.allIssues.filter (·.problem.kind != .unmatched)

/-- The diagnostics of a document. -/
def diagnostics (text : Text) : List Diagnostic :=
  tagDiagnostics text ++
    match Document.parse text with
    | .error error => [frontmatterDiagnostic error]
    | .ok document => document.otherIssues.map (issueDiagnostic text)

end GlassPrompt
