import GlassPrompt.Document.Block
import GlassPrompt.Markup.LexicalError

/-!
# Issues

Nothing but broken frontmatter keeps a document from being read.  Every other problem is recorded as
an issue, and reading goes on.

* `Problem` — what is wrong, with `Problem.kind`, `Problem.message` and `Problem.tagName?`.
* `Issue` — a problem at a place.
-/

namespace GlassPrompt

/-- The three kinds of problems. -/
inductive ProblemKind where
  /-- A construct is left open. -/
  | lexical
  /-- A tag or a name stands where it has no meaning. -/
  | structural
  /-- A tag has no partner. -/
  | unmatched
  deriving DecidableEq, Repr

/-- The attributes that a loop needs. -/
inductive LoopAttribute where
  | each
  | item
  deriving DecidableEq, Repr

/-- The written name of a loop attribute. -/
def LoopAttribute.name : LoopAttribute → Text
  | .each => "each".toList
  | .item => "as".toList

/-- What is wrong. -/
inductive Problem where
  /-- A construct is left open. -/
  | lexical (fault : LexicalFault)
  /-- A role is opened inside another one. -/
  | nestedRole (role : Role)
  /-- A loop lacks an attribute. -/
  | loopWithout (missing : LoopAttribute)
  /-- A request follows another one. -/
  | repeatedRequest
  /-- A request has an attribute that is no setting. -/
  | unknownSetting (name : Text)
  /-- An opening tag is not closed. -/
  | unclosed (name : Text)
  /-- A closing tag closes nothing. -/
  | unopened (name : Text)
  /-- A name is used and not declared. -/
  | undeclared (name : Text)
  deriving DecidableEq, Repr

namespace Problem

/-- The kind of a problem. -/
def kind : Problem → ProblemKind
  | .lexical _ => .lexical
  | .unclosed _ | .unopened _ => .unmatched
  | _ => .structural

/-- The name of the tag that a problem is about. -/
def tagName? : Problem → Option Text
  | .lexical _ | .undeclared _ => none
  | .nestedRole role => some role.name
  | .loopWithout _ => some Element.loop.name
  | .repeatedRequest | .unknownSetting _ => some Element.request.name
  | .unclosed name | .unopened name => some name

/-- The message of a problem. -/
def message : Problem → Text
  | .lexical fault => fault.message
  | .nestedRole role =>
    '<' :: role.name ++ "> cannot be nested inside another chat role".toList
  | .loopWithout missing =>
    "<For> requires an '".toList ++ missing.name ++ "' attribute".toList
  | .repeatedRequest =>
    "Only one <Request> is allowed per document; the first one is used".toList
  | .unknownSetting name => "Unsupported attribute '".toList ++ name ++ "' on <Request>".toList
  | .unclosed name =>
    '<' :: name ++ "> tag requires a closing </".toList ++ name ++ "> tag.".toList
  | .unopened name =>
    "</".toList ++ name ++ "> has no matching <".toList ++ name ++ "> tag".toList
  | .undeclared name => '\'' :: name ++ "' is not declared in the frontmatter".toList

end Problem

/-- A problem, and the part of the document that shows it. -/
structure Issue where
  problem : Problem
  span : Span
  deriving DecidableEq, Repr

end GlassPrompt
