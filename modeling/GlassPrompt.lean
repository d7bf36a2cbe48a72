import GlassPrompt.Main
import GlassPrompt.Proofs.Markup.TagText
import GlassPrompt.Proofs.Markup.TokenStream
import GlassPrompt.Proofs.Document.Layout
import GlassPrompt.Proofs.Document.Tiling
import GlassPrompt.Proofs.Document.Closings
import GlassPrompt.Proofs.Document.StackDiscipline
import GlassPrompt.Proofs.Markup.Ledger
import GlassPrompt.Proofs.Markup.Matching
import GlassPrompt.Proofs.Markup.WellNested
import GlassPrompt.Proofs.Editor.TagReports
import GlassPrompt.Proofs.Text.Trim
import GlassPrompt.Proofs.Text.Margins
import GlassPrompt.Proofs.Text.Unindent
import GlassPrompt.Proofs.Frontmatter.Declarations
import GlassPrompt.Proofs.Frontmatter.RoundTrip
import GlassPrompt.Proofs.Markup.Restart
import GlassPrompt.Proofs.Markup.RegionKind
import GlassPrompt.Proofs.Document.RegionBlocks
import GlassPrompt.Proofs.Template.FreeReferences
import GlassPrompt.Proofs.Template.Numbering
import GlassPrompt.Proofs.Template.Placeholder
import GlassPrompt.Proofs.Template.RequestText
import GlassPrompt.Proofs.Script.Literals
import GlassPrompt.Proofs.Script.Layout
import GlassPrompt.Proofs.Script.Invocation
import GlassPrompt.Proofs.Script.Emitted
import GlassPrompt.Proofs.Script.Scope
import GlassPrompt.Proofs.Markup.RegionSource
import GlassPrompt.Proofs.Markup.RegionGrammar
import GlassPrompt.Proofs.Markup.AttributeText
import GlassPrompt.Proofs.Markup.Continuation
import GlassPrompt.Proofs.Markup.EscapedBraces
import GlassPrompt.Proofs.Markup.SelfDelimiting
import GlassPrompt.Proofs.Markup.TagPrinting
import GlassPrompt.Proofs.Script.TemplateText
import GlassPrompt.Proofs.Script.LiteralValues
import GlassPrompt.Proofs.Document.ScriptEnds
import GlassPrompt.Proofs.Document.IssueLog
import GlassPrompt.Proofs.Document.LiteralText
import GlassPrompt.Proofs.Document.WalkOrder
import GlassPrompt.Proofs.Document.Requests
import GlassPrompt.Proofs.Document.RequestBodies
import GlassPrompt.Proofs.Document.Opening
import GlassPrompt.Proofs.Editor.UnmatchedReports
import GlassPrompt.Proofs.Document.IssueNames
import GlassPrompt.Proofs.Editor.BodyReports
import GlassPrompt.Proofs.Workspace.Changes
import GlassPrompt.Proofs.Workspace.Plan
import GlassPrompt.Proofs.Command.Runs
import GlassPrompt.Proofs.Command.ReportLines
import GlassPrompt.Proofs.Workspace.Paths
import GlassPrompt.Proofs.Command.FolderRuns
import GlassPrompt.Proofs.Command.FunctionNames
import GlassPrompt.Proofs.Text.Squeeze
import GlassPrompt.Proofs.Import.ClauseParts
import GlassPrompt.Proofs.Import.NormalForm
import GlassPrompt.Proofs.Import.BoundNames
import GlassPrompt.Proofs.Markup.CodeBodies
import GlassPrompt.Proofs.Document.CodeBlocks
import GlassPrompt.Proofs.Document.IssueOrigins
import GlassPrompt.Proofs.Document.StructuralIssues
import GlassPrompt.Proofs.Text.LineStarts
import GlassPrompt.Proofs.Import.Relocation
import GlassPrompt.Proofs.Import.StatementGrammar
import GlassPrompt.Proofs.Import.StaticImports
import GlassPrompt.Proofs.Script.DeclaredNames
import GlassPrompt.Proofs.Command.FileFailures
import GlassPrompt.Proofs.Editor.Positions
import GlassPrompt.Proofs.Script.Tidying
import GlassPrompt.Proofs.Frontmatter.Refusals
import GlassPrompt.Proofs.Document.IssueSpans
import GlassPrompt.Proofs.Editor.DiagnosticRanges
