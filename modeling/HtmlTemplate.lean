import HtmlTemplate.Main
import HtmlTemplate.Proofs.Expr.Language
import HtmlTemplate.Proofs.Interpolation.Agreement
import HtmlTemplate.Proofs.Markup.Lossless
import HtmlTemplate.Proofs.Markup.RoundTrip
import HtmlTemplate.Proofs.Markup.Stripping
import HtmlTemplate.Proofs.Render.DepthBound
import HtmlTemplate.Proofs.Render.Failure
import HtmlTemplate.Proofs.Render.Holes
import HtmlTemplate.Proofs.Render.IncludeStack
import HtmlTemplate.Proofs.Render.Visible
import HtmlTemplate.Proofs.Template.BlankName
import HtmlTemplate.Proofs.Render.Argument
import HtmlTemplate.Proofs.Render.Untouched
import HtmlTemplate.Proofs.Render.Composition
import HtmlTemplate.Proofs.Expr.Lookahead
import HtmlTemplate.Proofs.Expr.Spacing
import HtmlTemplate.Proofs.Render.PlainText
import HtmlTemplate.Proofs.Expr.StringLiteral
import HtmlTemplate.Proofs.Expr.Lookup
import HtmlTemplate.Proofs.Expr.Substitution
import HtmlTemplate.Proofs.Template.NameDirective
import HtmlTemplate.Proofs.Number.Remainder
import HtmlTemplate.Proofs.Value.Coherence
import HtmlTemplate.Proofs.Config.Outcome
import HtmlTemplate.Proofs.Command.Outcome
import HtmlTemplate.Proofs.Interpolation.Escaping
import HtmlTemplate.Proofs.Value.Entries
import HtmlTemplate.Proofs.Value.Merge
import HtmlTemplate.Proofs.Files.Listing
import HtmlTemplate.Proofs.Markup.NormalForm
import HtmlTemplate.Proofs.Markup.TagPattern
