import Gamebook.Asset.Source
import Gamebook.Cli.Run
import Gamebook.Decimal.Layout
import Gamebook.Decimal.Literal
import Gamebook.Directive.Find
import Gamebook.Directive.Json
import Gamebook.Directive.Listing
import Gamebook.Directive.Scan
import Gamebook.Fault
import Gamebook.Graph.Diagnostic
import Gamebook.Graph.Edge
import Gamebook.Graph.Edit
import Gamebook.Html.Adoption
import Gamebook.Html.AllowList
import Gamebook.Html.Builder
import Gamebook.Html.Foreign
import Gamebook.Html.Fragment
import Gamebook.Html.Names
import Gamebook.Html.Token
import Gamebook.Json.Printer
import Gamebook.Json.Reader
import Gamebook.Main
import Gamebook.Markup.Json
import Gamebook.Markup.Paragraph
import Gamebook.Markup.Placeholder
import Gamebook.Page.ChoiceLine
import Gamebook.PageId.Tree
import Gamebook.Play.Json
import Gamebook.Replay.Run
import Gamebook.SortedMap
import Gamebook.Story.Files
import Gamebook.Text.Brace
import Gamebook.Text.Caseless
import Gamebook.Text.Line
import Gamebook.Text.WordChar
import Gamebook.Proofs.Play.Chain
import Gamebook.Proofs.Json.Lexing
import Gamebook.Proofs.Json.RoundTrip
import Gamebook.Proofs.Disk.ReadBack
import Gamebook.Proofs.PageId.Written
import Gamebook.Proofs.SortedMap
import Gamebook.Proofs.Value.Range
import Gamebook.Proofs.Play.DataForm
import Gamebook.Proofs.Cli.SavedGame
import Gamebook.Proofs.Story.Export
import Gamebook.Proofs.Text.LineEnd
import Gamebook.Proofs.Markup.LineEnd
import Gamebook.Proofs.Conditional.LineEnd
import Gamebook.Proofs.Play.LineEnd
import Gamebook.Proofs.Page.ChoiceLine
import Gamebook.Proofs.Story.Source
import Gamebook.Proofs.Json.Natural
import Gamebook.Proofs.Json.Record
import Gamebook.Proofs.Story.Manifest
import Gamebook.Proofs.Story.Files
import Gamebook.Proofs.Story.Loading
import Gamebook.Proofs.Play.Restore
import Gamebook.Proofs.Asset.Fragment
import Gamebook.Proofs.Html.Change
import Gamebook.Proofs.Html.ChangeFormatting
import Gamebook.Proofs.Html.Placing
import Gamebook.Proofs.Html.Sanitizing
import Gamebook.Proofs.Html.StoryToken
import Gamebook.Proofs.Graph.Journey
import Gamebook.Proofs.Graph.Check
import Gamebook.Proofs.Conditional.Head
import Gamebook.Proofs.Conditional.Sublist
import Gamebook.Proofs.Directive.Pass
import Gamebook.Proofs.Directive.Listing
import Gamebook.Proofs.Directive.Span
import Gamebook.Proofs.Play.Shown
import Gamebook.Proofs.Asset.Reread
import Gamebook.Proofs.Play.Sanitized
import Gamebook.Proofs.Text.Caseless
import Gamebook.Proofs.Conditional.Bracket
import Gamebook.Proofs.Conditional.Residue
import Gamebook.Proofs.Page.Inside
import Gamebook.Proofs.Play.Hidden
import Gamebook.Proofs.Page.Prose
import Gamebook.Proofs.Graph.Blocks
import Gamebook.Proofs.Disk.Elsewhere
import Gamebook.Proofs.Cli.Agent
import Gamebook.Proofs.Html.Behind
import Gamebook.Proofs.Html.MediaTag
import Gamebook.Proofs.Markup.Styled
import Gamebook.Proofs.Markup.Media
import Gamebook.Proofs.Asset.Placed
import Gamebook.Proofs.Asset.LeftOut
import Gamebook.Proofs.Graph.MissingAssets
import Gamebook.Proofs.Story.Stable
import Gamebook.Proofs.Story.Whole
import Gamebook.Proofs.Story.Record
import Gamebook.Proofs.Play.InPlace
import Gamebook.Proofs.Play.Offered
import Gamebook.Proofs.Conditional.Partner
import Gamebook.Proofs.Conditional.Lossless
import Gamebook.Proofs.Conditional.Matching
import Gamebook.Proofs.Conditional.Rewriting
import Gamebook.Proofs.Terminal.Prompt
import Gamebook.Proofs.Terminal.Ending
import Gamebook.Proofs.Terminal.Current
import Gamebook.Proofs.PageId.Descendants
import Gamebook.Proofs.Graph.Subtree
import Gamebook.Proofs.Graph.Copy
import Gamebook.Proofs.Graph.Closure
import Gamebook.Proofs.PageId.Spelling
import Gamebook.Proofs.Page.Wording
import Gamebook.Proofs.Markup.Typography
import Gamebook.Proofs.Asset.Displayed
import Gamebook.Proofs.Play.Fitting
import Gamebook.Proofs.Play.Literal
import Gamebook.Proofs.Replay.Plays
import Gamebook.Proofs.Markup.Groups
import Gamebook.Proofs.Directive.ReadingOrder
import Gamebook.Proofs.Terminal.Flattened
import Gamebook.Proofs.Markup.Italics
import Gamebook.Proofs.Cli.Printed
import Gamebook.Proofs.Directive.Amount
