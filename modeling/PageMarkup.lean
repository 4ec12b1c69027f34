import PageMarkup.Attempt
import PageMarkup.Datum
import PageMarkup.Datum.Decode
import PageMarkup.Datum.Encode
import PageMarkup.Datum.Json
import PageMarkup.Datum.Members
import PageMarkup.Fault
import PageMarkup.Function.Basic
import PageMarkup.Function.Conversion
import PageMarkup.Function.Render
import PageMarkup.Hook.Listed
import PageMarkup.Hook.Table
import PageMarkup.Keyed
import PageMarkup.Link.Basic
import PageMarkup.Link.Conversion
import PageMarkup.Link.Render
import PageMarkup.Matching
import PageMarkup.Node
import PageMarkup.Page.Basic
import PageMarkup.Page.Nodes
import PageMarkup.Page.Replacement
import PageMarkup.Param.Basic
import PageMarkup.Param.Table
import PageMarkup.Proofs.Function.Calling
import PageMarkup.Proofs.Function.Head
import PageMarkup.Proofs.Function.Subsequence
import PageMarkup.Proofs.Hook.Grammar
import PageMarkup.Proofs.Hook.Reading
import PageMarkup.Proofs.Keyed
import PageMarkup.Proofs.Link.Apart
import PageMarkup.Proofs.Node.Attempts
import PageMarkup.Proofs.Node.Conversions
import PageMarkup.Proofs.Node.ConvertedTitles
import PageMarkup.Proofs.Node.Detour
import PageMarkup.Proofs.Node.Edits
import PageMarkup.Proofs.Node.GivenTitles
import PageMarkup.Proofs.Node.Lineage
import PageMarkup.Proofs.Node.Made
import PageMarkup.Proofs.Node.NewTitles
import PageMarkup.Proofs.Node.RememberedTitles
import PageMarkup.Proofs.Outcome
import PageMarkup.Proofs.Page.Asking
import PageMarkup.Proofs.Page.BraceRoundTrip
import PageMarkup.Proofs.Page.Classification
import PageMarkup.Proofs.Page.LinkNesting
import PageMarkup.Proofs.Page.LinkRoundTrip
import PageMarkup.Proofs.Page.Rewriting
import PageMarkup.Proofs.Page.SpanForest
import PageMarkup.Proofs.Param.Arguments
import PageMarkup.Proofs.Param.Chains
import PageMarkup.Proofs.Param.Commuting
import PageMarkup.Proofs.Param.Consistent
import PageMarkup.Proofs.Param.Counting
import PageMarkup.Proofs.Param.Edits
import PageMarkup.Proofs.Param.Fits
import PageMarkup.Proofs.Param.FreeKey
import PageMarkup.Proofs.Param.Insertions
import PageMarkup.Proofs.Param.Keys
import PageMarkup.Proofs.Param.Leading
import PageMarkup.Proofs.Param.Numbering
import PageMarkup.Proofs.Param.Order
import PageMarkup.Proofs.Param.Placement
import PageMarkup.Proofs.Param.Register
import PageMarkup.Proofs.Param.Repeating
import PageMarkup.Proofs.Param.Rivals
import PageMarkup.Proofs.Param.Seeds
import PageMarkup.Proofs.Param.Sources
import PageMarkup.Proofs.Param.Stepwise
import PageMarkup.Proofs.Param.Summary
import PageMarkup.Proofs.RawTitle
import PageMarkup.Proofs.Reported
import PageMarkup.Proofs.Scan.Braces
import PageMarkup.Proofs.Scan.Comments
import PageMarkup.Proofs.Scan.Cut
import PageMarkup.Proofs.Scan.Faithful
import PageMarkup.Proofs.Scan.Frame
import PageMarkup.Proofs.Scan.Rejoining
import PageMarkup.Proofs.Scan.Stripping
import PageMarkup.Proofs.Scan.TopLevel
import PageMarkup.Proofs.Scan.Unmarked
import PageMarkup.Proofs.Site.Formats
import PageMarkup.Proofs.Site.Names
import PageMarkup.Proofs.Slots.Stepwise
import PageMarkup.Proofs.Slots.View
import PageMarkup.Proofs.Template.Lead
import PageMarkup.Proofs.Template.LocalEdits
import PageMarkup.Proofs.Template.Rereading
import PageMarkup.Proofs.Template.TitleText
import PageMarkup.Proofs.Text.Digits
import PageMarkup.Proofs.Text.Letters
import PageMarkup.Proofs.Text.Respelled
import PageMarkup.Proofs.Text.Search
import PageMarkup.Proofs.Text.Spacing
import PageMarkup.Proofs.Text.Trim
import PageMarkup.Proofs.Text.Variants
import PageMarkup.Proofs.Title.Acceptance
import PageMarkup.Proofs.Title.Check
import PageMarkup.Proofs.Title.KnownLead
import PageMarkup.Proofs.Title.Length
import PageMarkup.Proofs.Title.Names
import PageMarkup.Proofs.Title.NormalForm
import PageMarkup.Proofs.Title.Places
import PageMarkup.Proofs.Title.ReadBack
import PageMarkup.Proofs.Title.Reading
import PageMarkup.Proofs.Title.Rendered
import PageMarkup.Proofs.Title.SameBody
import PageMarkup.Proofs.Title.Tidy
import PageMarkup.Record
import PageMarkup.Report.Changes
import PageMarkup.Report.Layout
import PageMarkup.Report.Matching
import PageMarkup.Report.Mismatch
import PageMarkup.Scan.Board
import PageMarkup.Scan.Cut
import PageMarkup.Scan.Markup
import PageMarkup.Scan.Names
import PageMarkup.Scan.Passes
import PageMarkup.Scan.Result
import PageMarkup.Site.Basic
import PageMarkup.Site.Description
import PageMarkup.Slots
import PageMarkup.Template.Basic
import PageMarkup.Template.Render
import PageMarkup.Text.Basic
import PageMarkup.Text.Blank
import PageMarkup.Text.Case
import PageMarkup.Text.CaseFold
import PageMarkup.Text.CaseTable
import PageMarkup.Text.CellTable
import PageMarkup.Text.CellWidth
import PageMarkup.Text.Digit
import PageMarkup.Text.Direction
import PageMarkup.Text.Lines
import PageMarkup.Text.Numeral
import PageMarkup.Text.Pattern
import PageMarkup.Text.Printable
import PageMarkup.Text.Quoted
import PageMarkup.Title.Basic
import PageMarkup.Title.Check
import PageMarkup.Title.Read
import PageMarkup.Value
