import JapaneseSpacing.Character
import JapaneseSpacing.Command.Arguments
import JapaneseSpacing.Command.Request
import JapaneseSpacing.Command.Run
import JapaneseSpacing.Data.Validated
import JapaneseSpacing.Data.Value
import JapaneseSpacing.Document.FrontMatter
import JapaneseSpacing.Document.Node
import JapaneseSpacing.Files.Disk
import JapaneseSpacing.Files.Path
import JapaneseSpacing.Files.Selection
import JapaneseSpacing.Files.Tree
import JapaneseSpacing.HalfWidth.Address
import JapaneseSpacing.HalfWidth.Core
import JapaneseSpacing.Lint.Markdown
import JapaneseSpacing.Lint.Message
import JapaneseSpacing.Lint.Message.Validation
import JapaneseSpacing.Lint.Notes
import JapaneseSpacing.Lint.Rule
import JapaneseSpacing.Lint.Settings
import JapaneseSpacing.Lint.Settings.Loading
import JapaneseSpacing.Lint.Settings.Validation
import JapaneseSpacing.Log
import JapaneseSpacing.Main
import JapaneseSpacing.Markdown.Block.Container
import JapaneseSpacing.Markdown.Block.Context
import JapaneseSpacing.Markdown.Block.Definition
import JapaneseSpacing.Markdown.Block.Document
import JapaneseSpacing.Markdown.Block.Leaf
import JapaneseSpacing.Markdown.Block.Start
import JapaneseSpacing.Markdown.Block.Table
import JapaneseSpacing.Markdown.Character
import JapaneseSpacing.Markdown.Document
import JapaneseSpacing.Markdown.EmailLink
import JapaneseSpacing.Markdown.Entity
import JapaneseSpacing.Markdown.Entity.Table
import JapaneseSpacing.Markdown.HtmlTag
import JapaneseSpacing.Markdown.Inline.Content
import JapaneseSpacing.Markdown.Inline.Delimiter
import JapaneseSpacing.Markdown.Inline.Scan
import JapaneseSpacing.Markdown.Label
import JapaneseSpacing.Markdown.Line
import JapaneseSpacing.Markdown.Pattern
import JapaneseSpacing.Markdown.PlainLink
import JapaneseSpacing.Markdown.ShownAddress
import JapaneseSpacing.Markdown.Target
import JapaneseSpacing.Markdown.Token
import JapaneseSpacing.Markdown.WebAddress
import JapaneseSpacing.Markdown.WebAddress.Search
import JapaneseSpacing.Proofs.HalfWidth.Parts
import JapaneseSpacing.Proofs.HalfWidth.Run
import JapaneseSpacing.Proofs.Text.Stretch
import JapaneseSpacing.Proofs.Spacing.Context
import JapaneseSpacing.Proofs.Spacing.Fix
import JapaneseSpacing.Report.Csv
import JapaneseSpacing.Report.Format
import JapaneseSpacing.Report.Json
import JapaneseSpacing.Report.JsonText
import JapaneseSpacing.Report.Stylish
import JapaneseSpacing.Source.Bracket
import JapaneseSpacing.Source.Lines
import JapaneseSpacing.Source.Offsets
import JapaneseSpacing.Source.Tree
import JapaneseSpacing.Spacing.Boundary
import JapaneseSpacing.Spacing.Link
import JapaneseSpacing.Spacing.Violation
import JapaneseSpacing.Text.Basic
import JapaneseSpacing.Text.Blank
import JapaneseSpacing.Text.CaseMap
import JapaneseSpacing.Text.CaseMap.Table
import JapaneseSpacing.Text.CodePointSet
import JapaneseSpacing.Text.Line
import JapaneseSpacing.Text.PercentEncoding
import JapaneseSpacing.Text.Printable
import JapaneseSpacing.Text.Punctuation
import JapaneseSpacing.Text.Punycode
import JapaneseSpacing.Text.Quoted
import JapaneseSpacing.Text.Separator
import JapaneseSpacing.Text.Utf8
import JapaneseSpacing.Yaml.Character
import JapaneseSpacing.Yaml.Document
import JapaneseSpacing.Yaml.Layout
import JapaneseSpacing.Yaml.Node
import JapaneseSpacing.Yaml.Scalar.Block
import JapaneseSpacing.Yaml.Scalar.Quoted
import JapaneseSpacing.Yaml.Scalar.Typed
import JapaneseSpacing.Yaml.Scalar.Unquoted
import JapaneseSpacing.Yaml.Token
import JapaneseSpacing.Proofs.Spacing.Settled
import JapaneseSpacing.Proofs.HalfWidth.Token
import JapaneseSpacing.Proofs.HalfWidth.Extraction
import JapaneseSpacing.Proofs.HalfWidth.Address
import JapaneseSpacing.Proofs.Spacing.Link
import JapaneseSpacing.Proofs.Spacing.BareAddress
import JapaneseSpacing.Proofs.Spacing.AllFixes
import JapaneseSpacing.Proofs.Source.Bracket
import JapaneseSpacing.Proofs.Source.LinkEnd
import JapaneseSpacing.Proofs.Source.Reading
import JapaneseSpacing.Proofs.Text.Lines
import JapaneseSpacing.Proofs.Text.Occurrence
import JapaneseSpacing.Proofs.Source.Locate
import JapaneseSpacing.Proofs.Source.InlineTree
import JapaneseSpacing.Proofs.Source.CodeSpan
import JapaneseSpacing.Proofs.Source.Walk
import JapaneseSpacing.Proofs.Source.TreeWalk
import JapaneseSpacing.Proofs.Source.Relocation
import JapaneseSpacing.Proofs.Source.Unlocated
import JapaneseSpacing.Proofs.Markdown.WrittenEmail
import JapaneseSpacing.Proofs.Markdown.EmailLine
import JapaneseSpacing.Proofs.Source.Paragraph
import JapaneseSpacing.Proofs.Lint.EmailLine
import JapaneseSpacing.Proofs.Document.FrontMatter
import JapaneseSpacing.Proofs.Command.Configuration
import JapaneseSpacing.Proofs.Spacing.SeparatedLink
import JapaneseSpacing.Proofs.Spacing.Convention
import JapaneseSpacing.Proofs.Spacing.Locality
import JapaneseSpacing.Proofs.Text.Position
import JapaneseSpacing.Proofs.Document.Walk
import JapaneseSpacing.Proofs.Spacing.Fixable
import JapaneseSpacing.Proofs.Lint.Placement
import JapaneseSpacing.Proofs.Lint.Translation
import JapaneseSpacing.Proofs.Source.Search
import JapaneseSpacing.Proofs.Source.Floor
import JapaneseSpacing.Proofs.Source.OffsetMap
import JapaneseSpacing.Proofs.Source.Session
import JapaneseSpacing.Proofs.Report.Steps
import JapaneseSpacing.Proofs.Report.Csv
import JapaneseSpacing.Proofs.Report.JsonReader
import JapaneseSpacing.Proofs.Report.JsonTokens
import JapaneseSpacing.Proofs.Report.JsonData
import JapaneseSpacing.Proofs.Report.Json
import JapaneseSpacing.Proofs.Report.Ending
import JapaneseSpacing.Proofs.Files.Disk
import JapaneseSpacing.Proofs.Command.Delivery
import JapaneseSpacing.Proofs.Command.Verdict
import JapaneseSpacing.Proofs.Text.OnLine
import JapaneseSpacing.Proofs.Source.TextNodes
import JapaneseSpacing.Proofs.Source.Faithful
import JapaneseSpacing.Proofs.HalfWidth.LongestAddress
import JapaneseSpacing.Proofs.Spacing.SettledLink
import JapaneseSpacing.Proofs.Markdown.EmailLink
import JapaneseSpacing.Proofs.Source.OpenTokens
import JapaneseSpacing.Proofs.Source.BlockStack
import JapaneseSpacing.Proofs.Source.BlockStructure
import JapaneseSpacing.Proofs.Lint.SkippedNodes
import JapaneseSpacing.Proofs.Text.LineEnd
import JapaneseSpacing.Proofs.Lint.Preparation
import JapaneseSpacing.Proofs.Text.LineColumn
import JapaneseSpacing.Proofs.Text.Decimal
import JapaneseSpacing.Proofs.Spacing.Wording
import JapaneseSpacing.Proofs.Report.Stylish
import JapaneseSpacing.Proofs.Source.WholeLines
import JapaneseSpacing.Proofs.Source.BracketScan
import JapaneseSpacing.Proofs.Files.Listing
import JapaneseSpacing.Proofs.Files.Selection
import JapaneseSpacing.Proofs.HalfWidth.EmailPattern
import JapaneseSpacing.Proofs.Document.FrontMatterPattern
import JapaneseSpacing.Proofs.Report.JsonForm
import JapaneseSpacing.Proofs.Source.Contents
