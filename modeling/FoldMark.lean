import FoldMark.Calendar
import FoldMark.CommandLine
import FoldMark.CommandLine.Run
import FoldMark.CommandLine.Word
import FoldMark.Conversion
import FoldMark.Extensions
import FoldMark.Fault
import FoldMark.Fields
import FoldMark.FrontMatter
import FoldMark.FrontMatter.Line
import FoldMark.FrontMatter.Metadata
import FoldMark.Json.Reader
import FoldMark.Json.Writer
import FoldMark.Main
import FoldMark.Markdown.Block
import FoldMark.Markdown.Block.Interrupt
import FoldMark.Markdown.Block.Start
import FoldMark.Markdown.Block.Table
import FoldMark.Markdown.Character
import FoldMark.Markdown.Definition
import FoldMark.Markdown.Document
import FoldMark.Markdown.Emoji
import FoldMark.Markdown.Emoji.Table
import FoldMark.Markdown.Entity
import FoldMark.Markdown.Entity.Table
import FoldMark.Markdown.Footnote
import FoldMark.Markdown.HeadingAttributes
import FoldMark.Markdown.HtmlTag
import FoldMark.Markdown.Inline
import FoldMark.Markdown.Inline.Construct
import FoldMark.Markdown.Inline.Delimiter
import FoldMark.Markdown.Line
import FoldMark.Markdown.LinkParts
import FoldMark.Markdown.Render
import FoldMark.Markdown.TaskList
import FoldMark.Markdown.Token
import FoldMark.Markdown.Typography
import FoldMark.Markdown.Url
import FoldMark.Number.Literal
import FoldMark.Number.Reader
import FoldMark.Number.Shortest
import FoldMark.Outline
import FoldMark.Page
import FoldMark.Page.File
import FoldMark.Path
import FoldMark.Payload
import FoldMark.Proofs.Chain
import FoldMark.Proofs.CommandLine.Convert
import FoldMark.Proofs.CommandLine.OutputDirectory
import FoldMark.Proofs.Conversion.Again
import FoldMark.Proofs.Conversion.Plan
import FoldMark.Proofs.Conversion.Run
import FoldMark.Proofs.Entries
import FoldMark.Proofs.FrontMatter.BareObject
import FoldMark.Proofs.FrontMatter.DefinitionFront
import FoldMark.Proofs.FrontMatter.Definitions
import FoldMark.Proofs.FrontMatter.Extent
import FoldMark.Proofs.FrontMatter.Fence
import FoldMark.Proofs.FrontMatter.Gap
import FoldMark.Proofs.FrontMatter.Grouping
import FoldMark.Proofs.FrontMatter.Metadata
import FoldMark.Proofs.FrontMatter.Object
import FoldMark.Proofs.FrontMatter.Spelling
import FoldMark.Proofs.Json.Grammar
import FoldMark.Proofs.Json.ReadBack
import FoldMark.Proofs.Json.Writing
import FoldMark.Proofs.Markdown.Advance
import FoldMark.Proofs.Markdown.AttributeBlock
import FoldMark.Proofs.Markdown.AttributeItems
import FoldMark.Proofs.Markdown.BlockSource
import FoldMark.Proofs.Markdown.CharacterReference
import FoldMark.Proofs.Markdown.Definition
import FoldMark.Proofs.Markdown.Finishing
import FoldMark.Proofs.Markdown.HeadingContent
import FoldMark.Proofs.Markdown.HeadingSource
import FoldMark.Proofs.Markdown.Joining
import FoldMark.Proofs.Markdown.LeadingBlank
import FoldMark.Proofs.Markdown.Lowered
import FoldMark.Proofs.Markdown.OneLine
import FoldMark.Proofs.Markdown.Pairing
import FoldMark.Proofs.Markdown.Progress
import FoldMark.Proofs.Markdown.Reading
import FoldMark.Proofs.Markdown.Repair
import FoldMark.Proofs.Markdown.Resolving
import FoldMark.Proofs.Markdown.RunningText
import FoldMark.Proofs.Markdown.Scanning
import FoldMark.Proofs.Markdown.TagSize
import FoldMark.Proofs.Markdown.Writing
import FoldMark.Proofs.Outline.Absorption
import FoldMark.Proofs.Outline.Flattening
import FoldMark.Proofs.Outline.Nesting
import FoldMark.Proofs.Outline.Ownership
import FoldMark.Proofs.Outline.Partition
import FoldMark.Proofs.Outline.Rewording
import FoldMark.Proofs.Outline.Splitting
import FoldMark.Proofs.Outline.Unwrap
import FoldMark.Proofs.Outline.Wrapping
import FoldMark.Proofs.Page.Contract
import FoldMark.Proofs.Page.Failure
import FoldMark.Proofs.Page.ReadBack
import FoldMark.Proofs.Page.References
import FoldMark.Proofs.Page.Resolution
import FoldMark.Proofs.Page.Transparency
import FoldMark.Proofs.Page.Writing
import FoldMark.Proofs.Path.Suffix
import FoldMark.Proofs.Selector.Spelling
import FoldMark.Proofs.Settings.Failure
import FoldMark.Proofs.Settings.Winner
import FoldMark.Proofs.Site.Agreement
import FoldMark.Proofs.Site.Containment
import FoldMark.Proofs.Site.Fallback
import FoldMark.Proofs.Site.Index
import FoldMark.Proofs.Site.Reduction
import FoldMark.Proofs.Site.Secrecy
import FoldMark.Proofs.Text.CodePoint
import FoldMark.Proofs.Text.Control
import FoldMark.Proofs.Text.Fronts
import FoldMark.Proofs.Text.LineEnds
import FoldMark.Proofs.Text.Marks
import FoldMark.Proofs.Text.Percent
import FoldMark.Proofs.Text.Pieces
import FoldMark.Proofs.Text.Utf8
import FoldMark.Proofs.Toml.Pruning
import FoldMark.Proofs.Toml.Unshared
import FoldMark.Proofs.Toml.Writing
import FoldMark.Proofs.Tree.Absolute
import FoldMark.Proofs.Tree.Change
import FoldMark.Proofs.Tree.Frame
import FoldMark.Proofs.Tree.Layout
import FoldMark.Proofs.Tree.LongNames
import FoldMark.Proofs.Tree.NullFree
import FoldMark.Proofs.Tree.Proper
import FoldMark.Proofs.Tree.ReadBack
import FoldMark.Proofs.Tree.Resolve
import FoldMark.Proofs.Tree.Walk
import FoldMark.Proofs.Value.All
import FoldMark.Proofs.Value.Settling
import FoldMark.Proofs.Yaml.Building
import FoldMark.Proofs.Yaml.ByForm
import FoldMark.Proofs.Yaml.Fault
import FoldMark.Proofs.Yaml.Progress
import FoldMark.Proofs.Yaml.Suited
import FoldMark.Proofs.Yaml.Untagged
import FoldMark.Proofs.Yaml.Untimed
import FoldMark.Proofs.Yaml.Writing
import FoldMark.Selector
import FoldMark.Selector.Fields
import FoldMark.Settings
import FoldMark.Settings.Source
import FoldMark.Site.Exchange
import FoldMark.Site.Request
import FoldMark.Site.Response
import FoldMark.Text.Base64
import FoldMark.Text.Blank
import FoldMark.Text.Case
import FoldMark.Text.Class
import FoldMark.Text.CodePoint
import FoldMark.Text.Control
import FoldMark.Text.Percent
import FoldMark.Text.Punycode
import FoldMark.Text.Quoted
import FoldMark.Text.Table.Case
import FoldMark.Text.Table.Compatibility
import FoldMark.Text.Table.Digit
import FoldMark.Text.Table.Punctuation
import FoldMark.Text.Table.Unprintable
import FoldMark.Text.Table.Word
import FoldMark.Text.Utf8
import FoldMark.Toml.Reader
import FoldMark.Toml.Scalar
import FoldMark.Toml.Table
import FoldMark.Toml.Text
import FoldMark.Toml.Writer
import FoldMark.Tree
import FoldMark.Tree.Change
import FoldMark.Tree.Resolve
import FoldMark.Value
import FoldMark.Value.Shown
import FoldMark.Yaml.BlockText
import FoldMark.Yaml.Cursor
import FoldMark.Yaml.Form
import FoldMark.Yaml.Layout
import FoldMark.Yaml.Merge
import FoldMark.Yaml.Node
import FoldMark.Yaml.PlainText
import FoldMark.Yaml.QuotedText
import FoldMark.Yaml.Reader
import FoldMark.Yaml.Scalar
import FoldMark.Yaml.Schema
import FoldMark.Yaml.TextStyle
import FoldMark.Yaml.Token
import FoldMark.Yaml.Writer
