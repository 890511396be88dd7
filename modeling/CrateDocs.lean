import CrateDocs.Charset.Basic
import CrateDocs.Charset.Big5
import CrateDocs.Charset.Chinese
import CrateDocs.Charset.Escape
import CrateDocs.Charset.Gbk
import CrateDocs.Charset.Hkscs
import CrateDocs.Charset.Iso
import CrateDocs.Charset.Japanese
import CrateDocs.Charset.JisX0208
import CrateDocs.Charset.JisX0212
import CrateDocs.Charset.JisX0213
import CrateDocs.Charset.Korean
import CrateDocs.Charset.KsX1001
import CrateDocs.Charset.Name
import CrateDocs.Charset.Page
import CrateDocs.Charset.Punycode
import CrateDocs.Charset.Reader
import CrateDocs.Charset.Regional
import CrateDocs.Charset.Switched
import CrateDocs.Charset.Systems
import CrateDocs.Charset.Table
import CrateDocs.Charset.Unicode
import CrateDocs.Checked
import CrateDocs.Cli.Flag
import CrateDocs.Cli.Options
import CrateDocs.Cli.Screen
import CrateDocs.Cli.Session
import CrateDocs.Cli.Usage
import CrateDocs.Decimal.Binary
import CrateDocs.Decimal.Nearest
import CrateDocs.Decimal.Numeral
import CrateDocs.Decimal.Shortest
import CrateDocs.Doc.Basic
import CrateDocs.Files
import CrateDocs.Index.Basic
import CrateDocs.Index.Decode
import CrateDocs.Index.Error
import CrateDocs.Index.Hit
import CrateDocs.Index.Load
import CrateDocs.Index.Package
import CrateDocs.Index.Schema
import CrateDocs.Index.Wrapper
import CrateDocs.Item.Anchor
import CrateDocs.Item.Kind
import CrateDocs.Item.Name
import CrateDocs.Json.Parser
import CrateDocs.Json.Value
import CrateDocs.Link.Resolve
import CrateDocs.Link.Scheme
import CrateDocs.Log
import CrateDocs.Main
import CrateDocs.Markup.CharRef
import CrateDocs.Markup.CharRefTable
import CrateDocs.Markup.Encoding
import CrateDocs.Markup.Node
import CrateDocs.Markup.Place
import CrateDocs.Markup.Printer
import CrateDocs.Markup.Token
import CrateDocs.Markup.Token.Lexer
import CrateDocs.Markup.Token.Tag
import CrateDocs.Markup.Tree
import CrateDocs.Markup.Visible
import CrateDocs.Order
import CrateDocs.Page.Basic
import CrateDocs.Page.Examples
import CrateDocs.Page.Heading
import CrateDocs.Page.Implementations
import CrateDocs.Page.Item
import CrateDocs.Page.Listing
import CrateDocs.Page.Lookup
import CrateDocs.Page.Members
import CrateDocs.Page.Module
import CrateDocs.Path
import CrateDocs.Plan
import CrateDocs.Proofs.Cli.Choice
import CrateDocs.Proofs.Cli.Session
import CrateDocs.Proofs.Decimal.Order
import CrateDocs.Proofs.Doc.Added
import CrateDocs.Proofs.Doc.Groups
import CrateDocs.Proofs.Except
import CrateDocs.Proofs.Index.Columns
import CrateDocs.Proofs.Index.Content
import CrateDocs.Proofs.Index.Decode
import CrateDocs.Proofs.Index.Forms
import CrateDocs.Proofs.Index.Load
import CrateDocs.Proofs.Index.Quoted
import CrateDocs.Proofs.Index.Respelled
import CrateDocs.Proofs.Index.Search
import CrateDocs.Proofs.Index.Wrapper
import CrateDocs.Proofs.Index.Written
import CrateDocs.Proofs.Item.Anchor
import CrateDocs.Proofs.Item.Name
import CrateDocs.Proofs.Json.Ending
import CrateDocs.Proofs.Json.Limits
import CrateDocs.Proofs.Link.Detour
import CrateDocs.Proofs.Link.Outcome
import CrateDocs.Proofs.Link.Relative
import CrateDocs.Proofs.Link.Scheme
import CrateDocs.Proofs.Link.Step
import CrateDocs.Proofs.Markup.Edited
import CrateDocs.Proofs.Markup.Order
import CrateDocs.Proofs.Markup.Parsed
import CrateDocs.Proofs.Markup.Place
import CrateDocs.Proofs.Markup.Shape
import CrateDocs.Proofs.Markup.Visible
import CrateDocs.Proofs.Order
import CrateDocs.Proofs.Page.Beside
import CrateDocs.Proofs.Page.Blocks
import CrateDocs.Proofs.Page.Description
import CrateDocs.Proofs.Page.Documented
import CrateDocs.Proofs.Page.Folded
import CrateDocs.Proofs.Page.Fragment
import CrateDocs.Proofs.Page.Implementations
import CrateDocs.Proofs.Page.Inherent
import CrateDocs.Proofs.Page.Item
import CrateDocs.Proofs.Page.Listing
import CrateDocs.Proofs.Page.Located
import CrateDocs.Proofs.Page.Lookup
import CrateDocs.Proofs.Page.Member
import CrateDocs.Proofs.Page.Module
import CrateDocs.Proofs.Page.Parts
import CrateDocs.Proofs.Page.WellFormed
import CrateDocs.Proofs.Plan
import CrateDocs.Proofs.Selector.Attribute
import CrateDocs.Proofs.Selector.Broken
import CrateDocs.Proofs.Selector.Quoted
import CrateDocs.Proofs.Source.Find
import CrateDocs.Proofs.Source.Member
import CrateDocs.Proofs.Source.Precedence
import CrateDocs.Proofs.Source.Run
import CrateDocs.Proofs.Source.Search
import CrateDocs.Proofs.Source.Suggest
import CrateDocs.Proofs.Suggest.Grouped
import CrateDocs.Proofs.Suggest.Rank
import CrateDocs.Proofs.Text.Lines
import CrateDocs.Proofs.Text.Split
import CrateDocs.Proofs.Text.Width
import CrateDocs.Proofs.View.Blocks
import CrateDocs.Proofs.View.Cells
import CrateDocs.Proofs.View.Lines
import CrateDocs.Proofs.View.Rendition
import CrateDocs.Proofs.View.Title
import CrateDocs.Proofs.View.Wrap
import CrateDocs.Record
import CrateDocs.Selector.Basic
import CrateDocs.Selector.Direction
import CrateDocs.Selector.Escape
import CrateDocs.Selector.Fault
import CrateDocs.Selector.Forms
import CrateDocs.Selector.Frame
import CrateDocs.Selector.Language
import CrateDocs.Selector.Match
import CrateDocs.Selector.Parser
import CrateDocs.Selector.Range
import CrateDocs.Selector.Token
import CrateDocs.Settings.Basic
import CrateDocs.Settings.Environment
import CrateDocs.Settings.Read
import CrateDocs.Source.Basic
import CrateDocs.Source.Crate
import CrateDocs.Suggest.Grouped
import CrateDocs.Suggest.Rank
import CrateDocs.Suggest.Similarity
import CrateDocs.Text.Blank
import CrateDocs.Text.Case
import CrateDocs.Text.CharSet
import CrateDocs.Text.Compose
import CrateDocs.Text.ComposeTable
import CrateDocs.Text.Cursor
import CrateDocs.Text.Digit
import CrateDocs.Text.Direction
import CrateDocs.Text.Fill
import CrateDocs.Text.Letter
import CrateDocs.Text.Lines
import CrateDocs.Text.Numeral
import CrateDocs.Text.Pattern
import CrateDocs.Text.Quoted
import CrateDocs.Text.Split
import CrateDocs.Text.Surrogate
import CrateDocs.Text.Utf8
import CrateDocs.Text.Width
import CrateDocs.Toml.Document
import CrateDocs.Toml.Fault
import CrateDocs.Toml.Parser
import CrateDocs.Toml.Printer
import CrateDocs.Toml.Scalar
import CrateDocs.Toml.Value
import CrateDocs.Toolchain
import CrateDocs.Traced
import CrateDocs.View.Block
import CrateDocs.View.Lexeme
import CrateDocs.View.Render
import CrateDocs.View.Viewer
import CrateDocs.View.Wrap
