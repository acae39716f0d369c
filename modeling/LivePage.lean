import LivePage.Build
import LivePage.CommandLine.Request
import LivePage.CommandLine.Run
import LivePage.Config
import LivePage.Files.Change
import LivePage.Files.Glob
import LivePage.Files.Path
import LivePage.Files.Tree
import LivePage.Log
import LivePage.Main
import LivePage.Number.Double
import LivePage.Number.Reading
import LivePage.Number.Shortest
import LivePage.Page.Command
import LivePage.Page.Compile
import LivePage.Page.Document
import LivePage.Page.Element
import LivePage.Page.Notice
import LivePage.Page.Session
import LivePage.Proofs.Build
import LivePage.Proofs.Build.Fold
import LivePage.Proofs.Build.Order
import LivePage.Proofs.CommandLine.Once
import LivePage.Proofs.Config.Acceptance
import LivePage.Proofs.Config.Debounce
import LivePage.Proofs.Files.Tree
import LivePage.Proofs.Number.Reading
import LivePage.Proofs.Page.Alignment
import LivePage.Proofs.Page.Attributes
import LivePage.Proofs.Page.Balance
import LivePage.Proofs.Page.Comment
import LivePage.Proofs.Page.Effect
import LivePage.Proofs.Page.Forest
import LivePage.Proofs.Page.Frame
import LivePage.Proofs.Page.Invocation
import LivePage.Proofs.Page.Layout
import LivePage.Proofs.Page.Listener
import LivePage.Proofs.Page.Literal
import LivePage.Proofs.Page.Numbering
import LivePage.Proofs.Page.Opening
import LivePage.Proofs.Page.Reference
import LivePage.Proofs.Page.Run
import LivePage.Proofs.Page.Scripts
import LivePage.Proofs.Page.Style
import LivePage.Proofs.Script.Qualify
import LivePage.Proofs.Source.Arguments
import LivePage.Proofs.Source.Brace
import LivePage.Proofs.Source.Normal
import LivePage.Proofs.Source.Pairing
import LivePage.Proofs.Source.Piece
import LivePage.Proofs.Source.Quote
import LivePage.Proofs.Source.Reading
import LivePage.Proofs.Source.Tokens
import LivePage.Proofs.Source.Unfolding
import LivePage.Proofs.Table
import LivePage.Proofs.Text.Basic
import LivePage.Proofs.Watch.Burst
import LivePage.Proofs.Watch.Debouncer
import LivePage.Proofs.Watch.Feedback
import LivePage.Proofs.Watch.Overlap
import LivePage.Proofs.Watch.Sight
import LivePage.Proofs.Watch.Watcher
import LivePage.Proofs.Watch.Workspace
import LivePage.Proofs.Yaml.Hexadecimal
import LivePage.Proofs.Yaml.Writable
import LivePage.Script
import LivePage.Source.Arguments
import LivePage.Source.Glyph
import LivePage.Source.Line
import LivePage.Source.Logical
import LivePage.Source.Token
import LivePage.Table
import LivePage.Text.Basic
import LivePage.Text.Digit
import LivePage.Text.Printable
import LivePage.Text.Quoted
import LivePage.Text.Raw
import LivePage.Text.Utf8
import LivePage.Text.Word
import LivePage.Watch.Debouncer
import LivePage.Watch.Handler
import LivePage.Watch.Watcher
import LivePage.Watch.Workspace
import LivePage.Yaml.Cursor
import LivePage.Yaml.Load
import LivePage.Yaml.Node
import LivePage.Yaml.Plain
import LivePage.Yaml.Scalar
import LivePage.Yaml.Token
import LivePage.Yaml.Value
