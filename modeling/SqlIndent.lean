import SqlIndent.Buffer
import SqlIndent.Command.Arguments
import SqlIndent.Command.Run
import SqlIndent.Config
import SqlIndent.Config.Lookup
import SqlIndent.Discovery
import SqlIndent.Document
import SqlIndent.Document.Json
import SqlIndent.Error
import SqlIndent.FileTree
import SqlIndent.Glob
import SqlIndent.Keyword.Basic
import SqlIndent.Keyword.Builtin
import SqlIndent.Keyword.WordSet
import SqlIndent.Layout
import SqlIndent.Main
import SqlIndent.Path
import SqlIndent.Resolution
import SqlIndent.Session
import SqlIndent.Span
import SqlIndent.Span.Lexeme
import SqlIndent.Span.Literal
import SqlIndent.Text.Basic
import SqlIndent.Text.Blank
import SqlIndent.Text.Upper
import SqlIndent.Text.WordChar
import SqlIndent.Toml.Filler
import SqlIndent.Toml.Parser
import SqlIndent.Toml.Quoted
import SqlIndent.Toml.Scalar
import SqlIndent.Toml.Table
import SqlIndent.Toml.Value
import SqlIndent.Toml.Written
import SqlIndent.Proofs.Span.Grammar
import SqlIndent.Proofs.Span.Neighbours
import SqlIndent.Proofs.Buffer
import SqlIndent.Proofs.Layout.Gaps
import SqlIndent.Proofs.Layout.Recut
import SqlIndent.Proofs.Layout.Reattached
import SqlIndent.Proofs.Layout.Tokens
import SqlIndent.Proofs.Layout.Passes
import SqlIndent.Proofs.Layout.Literals
import SqlIndent.Proofs.Layout.Respacing
import SqlIndent.Proofs.Layout.Casing
import SqlIndent.Proofs.Span.Lexing
import SqlIndent.Proofs.Toml.Strings
import SqlIndent.Proofs.Toml.Documents
import SqlIndent.Proofs.Keyword.Canonical
import SqlIndent.Proofs.FileTree
import SqlIndent.Proofs.Config
import SqlIndent.Proofs.Discovery
import SqlIndent.Proofs.Discovery.Shown
import SqlIndent.Proofs.Command.Formatting
import SqlIndent.Proofs.Command.Checking
import SqlIndent.Proofs.Document.Positions
import SqlIndent.Proofs.Document.Reading
import SqlIndent.Proofs.Command.Delivery
import SqlIndent.Proofs.Session
import SqlIndent.Proofs.Span.LineEnds
import SqlIndent.Proofs.Layout.BlankSpans
import SqlIndent.Proofs.Layout.Levels
import SqlIndent.Proofs.Buffer.BlankEdits
import SqlIndent.Proofs.Keyword.Lookup
import SqlIndent.Proofs.Path
import SqlIndent.Proofs.Glob
import SqlIndent.Proofs.Discovery.Beginnings
import SqlIndent.Proofs.Discovery.Exact
