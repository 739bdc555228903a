import JavaHome.Command.Invocation
import JavaHome.Command.Output
import JavaHome.Command.Run
import JavaHome.Command.Syntax
import JavaHome.Console
import JavaHome.Event
import JavaHome.Failure
import JavaHome.FileTree.Basic
import JavaHome.FileTree.Canonical
import JavaHome.FileTree.Lookup
import JavaHome.Host
import JavaHome.Installation.Archive
import JavaHome.Installation.Basic
import JavaHome.Installation.Discovery
import JavaHome.Installation.Executable
import JavaHome.Installation.Summary
import JavaHome.Json.Basic
import JavaHome.Json.Printer
import JavaHome.Machine
import JavaHome.Machine.Description
import JavaHome.Main
import JavaHome.Path.Basic
import JavaHome.Proofs.Command.Agreement
import JavaHome.Proofs.Command.Correspondence
import JavaHome.Proofs.Command.Executables
import JavaHome.Proofs.Command.Formats
import JavaHome.Proofs.Command.Isolation
import JavaHome.Proofs.Command.Lossless
import JavaHome.Proofs.Command.Reported
import JavaHome.Proofs.Command.Run
import JavaHome.Proofs.Command.Supplied
import JavaHome.Proofs.Command.Variables
import JavaHome.Proofs.Command.Words
import JavaHome.Proofs.Console
import JavaHome.Proofs.FileTree.Below
import JavaHome.Proofs.FileTree.Canonical
import JavaHome.Proofs.FileTree.Lookup
import JavaHome.Proofs.FileTree.Overlong
import JavaHome.Proofs.FileTree.Reach
import JavaHome.Proofs.Host
import JavaHome.Proofs.Host.Naming
import JavaHome.Proofs.Installation.Archive
import JavaHome.Proofs.Installation.Asserted
import JavaHome.Proofs.Installation.Containment
import JavaHome.Proofs.Installation.Enclosing
import JavaHome.Proofs.Installation.Evidence
import JavaHome.Proofs.Installation.Executable
import JavaHome.Proofs.Installation.Fallback
import JavaHome.Proofs.Installation.Home
import JavaHome.Proofs.Installation.Outcome
import JavaHome.Proofs.Installation.Relative
import JavaHome.Proofs.Installation.SearchPath
import JavaHome.Proofs.Installation.Spelling
import JavaHome.Proofs.Installation.Summary
import JavaHome.Proofs.Installation.Supplied
import JavaHome.Proofs.Json.Reader
import JavaHome.Proofs.Json.RoundTrip
import JavaHome.Proofs.LetterCase
import JavaHome.Proofs.Machine
import JavaHome.Proofs.Path.Below
import JavaHome.Proofs.Path.Text
import JavaHome.Proofs.Properties.Lines
import JavaHome.Proofs.Properties.Load
import JavaHome.Proofs.Terminal.Cells
import JavaHome.Proofs.Terminal.Emoji
import JavaHome.Proofs.Terminal.Fold
import JavaHome.Proofs.Terminal.Markup
import JavaHome.Proofs.Terminal.Table
import JavaHome.Proofs.Terminal.Wrap
import JavaHome.Proofs.Text.Fields
import JavaHome.Proofs.Text.Hex
import JavaHome.Proofs.Text.LowerCase
import JavaHome.Proofs.Text.Utf8
import JavaHome.Proofs.Vendor
import JavaHome.Proofs.Yaml.Document
import JavaHome.Proofs.Yaml.Lines
import JavaHome.Proofs.Yaml.Phrase
import JavaHome.Proofs.Yaml.Scalar
import JavaHome.Proofs.Yaml.Tokens
import JavaHome.Properties.Basic
import JavaHome.Properties.Error
import JavaHome.Properties.Load
import JavaHome.Terminal.CellTable
import JavaHome.Terminal.Cells
import JavaHome.Terminal.Control
import JavaHome.Terminal.Emoji
import JavaHome.Terminal.Emoji.NamesAb
import JavaHome.Terminal.Emoji.NamesC
import JavaHome.Terminal.Emoji.NamesDe
import JavaHome.Terminal.Emoji.NamesF
import JavaHome.Terminal.Emoji.NamesGh
import JavaHome.Terminal.Emoji.NamesIToL
import JavaHome.Terminal.Emoji.NamesM
import JavaHome.Terminal.Emoji.NamesNToO
import JavaHome.Terminal.Emoji.NamesPToQ
import JavaHome.Terminal.Emoji.NamesR
import JavaHome.Terminal.Emoji.NamesS
import JavaHome.Terminal.Emoji.NamesTToV
import JavaHome.Terminal.Emoji.NamesWToZ
import JavaHome.Terminal.Markup
import JavaHome.Terminal.Style
import JavaHome.Terminal.Table
import JavaHome.Terminal.Wrap
import JavaHome.Result
import JavaHome.Text.Blank
import JavaHome.Text.CaseTable
import JavaHome.Text.CodePoints
import JavaHome.Text.Digit
import JavaHome.Text.Fields
import JavaHome.Text.Hex
import JavaHome.Text.Lines
import JavaHome.Text.LowerCase
import JavaHome.Text.Printable
import JavaHome.Text.Quoted
import JavaHome.Text.Similarity
import JavaHome.Text.Utf8
import JavaHome.Vendor
import JavaHome.Yaml.BlockScalar
import JavaHome.Yaml.Cursor
import JavaHome.Yaml.Plain
import JavaHome.Yaml.QuotedScalar
import JavaHome.Yaml.Token
import JavaHome.Yaml.Tokens
import JavaHome.Yaml.Tree
import JavaHome.Yaml.Value
