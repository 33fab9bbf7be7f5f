import SqlSnippet.Calendar.Date
import SqlSnippet.Calendar.Moment
import SqlSnippet.Calendar.Month
import SqlSnippet.Calendar.Restyle
import SqlSnippet.Calendar.Style
import SqlSnippet.Chars.Blank
import SqlSnippet.Chars.Case
import SqlSnippet.Chars.Digit
import SqlSnippet.Chars.Letter
import SqlSnippet.Chars.Printable
import SqlSnippet.Chars.Ranges
import SqlSnippet.Chars.Word
import SqlSnippet.Clause.Basic
import SqlSnippet.Clause.Read
import SqlSnippet.Clause.Scan
import SqlSnippet.Command.Arguments
import SqlSnippet.Command.Confirm
import SqlSnippet.Command.Request
import SqlSnippet.Command.Run
import SqlSnippet.Command.Snippet
import SqlSnippet.Comment
import SqlSnippet.Console.Event
import SqlSnippet.Console.Markup
import SqlSnippet.Console.Plain
import SqlSnippet.Console.Refusal
import SqlSnippet.Console.Styled
import SqlSnippet.Edit.Event
import SqlSnippet.Edit.Snippet
import SqlSnippet.Edit.Substitution
import SqlSnippet.Editor.Control
import SqlSnippet.Editor.Listing
import SqlSnippet.Editor.Preview
import SqlSnippet.Editor.Session
import SqlSnippet.Files.Path
import SqlSnippet.Files.Storage
import SqlSnippet.Log
import SqlSnippet.Log.Loggers
import SqlSnippet.Log.Threshold
import SqlSnippet.Main
import SqlSnippet.Number.Binary64
import SqlSnippet.Number.Decimal
import SqlSnippet.Number.Rounding
import SqlSnippet.Number.Shortest
import SqlSnippet.Order
import SqlSnippet.Order.Halving
import SqlSnippet.Parameter
import SqlSnippet.Proofs.Acceptance
import SqlSnippet.Proofs.Assigning
import SqlSnippet.Proofs.Clauses
import SqlSnippet.Proofs.Commands
import SqlSnippet.Proofs.Commenting
import SqlSnippet.Proofs.Coverage
import SqlSnippet.Proofs.Crashes
import SqlSnippet.Proofs.Crossing
import SqlSnippet.Proofs.Cuts
import SqlSnippet.Proofs.Dates
import SqlSnippet.Proofs.Degradation
import SqlSnippet.Proofs.Doubling
import SqlSnippet.Proofs.Drift
import SqlSnippet.Proofs.Exchange
import SqlSnippet.Proofs.Failures
import SqlSnippet.Proofs.Grammar
import SqlSnippet.Proofs.Highlighting
import SqlSnippet.Proofs.Insertion
import SqlSnippet.Proofs.Interchange
import SqlSnippet.Proofs.Interruptions
import SqlSnippet.Proofs.LineOrder
import SqlSnippet.Proofs.Lines
import SqlSnippet.Proofs.Members
import SqlSnippet.Proofs.Merging
import SqlSnippet.Proofs.Numbering
import SqlSnippet.Proofs.Overlaying
import SqlSnippet.Proofs.Overwriting
import SqlSnippet.Proofs.Parts
import SqlSnippet.Proofs.Position
import SqlSnippet.Proofs.Quotes
import SqlSnippet.Proofs.Redetection
import SqlSnippet.Proofs.Refusals
import SqlSnippet.Proofs.Relisting
import SqlSnippet.Proofs.Respelling
import SqlSnippet.Proofs.Retention
import SqlSnippet.Proofs.Reverting
import SqlSnippet.Proofs.Rewriting
import SqlSnippet.Proofs.Rows
import SqlSnippet.Proofs.Saving
import SqlSnippet.Proofs.Scan
import SqlSnippet.Proofs.Sessions
import SqlSnippet.Proofs.Splice
import SqlSnippet.Proofs.Storing
import SqlSnippet.Proofs.Surroundings
import SqlSnippet.Proofs.Tables
import SqlSnippet.Proofs.Toggling
import SqlSnippet.Proofs.Unchanged
import SqlSnippet.Proofs.Values
import SqlSnippet.Settings.Basic
import SqlSnippet.Settings.Configuration
import SqlSnippet.Settings.Format
import SqlSnippet.Settings.Merge
import SqlSnippet.Settings.Path
import SqlSnippet.Settings.Scalar
import SqlSnippet.Settings.Sorted
import SqlSnippet.Text.Basic
import SqlSnippet.Text.CodePoint
import SqlSnippet.Text.Display
import SqlSnippet.Text.Hex
import SqlSnippet.Text.Json
import SqlSnippet.Text.Literal
import SqlSnippet.Text.Number
import SqlSnippet.Text.Search
import SqlSnippet.Text.Sequence
import SqlSnippet.Yaml.Chars
import SqlSnippet.Yaml.Layout
import SqlSnippet.Yaml.Load
import SqlSnippet.Yaml.Meaning
import SqlSnippet.Yaml.Node
import SqlSnippet.Yaml.Plain
import SqlSnippet.Yaml.Scalar
import SqlSnippet.Yaml.Token
import SqlSnippet.Yaml.Written
