import ScriptSplit.Text.Basic
import ScriptSplit.Text.Blank
import ScriptSplit.Text.Offset
import ScriptSplit.Text.Range
import ScriptSplit.Text.IdentifierRanges
import ScriptSplit.Text.PrintableRanges
import ScriptSplit.Text.CaseRanges
import ScriptSplit.Text.Identifier
import ScriptSplit.Text.LowerCase
import ScriptSplit.Text.Quoted
import ScriptSplit.Text.Utf8
import ScriptSplit.Text.DigitRanges
import ScriptSplit.Text.Digit
import ScriptSplit.Text.Word
import ScriptSplit.Path
import ScriptSplit.Draft
import ScriptSplit.Scope
import ScriptSplit.Trace
import ScriptSplit.Script.Basic
import ScriptSplit.Script.Form
import ScriptSplit.Tree.Basic
import ScriptSplit.Tree.Reading
import ScriptSplit.Tree.Expression
import ScriptSplit.Tree.Pattern
import ScriptSplit.Tree.Statement
import ScriptSplit.Tree.Lift
import ScriptSplit.Refusal
import ScriptSplit.Outline
import ScriptSplit.Resolve
import ScriptSplit.Binding
import ScriptSplit.Entry
import ScriptSplit.Emit
import ScriptSplit.Split
import ScriptSplit.Settings.Value
import ScriptSplit.Settings.Number
import ScriptSplit.Settings.Basic
import ScriptSplit.Toml.Scan
import ScriptSplit.Toml.Table
import ScriptSplit.Toml.Document
import ScriptSplit.Text.Json
import ScriptSplit.Trace.Json
import ScriptSplit.Files
import ScriptSplit.Settings.Project
import ScriptSplit.Markup.Tag
import ScriptSplit.Markup.EmojiNames
import ScriptSplit.Markup.Emoji
import ScriptSplit.Markup.Color
import ScriptSplit.Markup.Style
import ScriptSplit.Markup.Literal
import ScriptSplit.Markup
import ScriptSplit.Text.WidthRanges
import ScriptSplit.Console.Width
import ScriptSplit.Console.Wrap
import ScriptSplit.Console
import ScriptSplit.Command.Arguments
import ScriptSplit.Command.Run
import ScriptSplit.Tree.Notation
import ScriptSplit.Main
import ScriptSplit.Proofs.Use
import ScriptSplit.Proofs.Declared
import ScriptSplit.Proofs.Phrase
import ScriptSplit.Proofs.Occurrence
import ScriptSplit.Proofs.Outcome
import ScriptSplit.Proofs.Draft
import ScriptSplit.Proofs.Rerouting
import ScriptSplit.Proofs.Encoding
import ScriptSplit.Proofs.Placement
import ScriptSplit.Proofs.Seating
import ScriptSplit.Proofs.FirstError
import ScriptSplit.Proofs.Comment.Basic
import ScriptSplit.Proofs.Comment.Expression
import ScriptSplit.Proofs.Comment.Statement
import ScriptSplit.Proofs.Fragment
import ScriptSplit.Proofs.Assembly.Basic
import ScriptSplit.Proofs.Assembly.Expression
import ScriptSplit.Proofs.Assembly.Statement
import ScriptSplit.Proofs.Fidelity
import ScriptSplit.Proofs.Naming
import ScriptSplit.Proofs.Drawing
import ScriptSplit.Proofs.Run
import ScriptSplit.Proofs.Entry
import ScriptSplit.Proofs.Replay
import ScriptSplit.Proofs.Conflict
import ScriptSplit.Proofs.Relocation
import ScriptSplit.Proofs.HotSwap
import ScriptSplit.Proofs.Movement
import ScriptSplit.Proofs.MainText
import ScriptSplit.Proofs.Backing
import ScriptSplit.Proofs.Accessor
import ScriptSplit.Proofs.Capture
import ScriptSplit.Proofs.Restriction
import ScriptSplit.Proofs.Sketch
import ScriptSplit.Proofs.Legacy
import ScriptSplit.Proofs.Redirect
import ScriptSplit.Proofs.Idempotence
import ScriptSplit.Proofs.Visibility
import ScriptSplit.Proofs.Scheduling
import ScriptSplit.Proofs.Constituent
import ScriptSplit.Proofs.Rejection
import ScriptSplit.Proofs.Destructuring
import ScriptSplit.Proofs.Locating
import ScriptSplit.Proofs.Nesting
import ScriptSplit.Proofs.Report
import ScriptSplit.Proofs.Exposure
import ScriptSplit.Proofs.Storage
import ScriptSplit.Proofs.Execution
import ScriptSplit.Proofs.Writing
import ScriptSplit.Proofs.Containment
import ScriptSplit.Proofs.Forest
import ScriptSplit.Proofs.Lineage
import ScriptSplit.Proofs.Nearest
import ScriptSplit.Proofs.PathText
import ScriptSplit.Proofs.Layering
