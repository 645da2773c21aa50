import Dialogue.Catalog.Basic
import Dialogue.Catalog.Contract
import Dialogue.Catalog.Standard
import Dialogue.CommandLine.Action
import Dialogue.CommandLine.Perform
import Dialogue.CommandLine.Play
import Dialogue.CommandLine.Reply
import Dialogue.CommandLine.Summary
import Dialogue.CommandLine.Words
import Dialogue.Console.Color
import Dialogue.Console.Handler
import Dialogue.Console.Markup
import Dialogue.Console.Report
import Dialogue.Console.Style
import Dialogue.Console.Terminal
import Dialogue.Decimal.Entered
import Dialogue.Decimal.Nearest
import Dialogue.Decimal.Reading
import Dialogue.Decimal.Shortest
import Dialogue.Editor.Completion
import Dialogue.Editor.Description
import Dialogue.Editor.Symbols
import Dialogue.Expression.Fault
import Dialogue.Expression.Grammar
import Dialogue.Expression.Layout
import Dialogue.Expression.Literal
import Dialogue.Expression.Reading
import Dialogue.Expression.Template
import Dialogue.Expression.Token
import Dialogue.Expression.Tree
import Dialogue.Files
import Dialogue.Jobs.Crew
import Dialogue.Jobs.History
import Dialogue.Jobs.Job
import Dialogue.Jobs.Listing
import Dialogue.Jobs.Record
import Dialogue.Jobs.Scheduler
import Dialogue.Json.Basic
import Dialogue.Json.Literal
import Dialogue.Json.Reader
import Dialogue.Json.Writer
import Dialogue.Lint.Check
import Dialogue.Lint.Diagnostic
import Dialogue.Lint.Facts
import Dialogue.Lint.Problem
import Dialogue.Machine.Command
import Dialogue.Machine.Echo
import Dialogue.Machine.Host
import Dialogue.Machine.Rehearsal
import Dialogue.Machine.Request
import Dialogue.Machine.Resolve
import Dialogue.Machine.Run
import Dialogue.Machine.State
import Dialogue.Machine.Step
import Dialogue.Main
import Dialogue.Path
import Dialogue.Proofs.Catalog.Games
import Dialogue.Proofs.Catalog.Listing
import Dialogue.Proofs.Catalog.Lookup
import Dialogue.Proofs.Catalog.Release
import Dialogue.Proofs.CommandLine.Limit
import Dialogue.Proofs.Console.Prompt
import Dialogue.Proofs.Editor.Completion
import Dialogue.Proofs.Editor.Symbols
import Dialogue.Proofs.InertLine
import Dialogue.Proofs.Interpolation
import Dialogue.Proofs.Jobs.Alone
import Dialogue.Proofs.Jobs.Board
import Dialogue.Proofs.Jobs.Course
import Dialogue.Proofs.Jobs.Crew
import Dialogue.Proofs.Jobs.Histories
import Dialogue.Proofs.Jobs.Independence
import Dialogue.Proofs.Jobs.Isolation
import Dialogue.Proofs.Jobs.Ledger
import Dialogue.Proofs.Jobs.Listing
import Dialogue.Proofs.Jobs.Orderly
import Dialogue.Proofs.Jobs.Refusal
import Dialogue.Proofs.Jobs.Safety
import Dialogue.Proofs.Jobs.Stages
import Dialogue.Proofs.Json.RoundTrip
import Dialogue.Proofs.LineKinds
import Dialogue.Proofs.Lint.Accounts
import Dialogue.Proofs.Lint.Alike
import Dialogue.Proofs.Lint.Binding
import Dialogue.Proofs.Lint.ByLine
import Dialogue.Proofs.Lint.Declarations
import Dialogue.Proofs.Lint.Declared
import Dialogue.Proofs.Lint.FirstReading
import Dialogue.Proofs.Lint.Games
import Dialogue.Proofs.Lint.Headers
import Dialogue.Proofs.Lint.InertLine
import Dialogue.Proofs.Lint.KnownCommands
import Dialogue.Proofs.Lint.Order
import Dialogue.Proofs.Lint.Recased
import Dialogue.Proofs.Lint.Releases
import Dialogue.Proofs.Lint.Reordered
import Dialogue.Proofs.Lint.Shuffled
import Dialogue.Proofs.Lint.Spans
import Dialogue.Proofs.Lint.VariableTypes
import Dialogue.Proofs.Literals
import Dialogue.Proofs.Machine.Assignment
import Dialogue.Proofs.Machine.Atomic
import Dialogue.Proofs.Machine.Attendance
import Dialogue.Proofs.Machine.ControlFlow
import Dialogue.Proofs.Machine.Deliveries
import Dialogue.Proofs.Machine.Disguise
import Dialogue.Proofs.Machine.Displayable
import Dialogue.Proofs.Machine.Extension
import Dialogue.Proofs.Machine.Forward
import Dialogue.Proofs.Machine.Interchange
import Dialogue.Proofs.Machine.Invariant
import Dialogue.Proofs.Machine.Labels
import Dialogue.Proofs.Machine.Late
import Dialogue.Proofs.Machine.Likeness
import Dialogue.Proofs.Machine.Limits
import Dialogue.Proofs.Machine.Loop
import Dialogue.Proofs.Machine.Menu
import Dialogue.Proofs.Machine.Options
import Dialogue.Proofs.Machine.Prompts
import Dialogue.Proofs.Machine.Record
import Dialogue.Proofs.Machine.Relined
import Dialogue.Proofs.Machine.Resolve
import Dialogue.Proofs.Machine.Return
import Dialogue.Proofs.Machine.Steady
import Dialogue.Proofs.Machine.Step
import Dialogue.Proofs.Machine.StepLimit
import Dialogue.Proofs.Machine.Transition
import Dialogue.Proofs.Machine.Turn
import Dialogue.Proofs.NamedOrder
import Dialogue.Proofs.Outcome
import Dialogue.Proofs.Recased
import Dialogue.Proofs.Script.Command
import Dialogue.Proofs.Script.Cuts
import Dialogue.Proofs.Script.Forms
import Dialogue.Proofs.Script.InertLine
import Dialogue.Proofs.Script.Lines
import Dialogue.Proofs.Script.Literal
import Dialogue.Proofs.Script.Placeholders
import Dialogue.Proofs.Script.Recased
import Dialogue.Proofs.Script.RoundTrip
import Dialogue.Proofs.Script.Scan
import Dialogue.Proofs.Script.Search
import Dialogue.Proofs.Script.Tokens
import Dialogue.Proofs.Table
import Dialogue.Proofs.Text.LetterCase
import Dialogue.Proofs.Text.Numeral
import Dialogue.Proofs.Text.Trim
import Dialogue.Proofs.Time.RoundTrip
import Dialogue.Script.Param
import Dialogue.Script.Quoting
import Dialogue.Script.Scan
import Dialogue.Script.Statement
import Dialogue.Script.Value
import Dialogue.Script.Verb
import Dialogue.Settings.Basic
import Dialogue.Settings.EnvFile
import Dialogue.Settings.Reading
import Dialogue.Table
import Dialogue.Text.Basic
import Dialogue.Text.Blank
import Dialogue.Text.Case
import Dialogue.Text.Case.Table
import Dialogue.Text.CharacterName
import Dialogue.Text.CharacterName.Table
import Dialogue.Text.Codes
import Dialogue.Text.Digit
import Dialogue.Text.Identifier
import Dialogue.Text.Letter
import Dialogue.Text.Letter.Table
import Dialogue.Text.Lines
import Dialogue.Text.Numeral
import Dialogue.Text.Order
import Dialogue.Text.Printable
import Dialogue.Text.Quoted
import Dialogue.Time.Calendar
import Dialogue.Time.Reading
import Dialogue.Time.Timestamp
