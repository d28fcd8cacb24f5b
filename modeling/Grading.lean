import Grading.Answer.Event
import Grading.Answer.Grade
import Grading.Answer.Mark
import Grading.Answer.Match
import Grading.Answer.Normal
import Grading.Batch.Basic
import Grading.Batch.Schedule
import Grading.Command.Arguments
import Grading.Command.Basic
import Grading.Command.Error
import Grading.Command.Grade
import Grading.Command.Key
import Grading.Command.Listing
import Grading.Command.Plan
import Grading.Command.Run
import Grading.Command.Setting
import Grading.Command.Starter
import Grading.Decimal.Digits
import Grading.Decimal.Notation
import Grading.Decimal.Reader
import Grading.Decimal.Rounding
import Grading.Decimal.Shortest
import Grading.Files.Basic
import Grading.Files.Disk
import Grading.Json.Basic
import Grading.Json.Fields
import Grading.Json.Numeric
import Grading.Json.Quoted
import Grading.Json.Reader
import Grading.Key.Entry
import Grading.Key.Expander
import Grading.Key.Line
import Grading.Main
import Grading.Number.Fraction
import Grading.Number.Numeral
import Grading.Number.Places
import Grading.Numbering.Basic
import Grading.Numbering.Listing
import Grading.Numbering.Sorted
import Grading.Page.Basic
import Grading.Page.Chart
import Grading.Page.Markup
import Grading.Page.Style
import Grading.Path
import Grading.Problem.Basic
import Grading.Problem.Fault
import Grading.Problem.Tag
import Grading.Proofs.Answer.Acceptance
import Grading.Proofs.Answer.Blanks
import Grading.Proofs.Answer.Forms
import Grading.Proofs.Answer.Items
import Grading.Proofs.Answer.Lists
import Grading.Proofs.Answer.Normal
import Grading.Proofs.Answer.Priority
import Grading.Proofs.Answer.Reach
import Grading.Proofs.Answer.Solution
import Grading.Proofs.Answer.Swapped
import Grading.Proofs.Answer.Values
import Grading.Proofs.Batch.Collected
import Grading.Proofs.Batch.Schedule
import Grading.Proofs.Command.Grading
import Grading.Proofs.Command.HandIns
import Grading.Proofs.Command.Run
import Grading.Proofs.Command.Setting
import Grading.Proofs.Command.Warnings
import Grading.Proofs.Decimal.Shortest
import Grading.Proofs.Decimal.Special
import Grading.Proofs.Decimal.Written
import Grading.Proofs.Files.Disk
import Grading.Proofs.Float.Distance
import Grading.Proofs.Float.Grid
import Grading.Proofs.Float.Mantissa
import Grading.Proofs.Float.Nearest
import Grading.Proofs.Float.Operations
import Grading.Proofs.Float.Order
import Grading.Proofs.Float.Packing
import Grading.Proofs.Float.Quotient
import Grading.Proofs.Float.Rounding
import Grading.Proofs.Float.Scientific
import Grading.Proofs.Float.Signs
import Grading.Proofs.Float.Within
import Grading.Proofs.Json.Decimals
import Grading.Proofs.Json.Fields
import Grading.Proofs.Json.Numbers
import Grading.Proofs.Json.Quoted
import Grading.Proofs.Json.Rendered
import Grading.Proofs.Json.Scaled
import Grading.Proofs.Json.Tokens
import Grading.Proofs.Key.Entries
import Grading.Proofs.Key.Equivalents
import Grading.Proofs.Key.Expanders
import Grading.Proofs.Key.Faults
import Grading.Proofs.Key.Gathered
import Grading.Proofs.Key.Numbered
import Grading.Proofs.Key.Recompiled
import Grading.Proofs.Key.Rewriting
import Grading.Proofs.Key.Unrolled
import Grading.Proofs.Number.Amounts
import Grading.Proofs.Number.Characters
import Grading.Proofs.Number.Fixed
import Grading.Proofs.Number.Fractions
import Grading.Proofs.Number.Numerals
import Grading.Proofs.Number.Pattern
import Grading.Proofs.Number.Places
import Grading.Proofs.Numbering.Grammar
import Grading.Proofs.Numbering.Order
import Grading.Proofs.Numbering.Ranges
import Grading.Proofs.Numbering.Rendered
import Grading.Proofs.Numbering.Stable
import Grading.Proofs.Numbering.Written
import Grading.Proofs.Occurrences
import Grading.Proofs.Page.Escape
import Grading.Proofs.Page.Figures
import Grading.Proofs.Page.Shape
import Grading.Proofs.Page.Structure
import Grading.Proofs.Page.Tags
import Grading.Proofs.Path
import Grading.Proofs.Problem.Classes
import Grading.Proofs.Problem.Forms
import Grading.Proofs.Problem.Ratio
import Grading.Proofs.Problem.Tags
import Grading.Proofs.Record.Finite
import Grading.Proofs.Record.Saved
import Grading.Proofs.Record.Uuid
import Grading.Proofs.Submission.Consistent
import Grading.Proofs.Submission.GradeFile
import Grading.Proofs.Submission.Lockstep
import Grading.Proofs.Submission.Numbers
import Grading.Proofs.Submission.Percentage
import Grading.Proofs.Submission.Points
import Grading.Proofs.Submission.Sorted
import Grading.Proofs.Submission.Template
import Grading.Proofs.Submission.Unrolled
import Grading.Proofs.Text.Lines
import Grading.Proofs.Text.Lowered
import Grading.Proofs.Text.Order
import Grading.Proofs.Text.Pieces
import Grading.Proofs.Text.Sigma
import Grading.Proofs.Text.Trim
import Grading.Record.Basic
import Grading.Record.Date
import Grading.Record.Instant
import Grading.Record.Json
import Grading.Record.Uuid
import Grading.Rules
import Grading.Settings.Basic
import Grading.Settings.Toml
import Grading.Submission.Basic
import Grading.Submission.Report
import Grading.Text.Basic
import Grading.Text.Blank
import Grading.Text.Case
import Grading.Text.Cased
import Grading.Text.Columns
import Grading.Text.Control
import Grading.Text.Emoji
import Grading.Text.Ligature
import Grading.Text.Lines
import Grading.Text.Lowercase
import Grading.Text.Ranges
import Grading.Text.Table
import Grading.Text.Uppercase
import Grading.Text.Width
import Grading.Toml.Basic
import Grading.Toml.Quoted
import Grading.Toml.Reader
import Grading.Toml.Scalar
