import OutlineLint.Balance
import OutlineLint.Bracket
import OutlineLint.Check
import OutlineLint.CommandLine.Argument
import OutlineLint.CommandLine.Request
import OutlineLint.CommandLine.Usage
import OutlineLint.Duplicate
import OutlineLint.FileTree.Basic
import OutlineLint.FileTree.Path
import OutlineLint.FileTree.Write
import OutlineLint.Finding
import OutlineLint.Json
import OutlineLint.Main
import OutlineLint.Outline.Basic
import OutlineLint.Outline.Line
import OutlineLint.Outline.Named
import OutlineLint.Outline.Parse
import OutlineLint.Reference
import OutlineLint.Report
import OutlineLint.Resolution
import OutlineLint.Session
import OutlineLint.Text.Basic
import OutlineLint.Text.Blank
import OutlineLint.Text.CharacterClasses
import OutlineLint.Text.Letters
import OutlineLint.Text.Lines
import OutlineLint.Text.Lowercase
import OutlineLint.Text.Utf8
import OutlineLint.Proofs.Balance.Language
import OutlineLint.Proofs.Balance.Pinpoint
import OutlineLint.Proofs.Resolution.Unresolved
import OutlineLint.Proofs.Outline.LineClass
import OutlineLint.Proofs.Outline.Collect
import OutlineLint.Proofs.Outline.Layout
import OutlineLint.Proofs.Outline.Reading
import OutlineLint.Proofs.Outline.Items
import OutlineLint.Proofs.Outline.Attachment
import OutlineLint.Proofs.Reference.Columns
import OutlineLint.Proofs.Duplicate.Repeats
import OutlineLint.Proofs.Outline.Merge
import OutlineLint.Proofs.Resolution.CaseVariants
import OutlineLint.Proofs.Outline.Joining
import OutlineLint.Proofs.FileTree.Refusal
import OutlineLint.Proofs.Check.Messages
import OutlineLint.Proofs.Text.Letters
import OutlineLint.Proofs.Report.Dump
import OutlineLint.Proofs.Session.Summaries
import OutlineLint.Proofs.Text.Trailing
import OutlineLint.Proofs.Outline.Trailing
import OutlineLint.Proofs.Check.Trailing
import OutlineLint.Proofs.Outline.Extension
import OutlineLint.Proofs.Outline.Steps
import OutlineLint.Proofs.Check.Appended
import OutlineLint.Proofs.Check.Places
import OutlineLint.Proofs.Outline.Renumbering
import OutlineLint.Proofs.Check.Renumbering
import OutlineLint.Proofs.Check.Insertion
import OutlineLint.Proofs.Outline.Blocks
import OutlineLint.Proofs.Check.Reordering
import OutlineLint.Proofs.FileTree.Writing
import OutlineLint.Proofs.Session.Channels
import OutlineLint.Proofs.Guarded.Reading
import OutlineLint.Proofs.Guarded.Steps
import OutlineLint.Proofs.Guarded.Checking
import OutlineLint.Proofs.Text.Decimal
import OutlineLint.Proofs.Outline.Rows
import OutlineLint.Proofs.Duplicate.Justified
import OutlineLint.Proofs.Check.Distinct
import OutlineLint.Proofs.FileTree.Effects
import OutlineLint.Proofs.Session.Effects
import OutlineLint.Proofs.Session.Verbosity
import OutlineLint.Proofs.Reference.Leftmost
import OutlineLint.Proofs.Reference.Nested
import OutlineLint.Proofs.Outline.Recording
import OutlineLint.Proofs.Duplicate.Headers
import OutlineLint.Proofs.Text.LowerBeginning
import OutlineLint.Proofs.Resolution.LiteralBeginning
import OutlineLint.Proofs.Text.Pattern
import OutlineLint.Proofs.Outline.Label
import OutlineLint.Proofs.Outline.SubsectionNames
import OutlineLint.Proofs.Duplicate.Scopes
import OutlineLint.Proofs.Text.Utf8
import OutlineLint.Proofs.FileTree.Holding
import OutlineLint.Proofs.Session.Outcomes
import OutlineLint.Proofs.Json.Grammar
import OutlineLint.Proofs.Json.Decoding
import OutlineLint.Proofs.Json.Exactness
import OutlineLint.Proofs.Json.Writing
import OutlineLint.Proofs.Report.ReadingBack
