import StepArguments.Config
import StepArguments.Engine
import StepArguments.Variables.Source
import StepArguments.Proofs.Evaluator.BottomUp
import StepArguments.Proofs.Evaluator.Fixpoint
import StepArguments.Proofs.Resolver.Meaning
import StepArguments.Proofs.Resolver.NativeValue
import StepArguments.Proofs.Evaluator.Recording
import StepArguments.Proofs.Evaluator.Termination
import StepArguments.Proofs.Engine.Depth
import StepArguments.Proofs.Conversion.Satisfaction
import StepArguments.Proofs.Engine.Satisfaction
import StepArguments.Proofs.Markup.Marked
import StepArguments.Proofs.Table.Cells
import StepArguments.Proofs.Engine.PlainText
import StepArguments.Proofs.Variables.Provenance
import StepArguments.Proofs.Resolver.Spellings
import StepArguments.Proofs.Resolver.Prediction
import StepArguments.Proofs.Engine.DryRun
import StepArguments.Proofs.Variables.Changes
import StepArguments.Proofs.Variables.Frames
import StepArguments.Proofs.Engine.Optional
import StepArguments.Proofs.Variables.Merged
import StepArguments.Proofs.Table.Lines
import StepArguments.Proofs.Table.Rows
import StepArguments.Proofs.Table.ReadingBack
import StepArguments.Proofs.Decimal.Digits
import StepArguments.Proofs.Json.QuotedText
import StepArguments.Proofs.Json.WholeNumber
import StepArguments.Proofs.Conversion.DisplayedText
import StepArguments.Proofs.Markup.Spans
import StepArguments.Proofs.Markup.Partition
import StepArguments.Proofs.Markup.Matches
import StepArguments.Proofs.Variables.BehindIndex
import StepArguments.Proofs.Table.Texts
import StepArguments.Proofs.Table.Layout
import StepArguments.Proofs.Functions.Arguments
import StepArguments.Proofs.Functions.Merging
import StepArguments.Proofs.Engine.Failure
import StepArguments.Proofs.Engine.LonePlaceholder
import StepArguments.Proofs.Resolver.Sources
import StepArguments.Proofs.Functions.Substrings
import StepArguments.Proofs.Functions.Encoding
import StepArguments.Proofs.Functions.Escaping
import StepArguments.Proofs.Functions.Reading
import StepArguments.Proofs.Functions.Capitals
import StepArguments.Proofs.Dynamic.Calendar
import StepArguments.Proofs.Dynamic.Spelling
import StepArguments.Proofs.Dynamic.Timestamp
