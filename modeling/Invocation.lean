import Invocation.Argument.Step
import Invocation.Build.Basic
import Invocation.CommandLine.Run
import Invocation.Macro.Recorder
import Invocation.Main
import Invocation.Proofs.Argument.Visible
import Invocation.Proofs.Build.Entry
import Invocation.Proofs.Build.Warnings
import Invocation.Proofs.Macro.References
import Invocation.Proofs.Report.Redaction
import Invocation.Proofs.Shell.Boundaries
import Invocation.Proofs.Shell.Containment
import Invocation.Provider.Load
import Invocation.Report.Basic
import Invocation.Spec.Load
import Invocation.Spec.Problems
import Invocation.Proofs.Argument.Growth
import Invocation.Proofs.Build.Draft
import Invocation.Proofs.Build.Assembly
import Invocation.Proofs.Build.Failure
import Invocation.Proofs.Build.Layout
import Invocation.Proofs.Report.Layout
import Invocation.Proofs.Argument.Marked
import Invocation.Proofs.OrderedMap
import Invocation.Proofs.Argument.Session
import Invocation.Proofs.Text.Surrogates
import Invocation.Proofs.Properties.Spelling
import Invocation.Proofs.Properties.Written
import Invocation.Proofs.Value.Integers
import Invocation.Proofs.Build.Foreseen
import Invocation.Proofs.Build.Hiding
import Invocation.Proofs.Macro.Pieces
import Invocation.Proofs.Macro.Expansion
import Invocation.Proofs.Macro.Doubled
import Invocation.Proofs.Properties.Escaped
import Invocation.Proofs.Build.Delivery
import Invocation.Proofs.Build.Wrapping
import Invocation.Proofs.Argument.Secrecy
import Invocation.Proofs.Properties.LogicalLines
import Invocation.Proofs.Properties.NaturalLines
import Invocation.Proofs.Properties.Flaws
import Invocation.Proofs.Properties.Concatenated
import Invocation.Proofs.Shell.Eager
import Invocation.Proofs.Shell.Fields
import Invocation.Proofs.Argument.Refusal
import Invocation.Proofs.Terminal.Escaping
import Invocation.Proofs.Terminal.StyleWords
import Invocation.Proofs.Terminal.Drawing
import Invocation.Proofs.Terminal.Marked
import Invocation.Proofs.CommandLine.Printing
import Invocation.Proofs.CommandLine.Status
import Invocation.Proofs.Provider.Filter
import Invocation.Proofs.Properties.LineEnds
import Invocation.Proofs.Properties.Divided
import Invocation.Proofs.Properties.EmptyLines
import Invocation.Proofs.Provider.Precedence
import Invocation.Proofs.Provider.Hierarchy
import Invocation.Proofs.Spec.Problems
import Invocation.Proofs.Text.Pieces
import Invocation.Proofs.Argument.Tokens
import Invocation.Proofs.Argument.Display
import Invocation.Proofs.Properties.Backslashes
import Invocation.Proofs.Terminal.EmojiCodes
import Invocation.Proofs.Terminal.Lines
import Invocation.Proofs.Terminal.Verbatim
import Invocation.Proofs.CommandLine.Verbatim
