import OpStack.Behaviour
import OpStack.Context.Basic
import OpStack.Context.Family
import OpStack.Document.Decimal
import OpStack.Document.Draft
import OpStack.Document.Json
import OpStack.Document.Toml
import OpStack.Document.Toml.Quoted
import OpStack.Document.Toml.Scalar
import OpStack.Document.Toml.Tree
import OpStack.Environment.Basic
import OpStack.Environment.File
import OpStack.Environment.Lines
import OpStack.Environment.Value
import OpStack.Fault
import OpStack.FileTree
import OpStack.Invocation
import OpStack.Logging.Directive
import OpStack.Logging.Filter
import OpStack.Logging.Line
import OpStack.Logging.Options
import OpStack.Logging.Setup
import OpStack.Payload.Basic
import OpStack.Registry.Basic
import OpStack.Registry.Op
import OpStack.Registry.Shelf
import OpStack.Script.Access
import OpStack.Script.Basic
import OpStack.Settings.Basic
import OpStack.Settings.Decode
import OpStack.Settings.Loader
import OpStack.Settings.Override
import OpStack.Settings.Printer
import OpStack.Stack.Basic
import OpStack.Stack.Session
import OpStack.Step.Basic
import OpStack.Step.Op
import OpStack.Step.Session
import OpStack.StepId
import OpStack.Text.Alphanumeric
import OpStack.Text.Blank
import OpStack.Text.CaseTable
import OpStack.Text.LetterCase
import OpStack.Text.Outline
import OpStack.Text.Printable
import OpStack.Text.Quoted
import OpStack.Text.Ranges
import OpStack.Text.Utf8
import OpStack.Text.Whole
import OpStack.Trace
import OpStack.Value.Basic
import OpStack.Value.Holder
import OpStack.Value.Source
import OpStack.World
import OpStack.Proofs.Arrivals
import OpStack.Proofs.Chronicle
import OpStack.Proofs.Registry.Cells
import OpStack.Proofs.Registry.Cut
import OpStack.Proofs.Registry.Independence
import OpStack.Proofs.Registry.Journal
import OpStack.Proofs.Registry.Lineage
import OpStack.Proofs.Registry.Roster
import OpStack.Proofs.Registry.Sound
import OpStack.Proofs.Relay
import OpStack.Proofs.Stack.DataFlow
import OpStack.Proofs.Stack.Onion
import OpStack.Proofs.Stack.Requests
import OpStack.Proofs.Gauge
import OpStack.Proofs.Stack.Multiplicity
import OpStack.Proofs.Chain.Bracketing
import OpStack.Proofs.Chain.Unwinding
import OpStack.Proofs.Chain.Persistence
import OpStack.Proofs.Likeness
import OpStack.Proofs.Telling
import OpStack.Proofs.Stack.Sessions
import OpStack.Proofs.Stack.Instruments
import OpStack.Proofs.Chain.Timelessness
import OpStack.Proofs.Stack.PassThrough
import OpStack.Proofs.Chain.Flattening
import OpStack.Proofs.Registry.Conservation
import OpStack.Proofs.Settings.Setting
import OpStack.Proofs.Settings.Variables
import OpStack.Proofs.Settings.Defaults
import OpStack.Proofs.Settings.Layering
import OpStack.Proofs.Stack.Entering
import OpStack.Proofs.Stack.Separation
import OpStack.Proofs.Registry.Undoing
import OpStack.Proofs.Registry.Placement
import OpStack.Proofs.Settings.Naming
import OpStack.Proofs.Logging.Refusal
import OpStack.Proofs.Settings.Usable
import OpStack.Proofs.Stack.Outline
import OpStack.Proofs.Context.Extensions
import OpStack.Proofs.Context.Cancellation
import OpStack.Proofs.Document.Grammar
import OpStack.Proofs.Document.Scanning
import OpStack.Proofs.Document.Assembling
import OpStack.Proofs.Document.Reordering
import OpStack.Proofs.Settings.Members
import OpStack.Proofs.Settings.Sections
import OpStack.Proofs.Settings.Printing
import OpStack.Proofs.Settings.Strictness
import OpStack.Proofs.Stack.Display
import OpStack.Proofs.Logging.Once
import OpStack.Proofs.Registry.Shares
import OpStack.Proofs.Registry.Isolation
import OpStack.Proofs.Text.Lowered
import OpStack.Proofs.Settings.Keywords
