import NixContext.Activity
import NixContext.Connection
import NixContext.Context
import NixContext.Context.Draft
import NixContext.Context.Fields
import NixContext.Context.Loading
import NixContext.Context.Overlay
import NixContext.Context.Raw
import NixContext.Engine
import NixContext.Failure
import NixContext.Hcl.Fold
import NixContext.Hcl.Lexeme
import NixContext.Hcl.Parser
import NixContext.Hcl.Syntax
import NixContext.InPlace
import NixContext.Installable
import NixContext.Invocation
import NixContext.Nix.EntrySet
import NixContext.Nix.Environment
import NixContext.Nix.Flags
import NixContext.Nix.Handle
import NixContext.Nix.Options
import NixContext.Nix.Parts
import NixContext.Nix.RawOptions
import NixContext.Number.Double
import NixContext.Number.Notation
import NixContext.Number.Shortest
import NixContext.Package
import NixContext.Package.Raw
import NixContext.Path
import NixContext.Program.Escape
import NixContext.Program.File
import NixContext.Program.Outcome
import NixContext.Program.Run
import NixContext.Program.Shell.Arithmetic
import NixContext.Program.Shell.Condition
import NixContext.Program.Shell.Exec
import NixContext.Program.Shell.Parser
import NixContext.Program.Shell.State
import NixContext.Program.Shell.Syntax
import NixContext.Program.Signal
import NixContext.Reference
import NixContext.Session
import NixContext.Session.Action
import NixContext.Session.Object
import NixContext.Settings
import NixContext.Table
import NixContext.Template.Check
import NixContext.Template.Datum
import NixContext.Template.Escape
import NixContext.Template.Filter
import NixContext.Template.Operators
import NixContext.Template.Parser
import NixContext.Template.Render
import NixContext.Template.Syntax
import NixContext.Template.Token
import NixContext.Text.Blank
import NixContext.Text.Case
import NixContext.Text.Class
import NixContext.Text.Digits
import NixContext.Text.Letters
import NixContext.Text.Lines
import NixContext.Text.Marks
import NixContext.Text.Numerals
import NixContext.Text.Quoted
import NixContext.Text.Raw
import NixContext.Text.Replace
import NixContext.Text.Symbols
import NixContext.Validation.Check
import NixContext.Validation.Issue
import NixContext.Value
import NixContext.Value.Json
import NixContext.Value.Print
import NixContext.Value.Raw
import NixContext.Proofs.Connection
import NixContext.Proofs.Context.Correspondence
import NixContext.Proofs.Context.Influence
import NixContext.Proofs.Context.Loading
import NixContext.Proofs.Context.Writes
import NixContext.Proofs.Hcl.Literal
import NixContext.Proofs.Hcl.Quoting
import NixContext.Proofs.Installable
import NixContext.Proofs.Nix.Arguments
import NixContext.Proofs.Nix.Building
import NixContext.Proofs.Nix.Command
import NixContext.Proofs.Nix.Copies
import NixContext.Proofs.Nix.Embedding
import NixContext.Proofs.Nix.Entries
import NixContext.Proofs.Nix.Environment
import NixContext.Proofs.Nix.Equality
import NixContext.Proofs.Nix.Flags
import NixContext.Proofs.Nix.Options
import NixContext.Proofs.Nix.RawBuilding
import NixContext.Proofs.Nix.Reordering
import NixContext.Proofs.Package
import NixContext.Proofs.Package.Forwarding
import NixContext.Proofs.Reference.Expansion
import NixContext.Proofs.Reference.Occurrence
import NixContext.Proofs.Reference.Referring
import NixContext.Proofs.Reference.Seams
import NixContext.Proofs.Session.Calls
import NixContext.Proofs.Session.Drafts
import NixContext.Proofs.Session.Failing
import NixContext.Proofs.Session.Frame
import NixContext.Proofs.Session.Frozen
import NixContext.Proofs.Session.History
import NixContext.Proofs.Session.Loading
import NixContext.Proofs.Session.Nesting
import NixContext.Proofs.Session.Outcomes
import NixContext.Proofs.Settings.Insertion
import NixContext.Proofs.Template.Output
import NixContext.Proofs.Text.Replace
import NixContext.Proofs.Text.Separator
import NixContext.Proofs.Validation.Check
import NixContext.Proofs.Validation.Issues
