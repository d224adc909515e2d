import ServiceWiring.Artifact.Assembly
import ServiceWiring.Artifact.Parameters
import ServiceWiring.Artifact.Piece
import ServiceWiring.Artifact.Stub
import ServiceWiring.Artifact.Wiring
import ServiceWiring.Batch
import ServiceWiring.Binary64.Basic
import ServiceWiring.Binary64.Shortest
import ServiceWiring.Command
import ServiceWiring.CommandLine.Arguments
import ServiceWiring.CommandLine.Run
import ServiceWiring.CommandLine.Usage
import ServiceWiring.Delivery
import ServiceWiring.Descriptor.Basic
import ServiceWiring.Descriptor.Reader
import ServiceWiring.Disk.Basic
import ServiceWiring.Disk.Walk
import ServiceWiring.Fault
import ServiceWiring.Formatter
import ServiceWiring.Go.Literal
import ServiceWiring.Go.Name
import ServiceWiring.Go.Package
import ServiceWiring.Host.Binary64.Arithmetic
import ServiceWiring.Host.Binary64.Places
import ServiceWiring.Host.Digest.Basic
import ServiceWiring.Host.Digest.Blake2
import ServiceWiring.Host.Digest.Check
import ServiceWiring.Host.Digest.Md5
import ServiceWiring.Host.Digest.Sha1
import ServiceWiring.Host.Digest.Sha2
import ServiceWiring.Host.Pattern.Basic
import ServiceWiring.Host.Pattern.Glob
import ServiceWiring.Host.Pattern.Letters
import ServiceWiring.Host.Pattern.Reader
import ServiceWiring.Host.Program.Basic
import ServiceWiring.Host.Program.Characters
import ServiceWiring.Host.Program.Charsets
import ServiceWiring.Host.Program.Comparison
import ServiceWiring.Host.Program.Condition
import ServiceWiring.Host.Program.Digests
import ServiceWiring.Host.Program.Dump
import ServiceWiring.Host.Program.Editor.Basic
import ServiceWiring.Host.Program.Editor.Reader
import ServiceWiring.Host.Program.Editor.Run
import ServiceWiring.Host.Program.Encoding
import ServiceWiring.Host.Program.Files
import ServiceWiring.Host.Program.Finding
import ServiceWiring.Host.Program.Identity
import ServiceWiring.Host.Program.Joining
import ServiceWiring.Host.Program.Keywords
import ServiceWiring.Host.Program.Launch
import ServiceWiring.Host.Program.Lines
import ServiceWiring.Host.Program.Numbers
import ServiceWiring.Host.Program.Options
import ServiceWiring.Host.Program.Packing
import ServiceWiring.Host.Program.Paragraphs
import ServiceWiring.Host.Program.Places
import ServiceWiring.Host.Program.Printing
import ServiceWiring.Host.Program.Rules.Basic
import ServiceWiring.Host.Program.Rules.Command
import ServiceWiring.Host.Program.Rules.Reader
import ServiceWiring.Host.Program.Rules.Run
import ServiceWiring.Host.Program.Rules.Scanner
import ServiceWiring.Host.Program.Rules.Value
import ServiceWiring.Host.Program.Search
import ServiceWiring.Host.Program.Sorting
import ServiceWiring.Host.Program.Starting
import ServiceWiring.Host.Program.Toolbox
import ServiceWiring.Host.Program.Values
import ServiceWiring.Host.Program.World
import ServiceWiring.Host.Script.Basic
import ServiceWiring.Host.Script.Reader
import ServiceWiring.Host.Script.Scanner
import ServiceWiring.Host.Shell.Arithmetic
import ServiceWiring.Host.Shell.Basic
import ServiceWiring.Host.Shell.Builtin.Basic
import ServiceWiring.Host.Shell.Builtin.Surroundings
import ServiceWiring.Host.Shell.Builtin.Variables
import ServiceWiring.Host.Shell.Execution
import ServiceWiring.Host.Shell.Expansion
import ServiceWiring.Host.Shell.Field
import ServiceWiring.Host.Shell.Redirection
import ServiceWiring.ImportTable
import ServiceWiring.Inputs
import ServiceWiring.Json.Basic
import ServiceWiring.Json.Display
import ServiceWiring.Json.File
import ServiceWiring.Json.Printer
import ServiceWiring.Json.Reader
import ServiceWiring.Machine
import ServiceWiring.Main
import ServiceWiring.OutputName
import ServiceWiring.Path.Basic
import ServiceWiring.Path.Location
import ServiceWiring.Path.Normal
import ServiceWiring.Plan
import ServiceWiring.Power
import ServiceWiring.Proofs.Artifact.BoundInterface
import ServiceWiring.Proofs.Artifact.Embedding
import ServiceWiring.Proofs.Artifact.FirstSeen
import ServiceWiring.Proofs.Artifact.Handlers
import ServiceWiring.Proofs.Artifact.Imports
import ServiceWiring.Proofs.Artifact.Qualifiers
import ServiceWiring.Proofs.Artifact.Respelling
import ServiceWiring.Proofs.Artifact.RouteNames
import ServiceWiring.Proofs.Artifact.RoutePattern
import ServiceWiring.Proofs.Artifact.StubImports
import ServiceWiring.Proofs.Artifact.WiringImports
import ServiceWiring.Proofs.Artifact.WiringName
import ServiceWiring.Proofs.Batch.Assembled
import ServiceWiring.Proofs.Batch.Exact
import ServiceWiring.Proofs.Batch.Independence
import ServiceWiring.Proofs.Batch.Jobs
import ServiceWiring.Proofs.Batch.Names
import ServiceWiring.Proofs.Batch.Outputs
import ServiceWiring.Proofs.Batch.Repetition
import ServiceWiring.Proofs.Batch.SwaggerVariables
import ServiceWiring.Proofs.CommandLine.Outcome
import ServiceWiring.Proofs.CommandLine.Stubs
import ServiceWiring.Proofs.Delivery.Clashes
import ServiceWiring.Proofs.Delivery.Contents
import ServiceWiring.Proofs.Delivery.Inside
import ServiceWiring.Proofs.Delivery.Kept
import ServiceWiring.Proofs.Delivery.Outcome
import ServiceWiring.Proofs.Descriptor.Calls
import ServiceWiring.Proofs.Descriptor.Grammar
import ServiceWiring.Proofs.Descriptor.Loading
import ServiceWiring.Proofs.Descriptor.Mentions
import ServiceWiring.Proofs.Descriptor.Packages
import ServiceWiring.Proofs.Descriptor.Reading
import ServiceWiring.Proofs.Disk.Find
import ServiceWiring.Proofs.Disk.Tree
import ServiceWiring.Proofs.Go.Identifier
import ServiceWiring.Proofs.Go.InterpretedLiteral
import ServiceWiring.Proofs.Go.RawLiteral
import ServiceWiring.Proofs.ImportTable.AppendOnly
import ServiceWiring.Proofs.ImportTable.Calls
import ServiceWiring.Proofs.ImportTable.FreeName
import ServiceWiring.Proofs.ImportTable.Lookup
import ServiceWiring.Proofs.ImportTable.Numbering
import ServiceWiring.Proofs.ImportTable.ShortName
import ServiceWiring.Proofs.ImportTable.Valid
import ServiceWiring.Proofs.Json.Characters
import ServiceWiring.Proofs.Json.Leaf
import ServiceWiring.Proofs.Json.Occurs
import ServiceWiring.Proofs.Json.RoundTrip
import ServiceWiring.Proofs.Json.Serializable
import ServiceWiring.Proofs.Json.Value
import ServiceWiring.Proofs.OutputName.Siblings
import ServiceWiring.Proofs.OutputName.Stem
import ServiceWiring.Proofs.Path.Join
import ServiceWiring.Proofs.Path.Normal
import ServiceWiring.Proofs.Path.Steps
import ServiceWiring.Proofs.Session.Calls
import ServiceWiring.Proofs.Session.Desk
import ServiceWiring.Proofs.Session.Growth
import ServiceWiring.Proofs.Session.Guards
import ServiceWiring.Proofs.Session.Lasting
import ServiceWiring.Proofs.Session.Names
import ServiceWiring.Proofs.Session.Sanitized
import ServiceWiring.Proofs.Session.Verdict
import ServiceWiring.Proofs.Text.Number
import ServiceWiring.Proofs.Text.Pieces
import ServiceWiring.Proofs.Text.Utf8
import ServiceWiring.Proofs.Text.Utf8Name
import ServiceWiring.Proofs.ToolRoot.Idempotent
import ServiceWiring.Proofs.ToolRoot.ImportPath
import ServiceWiring.Proofs.ToolRoot.Presence
import ServiceWiring.Renderer
import ServiceWiring.Report
import ServiceWiring.Session
import ServiceWiring.Text.Basic
import ServiceWiring.Text.Blank
import ServiceWiring.Text.Digits
import ServiceWiring.Text.Lines
import ServiceWiring.Text.Lowercase
import ServiceWiring.Text.Number
import ServiceWiring.Text.Printable
import ServiceWiring.Text.Quoted
import ServiceWiring.Text.Uppercase
import ServiceWiring.Text.Utf8
import ServiceWiring.Text.Wrapped
import ServiceWiring.ToolRoot
