import BuildAudit.Main
import BuildAudit.Proofs.Build.Pipeline
import BuildAudit.Proofs.Build.Settled
import BuildAudit.Proofs.Workspace
import BuildAudit.Proofs.Audit.Run
import BuildAudit.Proofs.Build.Info
import BuildAudit.Proofs.Build.Run
import BuildAudit.Proofs.OrderedSet
import BuildAudit.Proofs.Usage
import BuildAudit.Proofs.Build.Report
import BuildAudit.Proofs.Build.Clean
import BuildAudit.Proofs.Json.Reader
import BuildAudit.Proofs.Ownership
import BuildAudit.Proofs.Graph.Decode
import BuildAudit.Proofs.Audit.Exact
import BuildAudit.Proofs.Build.Settled
import BuildAudit.Audit.Workers
import BuildAudit.Proofs.Audit.Source
import BuildAudit.Proofs.Build.Selected
import BuildAudit.Proofs.Audit.Pool
import BuildAudit.Proofs.Audit.Workers
import BuildAudit.Proofs.Audit.Isolation
import BuildAudit.Proofs.Audit.Advice
import BuildAudit.Proofs.Audit.OwnImports
import BuildAudit.Proofs.Table
import BuildAudit.Proofs.Checks
import BuildAudit.Proofs.Toml.Document
import BuildAudit.Proofs.Settings.Basic
import BuildAudit.Proofs.Settings.Sources
import BuildAudit.Proofs.Settings.Load
import BuildAudit.Proofs.Settings.Typed
import BuildAudit.Proofs.Build.Forwards
import BuildAudit.Proofs.SourcePath
import BuildAudit.Proofs.Build.Compiled
import BuildAudit.Proofs.Reported
import BuildAudit.Proofs.Command.Verbosity
import BuildAudit.Proofs.Json.Writer
import BuildAudit.Proofs.Command.Answers
import BuildAudit.Proofs.Usage.Report
import BuildAudit.Proofs.Ownership.Longest
import BuildAudit.Proofs.Graph.Reading
import BuildAudit.Proofs.Workspace.Configured
import BuildAudit.Proofs.Ownership.Precedence
import BuildAudit.Proofs.Ownership.Spelling
import BuildAudit.Proofs.Graph.Request
import BuildAudit.Proofs.Text.Blocks
import BuildAudit.Proofs.Usage.Message
import BuildAudit.Proofs.Usage.Rendering
import BuildAudit.Proofs.Workspace.Shadowing
import BuildAudit.Proofs.Workspace.Sources
import BuildAudit.Proofs.Workspace.Reading
import BuildAudit.Proofs.Text.Cut
import BuildAudit.Proofs.Build.Listing
import BuildAudit.Proofs.FileTree
import BuildAudit.Proofs.Build.Written
import BuildAudit.Proofs.Build.Rewriting
import BuildAudit.Proofs.Graph.Partition
import BuildAudit.Proofs.Package.Layout
import BuildAudit.Proofs.Graph.Basic
