import BuildLoop.Architecture
import BuildLoop.Architecture.Record
import BuildLoop.Command.Line
import BuildLoop.Command.Output
import BuildLoop.Command.Policy
import BuildLoop.Completeness
import BuildLoop.Completeness.Brackets
import BuildLoop.Console.Invocation
import BuildLoop.Console.Perform
import BuildLoop.Diagnosis.Correction
import BuildLoop.Diagnosis.Finding
import BuildLoop.Failure
import BuildLoop.Files.Change
import BuildLoop.Files.Locate
import BuildLoop.Json.Answer
import BuildLoop.Json.Form
import BuildLoop.Json.Shape
import BuildLoop.Json.Source
import BuildLoop.Json.Value
import BuildLoop.Main
import BuildLoop.Model.Chat
import BuildLoop.Model.Prompt
import BuildLoop.Model.Provider
import BuildLoop.Model.Roles
import BuildLoop.Model.Schema
import BuildLoop.Number.Binary
import BuildLoop.Number.Shortest
import BuildLoop.Plan.Description
import BuildLoop.Plan.Queue
import BuildLoop.Plan.Reach
import BuildLoop.Plan.Schedule
import BuildLoop.Plan.Validation
import BuildLoop.Plan.Verdict
import BuildLoop.Proofs.Command.Line
import BuildLoop.Proofs.Completeness
import BuildLoop.Proofs.Completeness.Nesting
import BuildLoop.Proofs.Diagnosis.Bucket
import BuildLoop.Proofs.Diagnosis.Correction
import BuildLoop.Proofs.Diagnosis.Finding
import BuildLoop.Proofs.Diagnosis.Install
import BuildLoop.Proofs.Diagnosis.Site
import BuildLoop.Proofs.Json.Reread
import BuildLoop.Proofs.Model.Answer
import BuildLoop.Proofs.Plan.Approval
import BuildLoop.Proofs.Plan.Reach
import BuildLoop.Proofs.Plan.Layout
import BuildLoop.Proofs.Plan.Manifest
import BuildLoop.Proofs.Plan.Named
import BuildLoop.Proofs.Plan.Order
import BuildLoop.Proofs.Request.Design
import BuildLoop.Proofs.Request.Directive
import BuildLoop.Proofs.Run.Abort
import BuildLoop.Proofs.Run.Approved
import BuildLoop.Proofs.Run.Batch
import BuildLoop.Proofs.Run.Bound
import BuildLoop.Proofs.Run.Client
import BuildLoop.Proofs.Run.Confluence
import BuildLoop.Proofs.Run.Course
import BuildLoop.Proofs.Run.Fatal
import BuildLoop.Proofs.Run.Frontier
import BuildLoop.Proofs.Run.History
import BuildLoop.Proofs.Run.Memory
import BuildLoop.Proofs.Run.Move
import BuildLoop.Proofs.Run.Preview
import BuildLoop.Proofs.Run.Replay
import BuildLoop.Proofs.Run.Rest
import BuildLoop.Proofs.Run.Round
import BuildLoop.Proofs.Run.Simulation
import BuildLoop.Proofs.Run.Stage
import BuildLoop.Proofs.Run.Step
import BuildLoop.Proofs.Run.Success
import BuildLoop.Proofs.Run.Trace
import BuildLoop.Proofs.Scaffold.Complete
import BuildLoop.Proofs.Scaffold.Linked
import BuildLoop.Proofs.Scaffold.Listed
import BuildLoop.Proofs.Service.Feed
import BuildLoop.Proofs.Service.Roots
import BuildLoop.Proofs.Service.Stream
import BuildLoop.Proofs.Settings.Resolve
import BuildLoop.Proofs.Text.Lines
import BuildLoop.Proofs.Verification.Site
import BuildLoop.Proofs.Verification.Verdict
import BuildLoop.Proofs.Worker.Action
import BuildLoop.Proofs.Worker.Recording
import BuildLoop.Proofs.Workflow.Alike
import BuildLoop.Proofs.Workflow.Completed
import BuildLoop.Proofs.Workflow.Growth
import BuildLoop.Proofs.Workflow.Operation
import BuildLoop.Proofs.Workflow.Tasks
import BuildLoop.Proofs.Workspace.Confine
import BuildLoop.Proofs.Workspace.Inside
import BuildLoop.Proofs.Workspace.Write
import BuildLoop.Request.Design
import BuildLoop.Request.Profile
import BuildLoop.Run.Config
import BuildLoop.Run.Crew
import BuildLoop.Run.Dispatch
import BuildLoop.Run.Event
import BuildLoop.Run.Loop
import BuildLoop.Run.Report
import BuildLoop.Run.Stage
import BuildLoop.Run.Standard
import BuildLoop.Run.State
import BuildLoop.Scaffold.NodeTemplate
import BuildLoop.Scaffold.PageTemplate
import BuildLoop.Scaffold.PythonTemplate
import BuildLoop.Scaffold.Render
import BuildLoop.Scaffold.Title
import BuildLoop.Service.Feed
import BuildLoop.Service.Message
import BuildLoop.Service.Path
import BuildLoop.Service.Runs
import BuildLoop.Service.Stream
import BuildLoop.Settings.Layer
import BuildLoop.Settings.Resolve
import BuildLoop.Settings.Variables
import BuildLoop.Task.Basic
import BuildLoop.Task.Mentions
import BuildLoop.Task.Phase
import BuildLoop.Task.Record
import BuildLoop.Text.Blank
import BuildLoop.Text.CodeRange
import BuildLoop.Text.Composition
import BuildLoop.Text.Fresh
import BuildLoop.Text.Glob
import BuildLoop.Text.LetterCase
import BuildLoop.Text.Mark
import BuildLoop.Text.Pattern
import BuildLoop.Text.Printable
import BuildLoop.Text.Search
import BuildLoop.Text.Utf8
import BuildLoop.Text.WordChar
import BuildLoop.Url.Address
import BuildLoop.Url.Domain
import BuildLoop.Url.Domain.Direction
import BuildLoop.Url.Domain.Folding
import BuildLoop.Url.Domain.Joining
import BuildLoop.Url.Host
import BuildLoop.Url.Numeric
import BuildLoop.Url.Percent
import BuildLoop.Url.Punycode
import BuildLoop.Url.Read
import BuildLoop.Verification.Assets
import BuildLoop.Verification.Check
import BuildLoop.Verification.Output
import BuildLoop.Verification.Report
import BuildLoop.Verification.Shape
import BuildLoop.Worker.Action
import BuildLoop.Worker.Dependency
import BuildLoop.Worker.Directive
import BuildLoop.Worker.Scaffolding
import BuildLoop.Workflow.State
import BuildLoop.Workspace.Basic
import BuildLoop.World
