import Rollout.Api
import Rollout.Calendar
import Rollout.Cli.Misuse
import Rollout.Cli.Option
import Rollout.Cli.Output
import Rollout.Cli.Reach
import Rollout.Cli.Run
import Rollout.Cli.Stop
import Rollout.Cli.Task
import Rollout.Cli.Words
import Rollout.Client
import Rollout.Client.Recording
import Rollout.Config
import Rollout.Config.Reading
import Rollout.Config.Summary
import Rollout.Coordinate
import Rollout.Decimal.Arithmetic
import Rollout.Decimal.Binary64
import Rollout.Decimal.Reader
import Rollout.Decimal.Shortest
import Rollout.Deploy.Decision
import Rollout.Deploy.Outcome
import Rollout.Deploy.Session
import Rollout.DeployError
import Rollout.Digest.Base64
import Rollout.Digest.Sha1
import Rollout.Digest.Sha256
import Rollout.Digest.Words
import Rollout.Document
import Rollout.Entity
import Rollout.Feature
import Rollout.Files.Disk
import Rollout.Files.Path
import Rollout.Identity
import Rollout.Json.Basic
import Rollout.Json.Printer
import Rollout.Json.Reader
import Rollout.Log.Choice
import Rollout.Log.Level
import Rollout.Log.Line
import Rollout.Log.Logging
import Rollout.Log.Record
import Rollout.Main
import Rollout.Order.Graph
import Rollout.Order.Sort
import Rollout.Parameter
import Rollout.Proofs.Deploy.Agreement
import Rollout.Proofs.Deploy.Checking
import Rollout.Proofs.Deploy.Course
import Rollout.Proofs.Deploy.Decision
import Rollout.Proofs.Deploy.Footprint
import Rollout.Proofs.Deploy.Guards
import Rollout.Proofs.Deploy.Names
import Rollout.Proofs.Deploy.Nesting
import Rollout.Proofs.Deploy.Parameters
import Rollout.Proofs.Deploy.Places
import Rollout.Proofs.Deploy.Recorder
import Rollout.Proofs.Deploy.Requests
import Rollout.Proofs.Deploy.Resolution
import Rollout.Proofs.Deploy.Stubs
import Rollout.Proofs.Deploy.Together
import Rollout.Proofs.Deploy.Totality
import Rollout.Proofs.Deploy.Unrecorded
import Rollout.Proofs.Files.Contents
import Rollout.Proofs.Files.Folders
import Rollout.Proofs.Files.Paths
import Rollout.Proofs.Files.Trees
import Rollout.Proofs.Files.Ways
import Rollout.Proofs.Identity.Distinct
import Rollout.Proofs.Identity.Encoding
import Rollout.Proofs.Identity.External
import Rollout.Proofs.Identity.TextForm
import Rollout.Proofs.Json.Legible
import Rollout.Proofs.Json.LongInteger
import Rollout.Proofs.Json.Nesting
import Rollout.Proofs.Json.StringBody
import Rollout.Proofs.Log.Opening
import Rollout.Proofs.Log.Reconfiguring
import Rollout.Proofs.Order.Cycle
import Rollout.Proofs.Order.Environments
import Rollout.Proofs.Order.Knots
import Rollout.Proofs.Order.Least
import Rollout.Proofs.Order.Placement
import Rollout.Proofs.Order.Search
import Rollout.Proofs.Order.Sort
import Rollout.Proofs.Results
import Rollout.Proofs.Run.Accounts
import Rollout.Proofs.Run.Calls
import Rollout.Proofs.Run.Completion
import Rollout.Proofs.Run.Dependencies
import Rollout.Proofs.Run.Entries
import Rollout.Proofs.Run.Fragments
import Rollout.Proofs.Run.Isolation
import Rollout.Proofs.Run.Jobs
import Rollout.Proofs.Run.Loops
import Rollout.Proofs.Run.Names
import Rollout.Proofs.Run.Payloads
import Rollout.Proofs.Run.Places
import Rollout.Proofs.Run.Recordings
import Rollout.Proofs.Run.Registry
import Rollout.Proofs.Run.Relays
import Rollout.Proofs.Run.Reordering
import Rollout.Proofs.Run.Replacement
import Rollout.Proofs.Run.Sorting
import Rollout.Proofs.Run.Stopping
import Rollout.Proofs.Run.Stubs
import Rollout.Proofs.Run.Totality
import Rollout.Proofs.Run.Unrecorded
import Rollout.Proofs.Run.Validation
import Rollout.Proofs.Run.Visits
import Rollout.Proofs.Settings.Dialects
import Rollout.Proofs.Settings.Levels
import Rollout.Proofs.Settings.Loading
import Rollout.Proofs.Settings.Overrides
import Rollout.Proofs.Settings.Recorders
import Rollout.Proofs.Template.Blocks
import Rollout.Proofs.Template.Keys
import Rollout.Proofs.Template.Listing
import Rollout.Proofs.Template.Pieces
import Rollout.Proofs.Template.Structured
import Rollout.Proofs.Template.Substitution
import Rollout.Proofs.Template.Verbatim
import Rollout.Reference
import Rollout.Resolution
import Rollout.Run.Json
import Rollout.Run.Loop
import Rollout.Run.Report
import Rollout.Schema
import Rollout.Settings.Basic
import Rollout.Settings.Check
import Rollout.Settings.Dialect
import Rollout.Settings.Json
import Rollout.Settings.Load
import Rollout.Settings.Yaml
import Rollout.Stub
import Rollout.Table
import Rollout.Template.File
import Rollout.Template.Placeholder
import Rollout.Template.Render
import Rollout.Text.Blank
import Rollout.Text.Digits
import Rollout.Text.Numeral
import Rollout.Text.Printable
import Rollout.Text.Quoted
import Rollout.Text.Style
import Rollout.Timestamp
import Rollout.Value
import Rollout.Variables
import Rollout.Yaml.Cursor
import Rollout.Yaml.Date
import Rollout.Yaml.Lexer
import Rollout.Yaml.Node
import Rollout.Yaml.Number
import Rollout.Yaml.Plain
import Rollout.Yaml.Reader
import Rollout.Yaml.Scalar
import Rollout.Yaml.Token

/-!
# Rollout

Configs are rolled out to a platform: they are read, sorted by their dependencies and deployed one
after another, each as a template that is filled with the values of its parameters, and what becomes
of each is reported.  `Rollout.Main` is the program.

The modules under `Rollout.Proofs` are about these definitions.  They follow a config from its
identity and its order among the others, by its template and its decision, to whole runs with their
reports, and then to the files, the settings and the log around them.
-/
