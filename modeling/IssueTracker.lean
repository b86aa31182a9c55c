import IssueTracker.CommandLine.Arguments
import IssueTracker.CommandLine.Command
import IssueTracker.CommandLine.Script
import IssueTracker.Comment
import IssueTracker.Comment.Store
import IssueTracker.Connection
import IssueTracker.Document
import IssueTracker.Error
import IssueTracker.Http.Message
import IssueTracker.Http.Wire
import IssueTracker.Json.Basic
import IssueTracker.Json.Binary64
import IssueTracker.Json.Feed
import IssueTracker.Json.Number
import IssueTracker.Json.Outline
import IssueTracker.Json.Pointer
import IssueTracker.Json.Printer
import IssueTracker.Json.Reader
import IssueTracker.Json.Shape
import IssueTracker.Json.Without
import IssueTracker.Link
import IssueTracker.Link.Channel
import IssueTracker.Link.CommentForm
import IssueTracker.Link.EntryForm
import IssueTracker.Link.Type
import IssueTracker.Link.Web
import IssueTracker.Main
import IssueTracker.Program
import IssueTracker.Project
import IssueTracker.Property
import IssueTracker.Request
import IssueTracker.Settings
import IssueTracker.Settings.Layers
import IssueTracker.Settings.Tree
import IssueTracker.Snapshot
import IssueTracker.Snapshot.Operations
import IssueTracker.State
import IssueTracker.Table
import IssueTracker.Text.Ascii
import IssueTracker.Text.Base64
import IssueTracker.Text.Blank
import IssueTracker.Text.Capital
import IssueTracker.Text.Composition
import IssueTracker.Text.Composition.Classes
import IssueTracker.Text.Composition.Pairs
import IssueTracker.Text.Lines
import IssueTracker.Text.Mark
import IssueTracker.Text.Quoted
import IssueTracker.Text.Ranges
import IssueTracker.Text.Split
import IssueTracker.Timestamp
import IssueTracker.Toml.Basic
import IssueTracker.Toml.Reader
import IssueTracker.Tracker
import IssueTracker.Tracker.Routes
import IssueTracker.Url.Address
import IssueTracker.Url.Basic
import IssueTracker.Url.Form
import IssueTracker.Url.Host
import IssueTracker.Url.Idna
import IssueTracker.Url.Idna.Direction
import IssueTracker.Url.Idna.Joining
import IssueTracker.Url.Idna.Mapping
import IssueTracker.Url.Parser
import IssueTracker.Url.Path
import IssueTracker.Url.Percent
import IssueTracker.Url.Punycode
import IssueTracker.User
import IssueTracker.Warning
import IssueTracker.Workflow
import IssueTracker.Proofs.Document
import IssueTracker.Proofs.Routing
import IssueTracker.Proofs.World
import IssueTracker.Proofs.UniqueKeys
import IssueTracker.Proofs.Workflow.Steps
import IssueTracker.Proofs.Workflow.Course
import IssueTracker.Proofs.Workflow.Table
import IssueTracker.Proofs.Sends
import IssueTracker.Proofs.Text.Lines
import IssueTracker.Proofs.Link.Entry
import IssueTracker.Proofs.Link.Shelf
import IssueTracker.Proofs.Link.Entries
import IssueTracker.Proofs.Link.Native
import IssueTracker.Proofs.Link.Duplicates
import IssueTracker.Proofs.Comment.Documents
import IssueTracker.Proofs.Comment.Numbers
import IssueTracker.Proofs.Tracker.Reachable
import IssueTracker.Proofs.Comment.Page
import IssueTracker.Proofs.Comment.Thread
import IssueTracker.Proofs.Link.CommentText
import IssueTracker.Proofs.Link.RoundTrip
import IssueTracker.Proofs.Link.Posting
import IssueTracker.Proofs.Link.Posted
import IssueTracker.Proofs.Link.Repeated
import IssueTracker.Proofs.Link.Sweep
import IssueTracker.Proofs.Workflow.Exchange
import IssueTracker.Proofs.Operation
import IssueTracker.Proofs.Operation.Asks
import IssueTracker.Proofs.Operation.Confined
import IssueTracker.Proofs.Statusless
import IssueTracker.Proofs.FailsFast
import IssueTracker.Proofs.Operation.FailFast
import IssueTracker.Proofs.Tracker.Legible
import IssueTracker.Proofs.Operation.Legible
import IssueTracker.Proofs.Operation.ReadBack
import IssueTracker.Proofs.Table
import IssueTracker.Proofs.Tracker.Effect
import IssueTracker.Proofs.Tracker.Fields
import IssueTracker.Proofs.Tracker.Orderly
import IssueTracker.Proofs.Tracker.Fetch
import IssueTracker.Proofs.Property.Codec
import IssueTracker.Proofs.Property.ReadBack
import IssueTracker.Proofs.Link.Ends
import IssueTracker.Proofs.Link.Failure
import IssueTracker.Proofs.Link.Issues
import IssueTracker.Proofs.Link.BothEnds
import IssueTracker.Proofs.Json.Order
import IssueTracker.Proofs.Json.Equality
import IssueTracker.Proofs.Json.Places
import IssueTracker.Proofs.Identity
import IssueTracker.Proofs.Tracker.Scope
import IssueTracker.Proofs.Operation.Frame
import IssueTracker.Proofs.Label.Stored
import IssueTracker.Proofs.Label.Cache
import IssueTracker.Proofs.Comment.Apart
import IssueTracker.Proofs.Comment.Board
import IssueTracker.Proofs.Json.Erasure
import IssueTracker.Proofs.Link.Grammar
import IssueTracker.Proofs.Link.Vocabulary
import IssueTracker.Proofs.Interspersed
import IssueTracker.Proofs.Comment.Framed
import IssueTracker.Proofs.Link.Foreign
import IssueTracker.Proofs.Link.Invisible
import IssueTracker.Proofs.Text.Utf8
import IssueTracker.Proofs.Json.Separation
import IssueTracker.Proofs.Link.Marks
import IssueTracker.Proofs.Tracker.Identities
import IssueTracker.Proofs.Connection.Targets
import IssueTracker.Proofs.Connection.Escape
