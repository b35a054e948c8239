import Teardown.Account
import Teardown.Activity
import Teardown.Api.Access
import Teardown.Api.Account
import Teardown.Api.Address
import Teardown.Api.Answer
import Teardown.Api.Outline
import Teardown.Cluster
import Teardown.CommandLine.Grammar
import Teardown.CommandLine.Invocation
import Teardown.CommandLine.Reader
import Teardown.Deletion
import Teardown.Document
import Teardown.Duration
import Teardown.Event
import Teardown.Execution
import Teardown.Fault
import Teardown.Files
import Teardown.Inventory
import Teardown.Json.Basic
import Teardown.Json.Reader
import Teardown.Json.Shape
import Teardown.Log.Filter
import Teardown.Log.Line
import Teardown.Main
import Teardown.Number.Binary64
import Teardown.Number.Numeral
import Teardown.Number.Power
import Teardown.Number.Shortest
import Teardown.Outcome
import Teardown.Plan
import Teardown.Problem
import Teardown.Process
import Teardown.Program
import Teardown.Record
import Teardown.Rehearsal.Folder
import Teardown.Rehearsal.Inventory
import Teardown.Rehearsal.Line
import Teardown.Rehearsal.Plan
import Teardown.Rehearsal.Polls
import Teardown.Rehearsal.Script
import Teardown.Rehearsal.Session
import Teardown.Rehearsal.Stage
import Teardown.Rehearsal.Updates
import Teardown.Rehearsal.World
import Teardown.Request
import Teardown.Run
import Teardown.Schema.Basic
import Teardown.Settings
import Teardown.Settings.File
import Teardown.Settings.Wait
import Teardown.Stack
import Teardown.Task
import Teardown.Text.Blank
import Teardown.Text.Hidden
import Teardown.Text.Letter
import Teardown.Text.NameSet
import Teardown.Text.Quoted
import Teardown.Thread
import Teardown.Update
import Teardown.Watch
import Teardown.Yaml.Cursor
import Teardown.Yaml.Event
import Teardown.Yaml.Lexeme
import Teardown.Yaml.Node
import Teardown.Yaml.Plain
import Teardown.Yaml.Shape
import Teardown.Yaml.Token
import Teardown.Proofs.Trace
import Teardown.Proofs.RunTrace
import Teardown.Proofs.Reach
import Teardown.Proofs.Ordering
import Teardown.Proofs.Ownership
import Teardown.Proofs.Parts
import Teardown.Proofs.Sequencing
import Teardown.Proofs.Conversations
import Teardown.Proofs.Silence
import Teardown.Proofs.Cancellation
import Teardown.Proofs.Waiting
import Teardown.Proofs.Retry
import Teardown.Proofs.Planning
import Teardown.Proofs.TeardownOrder
import Teardown.Proofs.Evaluation
import Teardown.Proofs.Completion
import Teardown.Proofs.Failures
import Teardown.Proofs.Retryability
import Teardown.Proofs.Forestalled
import Teardown.Proofs.Coverage
import Teardown.Proofs.Pairs
import Teardown.Proofs.ProperNames
import Teardown.Proofs.Orphans
import Teardown.Proofs.Rounding
import Teardown.Proofs.Pauses
import Teardown.Proofs.GivenDurations
import Teardown.Proofs.GivenFields
import Teardown.Proofs.Variables
import Teardown.Proofs.AcceptedSettings
import Teardown.Proofs.Layers
import Teardown.Proofs.WaitBounds
import Teardown.Proofs.LastingWaits
import Teardown.Proofs.Scripts
import Teardown.Proofs.Rounds
import Teardown.Proofs.CutShort
import Teardown.Proofs.RestLengths
import Teardown.Proofs.Deadline
import Teardown.Proofs.Interruption
import Teardown.Proofs.Conclusions
import Teardown.Proofs.Awaiting
import Teardown.Proofs.Commissions
import Teardown.Proofs.StackDeletion
import Teardown.Proofs.ClusterUpdates
import Teardown.Proofs.LoggingChanges
import Teardown.Proofs.Selection
import Teardown.Proofs.Inquiry
import Teardown.Proofs.Pieces
import Teardown.Proofs.GroupNames
import Teardown.Proofs.StackNames
import Teardown.Proofs.Regrouping
import Teardown.Proofs.Quotation
import Teardown.Proofs.Lines
import Teardown.Proofs.Legibility
import Teardown.Proofs.JsonText
import Teardown.Proofs.JsonRecords
import Teardown.Proofs.Descriptors
import Teardown.Proofs.AccountTexts
