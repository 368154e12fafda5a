import ExerciseClient.Api.Client
import ExerciseClient.Api.Error
import ExerciseClient.App.Backend
import ExerciseClient.App.Basic
import ExerciseClient.App.Command
import ExerciseClient.App.Error
import ExerciseClient.Arithmetic
import ExerciseClient.Autosave.Basic
import ExerciseClient.Autosave.Turn
import ExerciseClient.Backoff
import ExerciseClient.Calendar.Date
import ExerciseClient.Calendar.Instant
import ExerciseClient.Channel.Basic
import ExerciseClient.Channel.Error
import ExerciseClient.Channel.Handshake
import ExerciseClient.Channel.Line
import ExerciseClient.Channel.Turn
import ExerciseClient.Config.Banner
import ExerciseClient.Config.Basic
import ExerciseClient.Config.File
import ExerciseClient.Decimal.Binary64
import ExerciseClient.Decimal.Fixed
import ExerciseClient.Decimal.Shortest
import ExerciseClient.Exercise.Description
import ExerciseClient.Exercise.Kind
import ExerciseClient.Exercise.Language
import ExerciseClient.Exercise.Progress
import ExerciseClient.Http.Cookie
import ExerciseClient.Http.Message
import ExerciseClient.Http.Target
import ExerciseClient.Json.Decode
import ExerciseClient.Json.Printer
import ExerciseClient.Json.Tree
import ExerciseClient.Json.Value
import ExerciseClient.KeyedMap
import ExerciseClient.Log
import ExerciseClient.Log.Filter
import ExerciseClient.Main
import ExerciseClient.Outcome.Frame
import ExerciseClient.Outcome.Report
import ExerciseClient.Outcome.Result
import ExerciseClient.Outcome.Verdict
import ExerciseClient.Session.Basic
import ExerciseClient.Session.Stage
import ExerciseClient.Session.Turn
import ExerciseClient.Submission.AnswerSheet
import ExerciseClient.Submission.Basic
import ExerciseClient.Submission.FileTree
import ExerciseClient.Submission.Request
import ExerciseClient.Text.Blank
import ExerciseClient.Text.Hexadecimal
import ExerciseClient.Text.Hidden
import ExerciseClient.Text.Quoted
import ExerciseClient.Text.Split
import ExerciseClient.Text.Truncated
import ExerciseClient.Text.Utf8
import ExerciseClient.Toml.Reader
import ExerciseClient.Toml.Scalar
import ExerciseClient.Toml.Value
import ExerciseClient.Url.Basic
import ExerciseClient.Url.Domain.Ascii
import ExerciseClient.Url.Domain.Classes
import ExerciseClient.Url.Domain.Composition
import ExerciseClient.Url.Domain.Mapping
import ExerciseClient.Url.Domain.Normal
import ExerciseClient.Url.Domain.Punycode
import ExerciseClient.Url.Domain.Status
import ExerciseClient.Url.Domain.Table
import ExerciseClient.Url.Host
import ExerciseClient.Url.Path
import ExerciseClient.Url.Percent
import ExerciseClient.Url.Reader
import ExerciseClient.Proofs.Place
import ExerciseClient.Proofs.Channel.Move
import ExerciseClient.Proofs.Channel.Life
import ExerciseClient.Proofs.Channel.Coherence
import ExerciseClient.Proofs.Channel.Settling
import ExerciseClient.Proofs.Channel.TearDown
import ExerciseClient.Proofs.Channel.Delivery
import ExerciseClient.Proofs.Channel.Schedule
import ExerciseClient.Proofs.Autosave.Saving
import ExerciseClient.Proofs.Autosave.Stopping
import ExerciseClient.Proofs.Channel.Reception
import ExerciseClient.Proofs.Session.Drift
import ExerciseClient.Proofs.Session.Waiting
import ExerciseClient.Proofs.Session.Closing
import ExerciseClient.Proofs.Session.LastSave
import ExerciseClient.Proofs.Autosave.Landing
import ExerciseClient.Proofs.Session.Scripts
import ExerciseClient.Proofs.App.Token
import ExerciseClient.Proofs.Channel.Noise
import ExerciseClient.Proofs.Channel.Invisibility
import ExerciseClient.Proofs.Session.Life
import ExerciseClient.Proofs.Session.Acceptance
import ExerciseClient.Proofs.Session.Freshness
import ExerciseClient.Proofs.Session.Returning
import ExerciseClient.Proofs.Session.Reporting
import ExerciseClient.Proofs.Json.Reading
import ExerciseClient.Proofs.Json.Sorting
import ExerciseClient.Proofs.Json.Records
import ExerciseClient.Proofs.Exercise.Reply
import ExerciseClient.Proofs.Submission.Restoring
import ExerciseClient.Proofs.Submission.Saved
import ExerciseClient.Proofs.Autosave.Answering
import ExerciseClient.Proofs.Autosave.Delivering
import ExerciseClient.Proofs.Session.Telling
import ExerciseClient.Proofs.Session.Errand
import ExerciseClient.Proofs.Session.Hearing
import ExerciseClient.Proofs.App.Start
import ExerciseClient.Proofs.App.Course
import ExerciseClient.Proofs.App.Exit
import ExerciseClient.Proofs.App.Reach
import ExerciseClient.Proofs.App.Source
import ExerciseClient.Proofs.App.Secrecy
import ExerciseClient.Proofs.Channel.Path
import ExerciseClient.Proofs.Channel.Closes
import ExerciseClient.Proofs.Json.Grammar
import ExerciseClient.Proofs.Json.Spelling
import ExerciseClient.Proofs.Json.Fields
import ExerciseClient.Proofs.Json.Typed
import ExerciseClient.Proofs.Outcome.Classification
import ExerciseClient.Proofs.Submission.Outgoing
import ExerciseClient.Proofs.Api.Token
import ExerciseClient.Proofs.Backoff
import ExerciseClient.Proofs.Url.Percent
import ExerciseClient.Proofs.Url.Segment
import ExerciseClient.Proofs.Url.Marks
import ExerciseClient.Proofs.Config.Address
import ExerciseClient.Proofs.Api.Address
import ExerciseClient.Proofs.Decimal.Interchange
import ExerciseClient.Proofs.Json.Numbers
import ExerciseClient.Proofs.Outcome.JobIds
import ExerciseClient.Proofs.Outcome.Reencoding
import ExerciseClient.Proofs.Config.Overrides
import ExerciseClient.Proofs.Autosave.Pacing
import ExerciseClient.Proofs.Channel.Slot
import ExerciseClient.Proofs.Http.Header
import ExerciseClient.Proofs.App.Cookie
