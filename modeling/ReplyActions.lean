import ReplyActions.Advertisement
import ReplyActions.Catalog
import ReplyActions.Colonist.Basic
import ReplyActions.Colonist.Saved
import ReplyActions.Command.Arguments
import ReplyActions.Command.FileTree
import ReplyActions.Command.Path
import ReplyActions.Command.Run
import ReplyActions.Datum.Basic
import ReplyActions.Datum.Fields
import ReplyActions.Directive.Category
import ReplyActions.Directive.Definition
import ReplyActions.Directive.Outcome
import ReplyActions.Directive.Parameter
import ReplyActions.Directive.Saved
import ReplyActions.Dispatch.Dispatcher
import ReplyActions.Dispatch.Event
import ReplyActions.Gate
import ReplyActions.Handler
import ReplyActions.Json.Printer
import ReplyActions.Json.Reader
import ReplyActions.Log.Record
import ReplyActions.Log.Sink
import ReplyActions.Log.Timestamp
import ReplyActions.Magnitude
import ReplyActions.Main
import ReplyActions.Number.Binary64
import ReplyActions.Number.Bounded
import ReplyActions.Number.Decimal
import ReplyActions.Proofs.Advertisement
import ReplyActions.Proofs.Catalog
import ReplyActions.Proofs.Colonist.Saved
import ReplyActions.Proofs.Command.Arguments
import ReplyActions.Proofs.Command.FileTree
import ReplyActions.Proofs.Command.Session
import ReplyActions.Proofs.Command.Work
import ReplyActions.Proofs.Datum.Fields
import ReplyActions.Proofs.Datum.Plain
import ReplyActions.Proofs.Directive.Reading
import ReplyActions.Proofs.Directive.Validation
import ReplyActions.Proofs.Dispatch.Accounting
import ReplyActions.Proofs.Dispatch.Advertising
import ReplyActions.Proofs.Dispatch.Discretion
import ReplyActions.Proofs.Dispatch.Limits
import ReplyActions.Proofs.Dispatch.Log
import ReplyActions.Proofs.Dispatch.Moments
import ReplyActions.Proofs.Dispatch.Outcomes
import ReplyActions.Proofs.Dispatch.Replay
import ReplyActions.Proofs.Dispatch.Sequence
import ReplyActions.Proofs.Dispatch.Sharing
import ReplyActions.Proofs.Dispatch.Steps
import ReplyActions.Proofs.Gate
import ReplyActions.Proofs.Json.RoundTrip
import ReplyActions.Proofs.Json.Spelling
import ReplyActions.Proofs.Log.Delivery
import ReplyActions.Proofs.Number.Decimal
import ReplyActions.Proofs.Quota.Account
import ReplyActions.Proofs.Quota.Entries
import ReplyActions.Proofs.Quota.History
import ReplyActions.Proofs.Quota.Likeness
import ReplyActions.Proofs.Quota.Refinement
import ReplyActions.Proofs.Quota.Saved
import ReplyActions.Proofs.Quota.Sweeping
import ReplyActions.Proofs.Quota.Tracking
import ReplyActions.Proofs.Ranking
import ReplyActions.Proofs.Registration
import ReplyActions.Proofs.Settings.Disabled
import ReplyActions.Proofs.Settings.Durations
import ReplyActions.Proofs.SortedMap
import ReplyActions.Proofs.Standard.Agreement
import ReplyActions.Proofs.Standard.Availability
import ReplyActions.Proofs.Standard.Belongings
import ReplyActions.Proofs.Standard.Captivity
import ReplyActions.Proofs.Standard.Failures
import ReplyActions.Proofs.Standard.Frame
import ReplyActions.Proofs.Standard.Levels
import ReplyActions.Proofs.Standard.Sharing
import ReplyActions.Proofs.Standard.Steps
import ReplyActions.Proofs.Standard.TakingBack
import ReplyActions.Proofs.Standard.Thoughts
import ReplyActions.Proofs.Standard.Values
import ReplyActions.Proofs.Standard.WellFormed
import ReplyActions.Proofs.Text.Canonical
import ReplyActions.Proofs.Text.Capital
import ReplyActions.Proofs.Text.Cleanup
import ReplyActions.Proofs.Text.Shown
import ReplyActions.Proofs.Token.Grammar
import ReplyActions.Proofs.Token.Nest
import ReplyActions.Proofs.Token.Occurrence
import ReplyActions.Proofs.Token.Region
import ReplyActions.Proofs.Token.Remains
import ReplyActions.Proofs.Token.Residue
import ReplyActions.Proofs.Token.Scan
import ReplyActions.Proofs.Token.Standing
import ReplyActions.Proofs.Token.Stripped
import ReplyActions.Proofs.Token.Untouched
import ReplyActions.Proofs.Token.Words
import ReplyActions.Proofs.Token.Written
import ReplyActions.Quota.Ledger
import ReplyActions.Quota.Policy
import ReplyActions.Quota.Saved
import ReplyActions.Registry
import ReplyActions.Settings.Config
import ReplyActions.Settings.Document
import ReplyActions.SortedMap
import ReplyActions.Standard.Body
import ReplyActions.Standard.Catalog
import ReplyActions.Standard.Labour
import ReplyActions.Standard.Mind
import ReplyActions.Standard.Relations
import ReplyActions.Standard.Supplies
import ReplyActions.Standard.Values
import ReplyActions.Text.Alphanumeric
import ReplyActions.Text.Blank
import ReplyActions.Text.Capital
import ReplyActions.Text.Cleanup
import ReplyActions.Text.LetterCase
import ReplyActions.Text.Printable
import ReplyActions.Token.Basic
import ReplyActions.Token.Invocation
import ReplyActions.Token.Strip
import ReplyActions.Toml.Reader
import ReplyActions.Toml.Scalar
import ReplyActions.Toml.Scan
import ReplyActions.Toml.Table
