import Shortlist.Barrier.Basic
import Shortlist.Barrier.Session
import Shortlist.Check.Arguments
import Shortlist.Check.Run
import Shortlist.Datum.Basic
import Shortlist.Datum.Decode
import Shortlist.Datum.Plain
import Shortlist.Datum.Value
import Shortlist.Document.Basic
import Shortlist.Document.Format
import Shortlist.Entity.Access
import Shortlist.Entity.Basic
import Shortlist.Entity.Store
import Shortlist.EntityKind
import Shortlist.Feature.Fetch
import Shortlist.Feature.LoadConfig
import Shortlist.Feature.Session
import Shortlist.Json.Number
import Shortlist.Json.Reader
import Shortlist.Json.Tree
import Shortlist.Library.Basic
import Shortlist.Library.Files
import Shortlist.Library.Name
import Shortlist.Library.Watch
import Shortlist.Main
import Shortlist.Number.Decimal
import Shortlist.Number.Digits
import Shortlist.Number.Dyadic
import Shortlist.Number.Shortest
import Shortlist.Plan
import Shortlist.Proofs.Barrier.Held
import Shortlist.Proofs.Barrier.History
import Shortlist.Proofs.Barrier.Move
import Shortlist.Proofs.Barrier.Racing
import Shortlist.Proofs.Barrier.Waiters
import Shortlist.Proofs.Document.Nulls
import Shortlist.Proofs.Document.Read
import Shortlist.Proofs.Document.Reencoded
import Shortlist.Proofs.Document.Written
import Shortlist.Proofs.Entity.Footprint
import Shortlist.Proofs.Entity.Promotion
import Shortlist.Proofs.Feature.Alone
import Shortlist.Proofs.Feature.Calls
import Shortlist.Proofs.Feature.Confluence
import Shortlist.Proofs.Feature.History
import Shortlist.Proofs.Feature.Outcome
import Shortlist.Proofs.Feature.Progress
import Shortlist.Proofs.Feature.Promotion
import Shortlist.Proofs.Feature.Waiting
import Shortlist.Proofs.Json.Readers
import Shortlist.Proofs.Json.RoundTrip
import Shortlist.Proofs.Json.Tree
import Shortlist.Proofs.Library.Contents
import Shortlist.Proofs.Library.Current
import Shortlist.Proofs.Library.Follow
import Shortlist.Proofs.Library.Kept
import Shortlist.Proofs.Library.Listing
import Shortlist.Proofs.Library.Reach
import Shortlist.Proofs.Library.Rescan
import Shortlist.Proofs.Library.Scan
import Shortlist.Proofs.Library.Visit
import Shortlist.Proofs.Number.Distance
import Shortlist.Proofs.Number.Integers
import Shortlist.Proofs.Number.Order
import Shortlist.Proofs.Plan.Admission
import Shortlist.Proofs.Plan.Compilation
import Shortlist.Proofs.Plan.Evaluation
import Shortlist.Proofs.Plan.FirstExport
import Shortlist.Proofs.Plan.Form
import Shortlist.Proofs.Plan.Lacking
import Shortlist.Proofs.Plan.Reads
import Shortlist.Proofs.Plan.Retention
import Shortlist.Proofs.Rule.Children
import Shortlist.Proofs.Rule.Coerced
import Shortlist.Proofs.Rule.Comparand
import Shortlist.Proofs.Rule.Compiled
import Shortlist.Proofs.Rule.Equality
import Shortlist.Proofs.Rule.FirstFault
import Shortlist.Proofs.Rule.Grammar
import Shortlist.Proofs.Rule.Membership
import Shortlist.Proofs.Rule.Misfit
import Shortlist.Proofs.Rule.Opposite
import Shortlist.Proofs.Rule.Overlap
import Shortlist.Proofs.Rule.Regrouping
import Shortlist.Proofs.Rule.Relisted
import Shortlist.Proofs.Rule.Replaced
import Shortlist.Proofs.Rule.Retyped
import Shortlist.Proofs.Rule.Unread
import Shortlist.Proofs.Rule.WellBuilt
import Shortlist.Proofs.Text.Trim
import Shortlist.Proofs.Value.Canonical
import Shortlist.Proofs.Value.CommaParts
import Shortlist.Proofs.Value.Entries
import Shortlist.Proofs.Value.Numeric
import Shortlist.Proofs.Value.Ordered
import Shortlist.Properties
import Shortlist.Rule.Basic
import Shortlist.Rule.Compile
import Shortlist.Rule.Descriptor
import Shortlist.Rule.Evaluate
import Shortlist.Rule.Match
import Shortlist.Rule.Operator
import Shortlist.Settings.Basic
import Shortlist.Settings.EnvFile
import Shortlist.Text.Alphanumeric
import Shortlist.Text.Blank
import Shortlist.Text.Hidden
import Shortlist.Text.Quoted
import Shortlist.Text.Upper
import Shortlist.Value.Basic
import Shortlist.Value.Coercion
import Shortlist.Value.ValueType
import Shortlist.Yaml.Anchor
import Shortlist.Yaml.Cursor
import Shortlist.Yaml.Layout
import Shortlist.Yaml.Node
import Shortlist.Yaml.Reader
import Shortlist.Yaml.Scalar
import Shortlist.Yaml.ScalarText
import Shortlist.Yaml.Tag
import Shortlist.Yaml.Token
import Shortlist.Yaml.Writer
