import Discovery.Calendar.Date
import Discovery.Calendar.Instant
import Discovery.Calendar.Read
import Discovery.Calendar.Stamp
import Discovery.Client.Command
import Discovery.Client.Exchange
import Discovery.Client.Heartbeats
import Discovery.Client.Inspect
import Discovery.Client.Run
import Discovery.Client.Signature
import Discovery.Client.Word
import Discovery.Component.Basic
import Discovery.Component.Comparison
import Discovery.Component.Facet
import Discovery.Component.Json
import Discovery.Json.Basic
import Discovery.Json.Read
import Discovery.Lease.Basic
import Discovery.Lease.Json
import Discovery.Lease.Tree
import Discovery.Main
import Discovery.Markup.Character
import Discovery.Markup.Decode
import Discovery.Markup.Encode
import Discovery.Markup.Event
import Discovery.Markup.Fault
import Discovery.Markup.Reference
import Discovery.Markup.Segment
import Discovery.Markup.Tag
import Discovery.Message.Basic
import Discovery.Message.Error
import Discovery.Message.Registration
import Discovery.Message.Renewal
import Discovery.Message.Search
import Discovery.Number.Binary64
import Discovery.Number.Decimal
import Discovery.Query.Basic
import Discovery.Query.Evaluate
import Discovery.Query.Index
import Discovery.Query.MatchArray
import Discovery.Query.Predicate
import Discovery.Query.Tree
import Discovery.Registry.Directory
import Discovery.Registry.Discoverer
import Discovery.Registry.Leases
import Discovery.Registry.Listing
import Discovery.Registry.Settings
import Discovery.Registry.Sweeper
import Discovery.Service.Config
import Discovery.Service.Endpoint
import Discovery.Service.Reply
import Discovery.Service.Router
import Discovery.Service.SocketAddress
import Discovery.Service.Target
import Discovery.SortedMap
import Discovery.Text.Alphabetic
import Discovery.Text.CharRanges
import Discovery.Text.Cut
import Discovery.Text.GraphemeExtend
import Discovery.Text.Numeral
import Discovery.Text.Numeric
import Discovery.Text.Quoted
import Discovery.Text.Unprintable
import Discovery.Text.Utf8
import Discovery.Text.WhiteSpace
import Discovery.Tree.Basic
import Discovery.Tree.Builder
import Discovery.Tree.Display
import Discovery.Tree.Search
import Discovery.Proofs.Text.Joined
import Discovery.Proofs.Text.Trimmed
import Discovery.Proofs.Tree.Grown
import Discovery.Proofs.Tree.Traversal
import Discovery.Proofs.Markup.Written
import Discovery.Proofs.Markup.RoundTrip
import Discovery.Proofs.Machine
import Discovery.Proofs.Registry.Tables
import Discovery.Proofs.Registry.Consistency
import Discovery.Proofs.Registry.Representation
import Discovery.Proofs.Registry.Holdings
import Discovery.Proofs.Registry.Unordered
import Discovery.Proofs.Query.Pointwise
import Discovery.Proofs.Registry.Coherence
import Discovery.Proofs.Calendar.Order
import Discovery.Proofs.Lease.Expiry
import Discovery.Proofs.Lease.Ending
import Discovery.Proofs.Calendar.Date
import Discovery.Proofs.Calendar.Written
import Discovery.Proofs.Registry.Eviction
import Discovery.Proofs.Query.Agreement
import Discovery.Proofs.Markup.Forwarded
import Discovery.Proofs.Registry.Gone
import Discovery.Proofs.Message.Encodable
import Discovery.Proofs.Text.Encoded
import Discovery.Proofs.Service.Handled
import Discovery.Proofs.Service.Served
import Discovery.Proofs.Markup.Traversed
import Discovery.Proofs.Markup.Grammar
import Discovery.Proofs.Markup.Layout
import Discovery.Proofs.Message.Fields
import Discovery.Proofs.Message.Registration
import Discovery.Proofs.Message.Lease
import Discovery.Proofs.Message.Search
import Discovery.Proofs.Query.Laws
import Discovery.Proofs.Registry.History
import Discovery.Proofs.Query.Predicate
import Discovery.Proofs.Service.Searched
import Discovery.Proofs.Tree.Calls
import Discovery.Proofs.Text.Digits
import Discovery.Proofs.Markup.References
import Discovery.Proofs.Markup.StartTag
import Discovery.Proofs.Markup.Scanner
import Discovery.Proofs.Markup.Scanned
import Discovery.Proofs.Markup.Coverage
import Discovery.Proofs.Query.Operator
import Discovery.Proofs.Query.Operands
import Discovery.Proofs.Message.Stable
import Discovery.Proofs.Client.Exchange
import Discovery.Proofs.Registry.Spared
import Discovery.Proofs.Client.KeptAlive
import Discovery.Proofs.Query.Combined
import Discovery.Proofs.Number.Integer
import Discovery.Proofs.Registry.Reuse
import Discovery.Proofs.Query.Ports
import Discovery.Proofs.Calendar.Rewritten
import Discovery.Proofs.Message.PassedOn
import Discovery.Proofs.Tree.Searches
import Discovery.Proofs.Query.Flagged
import Discovery.Proofs.Tree.Texts
