import Clearance.Attempt
import Clearance.Check.Identity
import Clearance.Check.Index
import Clearance.Cluster.Canned
import Clearance.Cluster.Conversation
import Clearance.Cluster.Journal
import Clearance.Cluster.Query
import Clearance.Components
import Clearance.Decimal.Nearest
import Clearance.Decimal.Shortest
import Clearance.Decimal.Shown
import Clearance.Fault
import Clearance.Fault.Message
import Clearance.Http.Endpoint
import Clearance.Http.Host
import Clearance.Http.Loss
import Clearance.Http.Message
import Clearance.Http.Script
import Clearance.Http.Status
import Clearance.Json.Encoding
import Clearance.Json.Reader
import Clearance.Json.Shown
import Clearance.Json.Value
import Clearance.Json.Writer
import Clearance.Negotiation.Basic
import Clearance.Negotiation.Step
import Clearance.Numeral
import Clearance.Proofs.Check.Record
import Clearance.Proofs.Check.Version
import Clearance.Proofs.Cluster.Boundary
import Clearance.Proofs.Cluster.Heard
import Clearance.Proofs.Cluster.Session
import Clearance.Proofs.Cluster.Visit
import Clearance.Proofs.Components
import Clearance.Proofs.Decimal.Nearest
import Clearance.Proofs.FirstOccurrence
import Clearance.Proofs.Json.Shown
import Clearance.Proofs.Negotiation.Agreement
import Clearance.Proofs.Negotiation.Boundary
import Clearance.Proofs.Negotiation.Course
import Clearance.Proofs.Negotiation.Discovery
import Clearance.Proofs.Negotiation.Histories
import Clearance.Proofs.Negotiation.Invariants
import Clearance.Proofs.Negotiation.Memory
import Clearance.Proofs.Negotiation.Narrowing
import Clearance.Proofs.Negotiation.Office
import Clearance.Proofs.Negotiation.OverRest
import Clearance.Proofs.Negotiation.Pattern
import Clearance.Proofs.Negotiation.ReadGate
import Clearance.Proofs.Negotiation.Retry
import Clearance.Proofs.Negotiation.Runs
import Clearance.Proofs.Negotiation.Sessions
import Clearance.Proofs.Negotiation.Steps
import Clearance.Proofs.Negotiation.Traffic
import Clearance.Proofs.Negotiation.Visits
import Clearance.Proofs.Negotiation.WriteGate
import Clearance.Proofs.Numeral
import Clearance.Proofs.Outcome
import Clearance.Proofs.Rest.Failover
import Clearance.Proofs.Rest.InTurn
import Clearance.Proofs.Rest.Listing
import Clearance.Proofs.Rest.Paths
import Clearance.Proofs.Rest.Published
import Clearance.Proofs.Rest.Session
import Clearance.Proofs.Rest.Shape
import Clearance.Proofs.Rest.Snapshot
import Clearance.Proofs.Rest.Statement
import Clearance.Proofs.Rest.Traffic
import Clearance.Proofs.Roster.Answers
import Clearance.Proofs.Roster.Sources
import Clearance.Proofs.Roster.Target
import Clearance.Proofs.Settings.Address
import Clearance.Proofs.Settings.Conflicts
import Clearance.Proofs.Settings.Duration
import Clearance.Proofs.Settings.Grammar
import Clearance.Proofs.Settings.NormalForm
import Clearance.Proofs.Settings.Ports
import Clearance.Proofs.Settings.Properties
import Clearance.Proofs.Settings.Resource
import Clearance.Proofs.Settings.Rules
import Clearance.Proofs.Text.CommaList
import Clearance.Proofs.Text.Digit
import Clearance.Proofs.Text.Lower
import Clearance.Proofs.Text.Percent
import Clearance.Proofs.Text.Quoted
import Clearance.Proofs.Text.Trim
import Clearance.Proofs.Version
import Clearance.Rest.Channel
import Clearance.Rest.Node
import Clearance.Rest.Session
import Clearance.Role
import Clearance.Roster.Agreed
import Clearance.Roster.Basic
import Clearance.Settings.Address
import Clearance.Settings.Basic
import Clearance.Settings.Conflicts
import Clearance.Settings.Duration
import Clearance.Settings.Flag
import Clearance.Settings.Key
import Clearance.Settings.Properties
import Clearance.Text.Base64
import Clearance.Text.Blank
import Clearance.Text.CommaList
import Clearance.Text.Digit
import Clearance.Text.Glyph
import Clearance.Text.Lower
import Clearance.Text.LowerTable
import Clearance.Text.Percent
import Clearance.Text.Printable
import Clearance.Text.Quoted
import Clearance.Version
