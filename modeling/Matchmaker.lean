import Matchmaker.Api.Host
import Matchmaker.Api.Identity
import Matchmaker.Api.Issue
import Matchmaker.Api.Path
import Matchmaker.Api.Response
import Matchmaker.Api.Route
import Matchmaker.Api.Serve
import Matchmaker.Api.Submission
import Matchmaker.Api.Url
import Matchmaker.Candidates
import Matchmaker.Command.Arguments
import Matchmaker.Command.Dispatch
import Matchmaker.Command.Race
import Matchmaker.Command.Report
import Matchmaker.Command.Seeding
import Matchmaker.Compatibility.Collaboration
import Matchmaker.Compatibility.Interests
import Matchmaker.Compatibility.Proximity
import Matchmaker.Compatibility.Ranking
import Matchmaker.Compatibility.Scorecard
import Matchmaker.Compatibility.Taste
import Matchmaker.Connection.Basic
import Matchmaker.Connection.Lock
import Matchmaker.Connection.Query
import Matchmaker.Connection.Transition
import Matchmaker.Database.Address
import Matchmaker.Database.Driver
import Matchmaker.Database.DriverError
import Matchmaker.Database.Engine
import Matchmaker.Database.Session
import Matchmaker.Database.Transaction
import Matchmaker.Decimal.Binary
import Matchmaker.Decimal.Digits
import Matchmaker.Decimal.Numeral
import Matchmaker.Decimal.Places
import Matchmaker.Decimal.Quotient
import Matchmaker.Decimal.Shortest
import Matchmaker.Decimal.Written
import Matchmaker.Dimension
import Matchmaker.Failure
import Matchmaker.Fault
import Matchmaker.Geo
import Matchmaker.Json.Reader
import Matchmaker.Json.Value
import Matchmaker.Json.Writer
import Matchmaker.Main
import Matchmaker.Number
import Matchmaker.Profile.Basic
import Matchmaker.Profile.Facets
import Matchmaker.Proofs.Acting
import Matchmaker.Proofs.Addresses
import Matchmaker.Proofs.Arguments
import Matchmaker.Proofs.Blocking
import Matchmaker.Proofs.Bulk
import Matchmaker.Proofs.Calls
import Matchmaker.Proofs.Candidates
import Matchmaker.Proofs.Clients
import Matchmaker.Proofs.Columns
import Matchmaker.Proofs.Commuting
import Matchmaker.Proofs.Completeness
import Matchmaker.Proofs.Configuration
import Matchmaker.Proofs.Contents
import Matchmaker.Proofs.Coordinates
import Matchmaker.Proofs.Deciding
import Matchmaker.Proofs.Decision
import Matchmaker.Proofs.Doubles
import Matchmaker.Proofs.Drawing
import Matchmaker.Proofs.Enclosing
import Matchmaker.Proofs.Encodable
import Matchmaker.Proofs.Ended
import Matchmaker.Proofs.Engines
import Matchmaker.Proofs.Exact
import Matchmaker.Proofs.Facets
import Matchmaker.Proofs.Fixtures
import Matchmaker.Proofs.Gaining
import Matchmaker.Proofs.Graphs
import Matchmaker.Proofs.Growth
import Matchmaker.Proofs.Interleaving
import Matchmaker.Proofs.Lawful
import Matchmaker.Proofs.Ledger
import Matchmaker.Proofs.Listings
import Matchmaker.Proofs.Masking
import Matchmaker.Proofs.Members
import Matchmaker.Proofs.Nearness
import Matchmaker.Proofs.Normal
import Matchmaker.Proofs.Normalising
import Matchmaker.Proofs.Numerals
import Matchmaker.Proofs.OneRow
import Matchmaker.Proofs.Orderly
import Matchmaker.Proofs.Outcome
import Matchmaker.Proofs.PairState
import Matchmaker.Proofs.Pools
import Matchmaker.Proofs.Preferences
import Matchmaker.Proofs.Proportions
import Matchmaker.Proofs.RaceCheck
import Matchmaker.Proofs.Racing
import Matchmaker.Proofs.Ranking
import Matchmaker.Proofs.Readable
import Matchmaker.Proofs.Recommendation
import Matchmaker.Proofs.Removal
import Matchmaker.Proofs.Replacing
import Matchmaker.Proofs.Reported
import Matchmaker.Proofs.Requests
import Matchmaker.Proofs.Rounding
import Matchmaker.Proofs.Routing
import Matchmaker.Proofs.Rows
import Matchmaker.Proofs.Saved
import Matchmaker.Proofs.SayingMore
import Matchmaker.Proofs.SeedCommand
import Matchmaker.Proofs.Seeding
import Matchmaker.Proofs.Serializability
import Matchmaker.Proofs.SharedItems
import Matchmaker.Proofs.Spelling
import Matchmaker.Proofs.Sphere
import Matchmaker.Proofs.Submissions
import Matchmaker.Proofs.Symmetry
import Matchmaker.Proofs.Tables
import Matchmaker.Proofs.Typed
import Matchmaker.Proofs.Undisturbed
import Matchmaker.Proofs.Usable
import Matchmaker.Proofs.Waiting
import Matchmaker.Quantity
import Matchmaker.Scalar
import Matchmaker.Seed.Draw
import Matchmaker.Seed.Graph
import Matchmaker.Seed.Member
import Matchmaker.Seed.Run
import Matchmaker.Settings
import Matchmaker.Store.Basic
import Matchmaker.Tally
import Matchmaker.Taxonomy
import Matchmaker.Text.Blank
import Matchmaker.Text.CaseTable
import Matchmaker.Text.Encoding
import Matchmaker.Text.Lower
import Matchmaker.Text.Percent
import Matchmaker.Text.Phrase
import Matchmaker.Text.Printable
import Matchmaker.Text.Quoted
import Matchmaker.Text.Search
import Matchmaker.Text.Split
import Matchmaker.Text.Utf8
import Matchmaker.Visibility
import Matchmaker.Weights
