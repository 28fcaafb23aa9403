import Teamwork.Text.Blank
import Teamwork.Text.Case
import Teamwork.Text.CodePoint
import Teamwork.Text.Digits
import Teamwork.Text.Quoted
import Teamwork.Time.Writing
import Teamwork.Except
import Teamwork.Staff
import Teamwork.Interaction
import Teamwork.Ties.Ranking
import Teamwork.Ties.Chain
import Teamwork.Ties.Network
import Teamwork.Graph
import Teamwork.Sample
import Teamwork.Snapshot.Fault
import Teamwork.Snapshot.Quote
import Teamwork.Snapshot.Syntax
import Teamwork.Snapshot.Loading
import Teamwork.Snapshot.Writing
import Teamwork.Drawing.Format
import Teamwork.Data.Value
import Teamwork.Data.Decoding
import Teamwork.Data.Records
import Teamwork.Data.Json
import Teamwork.Toml.Reader
import Teamwork.Toml.Layout
import Teamwork.Toml.Leaf
import Teamwork.Toml.Tree
import Teamwork.Toml.Document
import Teamwork.Settings
import Teamwork.Command.Path
import Teamwork.Command.Files
import Teamwork.Command.Arguments
import Teamwork.Command.Request
import Teamwork.Command.Failure
import Teamwork.Command.Listing
import Teamwork.Command.Response
import Teamwork.Command.Run
import Teamwork.Main
import Teamwork.Proofs.Json.Grammar
import Teamwork.Proofs.Snapshot.Strings
import Teamwork.Proofs.Snapshot.Lists
import Teamwork.Proofs.Snapshot.Brackets
import Teamwork.Proofs.Snapshot.Written
import Teamwork.Proofs.Snapshot.Spelling
import Teamwork.Proofs.Snapshot.Extension
import Teamwork.Proofs.Snapshot.Unambiguous
import Teamwork.Proofs.Snapshot.Texts
import Teamwork.Proofs.Ties.Counting
import Teamwork.Proofs.Graph.Changes
import Teamwork.Proofs.Snapshot.Entering
import Teamwork.Proofs.Graph.Operations
import Teamwork.Proofs.Time.Codec
import Teamwork.Proofs.Graph.Registries
import Teamwork.Proofs.Snapshot.RoundTrip
import Teamwork.Proofs.Snapshot.Torn
import Teamwork.Proofs.Snapshot.Content
import Teamwork.Proofs.Command.Places
import Teamwork.Proofs.Graph.Growth
import Teamwork.Proofs.Command.Durability
import Teamwork.Proofs.Snapshot.Broken
import Teamwork.Proofs.Snapshot.Accounts
import Teamwork.Proofs.Graph.Restriction
import Teamwork.Proofs.Graph.Rearranged
import Teamwork.Proofs.Ties.Walks
import Teamwork.Proofs.Ties.Edges
import Teamwork.Proofs.Ties.Groups
import Teamwork.Proofs.Ties.LeastWalks
import Teamwork.Proofs.Graph.Selections
import Teamwork.Proofs.Command.ExitCodes
import Teamwork.Proofs.Snapshot.BareValues
import Teamwork.Proofs.Graph.Figures
import Teamwork.Proofs.Graph.Identities
import Teamwork.Proofs.Command.LastDays
import Teamwork.Proofs.Drawing.Statements
import Teamwork.Proofs.Drawing.Quotes
import Teamwork.Proofs.Ties.Rankings
import Teamwork.Proofs.Drawing.Flowchart
import Teamwork.Proofs.Drawing.GraphName
import Teamwork.Proofs.Time.Clocks
