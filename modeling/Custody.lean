import Custody.Api.Complaint
import Custody.Api.Exchange
import Custody.Api.Route
import Custody.Block.Explorer
import Custody.Block.Header
import Custody.Block.HeaderBook
import Custody.Block.Inclusion
import Custody.Category
import Custody.Clock
import Custody.Command
import Custody.Command.Close
import Custody.Command.Reserve
import Custody.Command.Reveal
import Custody.Command.Setup
import Custody.Command.Sweep
import Custody.CommandLine
import Custody.Config
import Custody.Deposit
import Custody.Digest.Sha256
import Custody.Event
import Custody.Event.Diagnosis
import Custody.Event.Log
import Custody.Fault
import Custody.Http.Encoding
import Custody.Http.MediaType
import Custody.Http.Message
import Custody.Http.Status
import Custody.Http.Target
import Custody.Identity
import Custody.Journal
import Custody.Json
import Custody.Json.Diagnosis
import Custody.Json.Parser
import Custody.Json.Printer
import Custody.Json.Record
import Custody.Ledger
import Custody.Main
import Custody.Octets
import Custody.Octets.Hex
import Custody.Params
import Custody.Pricing
import Custody.Proofs.Acceptance
import Custody.Proofs.Atomicity
import Custody.Proofs.Backing
import Custody.Proofs.Batches
import Custody.Proofs.BonusPool
import Custody.Proofs.Books
import Custody.Proofs.Criteria
import Custody.Proofs.Cursors
import Custody.Proofs.Cuts
import Custody.Proofs.Debits
import Custody.Proofs.Deltas
import Custody.Proofs.Durability
import Custody.Proofs.Exactness
import Custody.Proofs.Fleets
import Custody.Proofs.Forms
import Custody.Proofs.Grammar
import Custody.Proofs.Holdings
import Custody.Proofs.Inclusions
import Custody.Proofs.Integrity
import Custody.Proofs.Internals
import Custody.Proofs.Lifecycle
import Custody.Proofs.Liquidations
import Custody.Proofs.Logs
import Custody.Proofs.MainOutputs
import Custody.Proofs.MerklePaths
import Custody.Proofs.MerkleTrees
import Custody.Proofs.Mirrors
import Custody.Proofs.Money
import Custody.Proofs.Obligations
import Custody.Proofs.Parts
import Custody.Proofs.Payloads
import Custody.Proofs.Persistence
import Custody.Proofs.Places
import Custody.Proofs.PoolCover
import Custody.Proofs.Prices
import Custody.Proofs.Printed
import Custody.Proofs.Reorderings
import Custody.Proofs.Replay
import Custody.Proofs.Restart
import Custody.Proofs.RoundTrips
import Custody.Proofs.Runs
import Custody.Proofs.Sequences
import Custody.Proofs.Serials
import Custody.Proofs.Settlements
import Custody.Proofs.Spendings
import Custody.Proofs.Sweeps
import Custody.Proofs.Tables
import Custody.Proofs.Updates
import Custody.RedemptionAddress
import Custody.Reservation
import Custody.Service
import Custody.State
import Custody.Store
import Custody.Store.Cell
import Custody.Store.Relation
import Custody.Store.Relational
import Custody.Store.Volatile
import Custody.Table
import Custody.Text.Amount
import Custody.Text.Blank
import Custody.Text.Glyphless
import Custody.Text.Numeral
import Custody.Text.Quoted
import Custody.Text.Shortest
import Custody.Tx
import Custody.Tx.Serialized
import Custody.Tx.Vector
import Custody.Wallet
import Custody.Word
