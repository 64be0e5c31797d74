import StakeRegistry.Account.Address
import StakeRegistry.Account.Curve
import StakeRegistry.Account.Keccak
import StakeRegistry.Account.PrivateKey
import StakeRegistry.Amount
import StakeRegistry.Analytics
import StakeRegistry.Beacon
import StakeRegistry.Command.Dispatch
import StakeRegistry.Command.Failure
import StakeRegistry.Command.Migrate
import StakeRegistry.Command.MissedSlots
import StakeRegistry.Command.OptedInSlots
import StakeRegistry.Command.OptedInValidators
import StakeRegistry.Command.Options
import StakeRegistry.Command.Query
import StakeRegistry.Command.Setup
import StakeRegistry.Command.Stake
import StakeRegistry.Command.Store
import StakeRegistry.Command.Unstake
import StakeRegistry.Config.Credentials
import StakeRegistry.Config.EnvFile
import StakeRegistry.Config.Network
import StakeRegistry.Csv.Reader
import StakeRegistry.Csv.Writer
import StakeRegistry.Fault
import StakeRegistry.Files.Blocks
import StakeRegistry.Files.Call
import StakeRegistry.Files.Pattern
import StakeRegistry.Files.Text
import StakeRegistry.Files.Tree
import StakeRegistry.Hex
import StakeRegistry.Host.Call
import StakeRegistry.Host.Search
import StakeRegistry.Json.Reader
import StakeRegistry.Json.Value
import StakeRegistry.Json.Writer
import StakeRegistry.Keyed
import StakeRegistry.Log
import StakeRegistry.Main
import StakeRegistry.Moment
import StakeRegistry.Node.Client
import StakeRegistry.Node.Connection
import StakeRegistry.Numeral.Binary64
import StakeRegistry.Numeral.Integer
import StakeRegistry.OptIn.Collect
import StakeRegistry.OptIn.Missed
import StakeRegistry.OptIn.Scan
import StakeRegistry.OptIn.Tables
import StakeRegistry.OptIn.Validator
import StakeRegistry.Path
import StakeRegistry.Program
import StakeRegistry.Proofs.Analytics
import StakeRegistry.Proofs.Beacon
import StakeRegistry.Proofs.Command.AllOrNothing
import StakeRegistry.Proofs.Command.Gathering
import StakeRegistry.Proofs.Command.Inputs
import StakeRegistry.Proofs.Command.Jobs
import StakeRegistry.Proofs.Command.KeyFiles
import StakeRegistry.Proofs.Command.Preparation
import StakeRegistry.Proofs.Command.Reports
import StakeRegistry.Proofs.Command.Selections
import StakeRegistry.Proofs.Command.Setup
import StakeRegistry.Proofs.Command.Staking
import StakeRegistry.Proofs.Csv.RoundTrip
import StakeRegistry.Proofs.Files.Tree
import StakeRegistry.Proofs.Hex
import StakeRegistry.Proofs.Host.Acts
import StakeRegistry.Proofs.Host.Agreement
import StakeRegistry.Proofs.Host.Files
import StakeRegistry.Proofs.Host.Surroundings
import StakeRegistry.Proofs.Json.Document
import StakeRegistry.Proofs.Json.Scalar
import StakeRegistry.Proofs.Keyed
import StakeRegistry.Proofs.Node.Broadcast
import StakeRegistry.Proofs.Node.Decisions
import StakeRegistry.Proofs.Node.Questions
import StakeRegistry.Proofs.Node.Turns
import StakeRegistry.Proofs.Numeral.Decimal
import StakeRegistry.Proofs.OptIn.Collecting
import StakeRegistry.Proofs.OptIn.Ranges
import StakeRegistry.Proofs.OptIn.Report
import StakeRegistry.Proofs.OptIn.Scans
import StakeRegistry.Proofs.OptIn.SlotTables
import StakeRegistry.Proofs.OptIn.ValidatorTables
import StakeRegistry.Proofs.OptIn.Workers
import StakeRegistry.Proofs.Program.Expansion
import StakeRegistry.Proofs.Program.Failing
import StakeRegistry.Proofs.Program.Runs
import StakeRegistry.Proofs.Program.Uses
import StakeRegistry.Proofs.Registry.Batches
import StakeRegistry.Proofs.Registry.Chunks
import StakeRegistry.Proofs.Registry.Ending
import StakeRegistry.Proofs.Registry.Fetching
import StakeRegistry.Proofs.Registry.Grouping
import StakeRegistry.Proofs.Registry.KeyFiles
import StakeRegistry.Proofs.Registry.LifeCycle
import StakeRegistry.Proofs.Registry.Migrating
import StakeRegistry.Proofs.Registry.MigrationPlan
import StakeRegistry.Proofs.Registry.NetStakes
import StakeRegistry.Proofs.Registry.Newest
import StakeRegistry.Proofs.Registry.Paging
import StakeRegistry.Proofs.Registry.Planning
import StakeRegistry.Proofs.Registry.Reconstruction
import StakeRegistry.Proofs.Registry.Sessions
import StakeRegistry.Proofs.Registry.Snapshots
import StakeRegistry.Proofs.Registry.Storing
import StakeRegistry.Proofs.Registry.Validation
import StakeRegistry.Proofs.Text
import StakeRegistry.Proofs.Tx.CallDiscipline
import StakeRegistry.Proofs.Tx.Count
import StakeRegistry.Proofs.Tx.Desk
import StakeRegistry.Proofs.Tx.Errors
import StakeRegistry.Proofs.Tx.Escalation
import StakeRegistry.Proofs.Tx.Exchange
import StakeRegistry.Proofs.Tx.Exits
import StakeRegistry.Proofs.Tx.History
import StakeRegistry.Proofs.Tx.Lines
import StakeRegistry.Proofs.Tx.NonceDiscipline
import StakeRegistry.Proofs.Tx.Obtained
import StakeRegistry.Proofs.Tx.Outbidding
import StakeRegistry.Proofs.Tx.Places
import StakeRegistry.Proofs.Tx.Receipts
import StakeRegistry.Proofs.Tx.Settlement
import StakeRegistry.Proofs.Tx.Sharing
import StakeRegistry.Proofs.Tx.Turns
import StakeRegistry.Proofs.Tx.Unsent
import StakeRegistry.ReadError
import StakeRegistry.Registry.Artifact
import StakeRegistry.Registry.Batches
import StakeRegistry.Registry.Event
import StakeRegistry.Registry.Fetch
import StakeRegistry.Registry.Interface
import StakeRegistry.Registry.LifeCycle
import StakeRegistry.Registry.Migrate
import StakeRegistry.Registry.Pubkey
import StakeRegistry.Registry.Query
import StakeRegistry.Registry.Selection
import StakeRegistry.Registry.Stake
import StakeRegistry.Registry.Store
import StakeRegistry.Registry.Unstake
import StakeRegistry.Seconds
import StakeRegistry.Text.Blank
import StakeRegistry.Text.CapitalTable
import StakeRegistry.Text.Digit
import StakeRegistry.Text.Lines
import StakeRegistry.Text.Lower
import StakeRegistry.Text.LowerTable
import StakeRegistry.Text.Printable
import StakeRegistry.Text.Quoted
import StakeRegistry.Text.Raw
import StakeRegistry.Tx.Batch
import StakeRegistry.Tx.Chain
import StakeRegistry.Tx.Fees
import StakeRegistry.Tx.Receipt
import StakeRegistry.Tx.Submission
