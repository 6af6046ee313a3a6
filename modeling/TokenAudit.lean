import TokenAudit.Address
import TokenAudit.Code.Entropy
import TokenAudit.Code.Instruction
import TokenAudit.Code.Opcode
import TokenAudit.Code.Report
import TokenAudit.Code.Selector
import TokenAudit.CommandLine.Arguments
import TokenAudit.CommandLine.Help
import TokenAudit.CommandLine.Program
import TokenAudit.Decimal.Binary
import TokenAudit.Decimal.Literal
import TokenAudit.Decimal.Shortest
import TokenAudit.Domain.Composition
import TokenAudit.Domain.Mapping
import TokenAudit.Domain.Name
import TokenAudit.Domain.Property
import TokenAudit.Domain.Punycode
import TokenAudit.Domain.Run
import TokenAudit.Fault
import TokenAudit.Identity
import TokenAudit.Json.Decoder
import TokenAudit.Json.Reading
import TokenAudit.Json.Value
import TokenAudit.Keccak
import TokenAudit.Ledger.Abi
import TokenAudit.Ledger.Basic
import TokenAudit.Ledger.BlockRef
import TokenAudit.Ledger.Disturbed
import TokenAudit.Ledger.Log
import TokenAudit.Ledger.Quantity
import TokenAudit.Ledger.Recorded
import TokenAudit.Main
import TokenAudit.Profile.Assess
import TokenAudit.Profile.Entry
import TokenAudit.Profile.Metadata
import TokenAudit.Record.Code
import TokenAudit.Record.Profile
import TokenAudit.Record.Registry
import TokenAudit.Record.Scalar
import TokenAudit.Record.Scan
import TokenAudit.Record.Settings
import TokenAudit.Registry.Basic
import TokenAudit.Registry.DisplayName
import TokenAudit.Registry.Entry
import TokenAudit.Registry.Guarded
import TokenAudit.Registry.Linking
import TokenAudit.Registry.Memory
import TokenAudit.Registry.Uid
import TokenAudit.Rpc.Answer
import TokenAudit.Rpc.Backoff
import TokenAudit.Rpc.Client
import TokenAudit.Rpc.Endpoints
import TokenAudit.Rpc.Http
import TokenAudit.Rpc.Params
import TokenAudit.Rpc.Scripted
import TokenAudit.Rpc.Served
import TokenAudit.Rpc.Target
import TokenAudit.Rpc.Transcript
import TokenAudit.Rpc.Transport
import TokenAudit.Scan.Fetch
import TokenAudit.Scan.Holders
import TokenAudit.Scan.Snapshot
import TokenAudit.Scan.Window
import TokenAudit.Settings
import TokenAudit.Settings.Environment
import TokenAudit.Table
import TokenAudit.Text.Blank
import TokenAudit.Text.Hex
import TokenAudit.Text.Lowercase
import TokenAudit.Text.Numeral
import TokenAudit.Text.Search
import TokenAudit.Text.Terminal
import TokenAudit.Time.Moment
import TokenAudit.Time.Span
import TokenAudit.Transfer.Concentration
import TokenAudit.Transfer.Event
import TokenAudit.Transfer.Replay
import TokenAudit.Url.Basic
import TokenAudit.Url.Host
import TokenAudit.Url.Percent
import TokenAudit.Url.Reading
import TokenAudit.Word
import TokenAudit.Proofs.Table
import TokenAudit.Proofs.Transfer.Conservation
import TokenAudit.Proofs.Ledger.Failures
import TokenAudit.Proofs.Ledger.Ranges
import TokenAudit.Proofs.Scan.Course
import TokenAudit.Proofs.Scan.Partition
import TokenAudit.Proofs.Scan.Standing
import TokenAudit.Proofs.Scan.Rechunking
import TokenAudit.Proofs.Scan.LostChunks
import TokenAudit.Proofs.Scan.PassingFailures
import TokenAudit.Proofs.Registry.Requests
import TokenAudit.Proofs.Registry.Consistency
import TokenAudit.Proofs.Registry.Interleaving
import TokenAudit.Proofs.Scan.Accounts
import TokenAudit.Proofs.CommandLine.ScannedWindow
import TokenAudit.Proofs.Profile.Course
import TokenAudit.Proofs.Registry.Faltering
import TokenAudit.Proofs.Profile.Atomicity
import TokenAudit.Proofs.Profile.History
import TokenAudit.Proofs.Profile.Clearance
import TokenAudit.Proofs.Profile.Agreement
import TokenAudit.Proofs.Rpc.Course
import TokenAudit.Proofs.Rpc.Failover
import TokenAudit.Proofs.Rpc.Patience
import TokenAudit.Proofs.Registry.Relinking
import TokenAudit.Proofs.Registry.Balances
import TokenAudit.Proofs.Registry.Renaming
import TokenAudit.Proofs.Registry.Recovery
import TokenAudit.Proofs.Scan.Idempotence
import TokenAudit.Proofs.Ledger.Spellings
import TokenAudit.Proofs.Rpc.Serving
import TokenAudit.Proofs.Scan.Coverage
import TokenAudit.Proofs.Transfer.NetSum
import TokenAudit.Proofs.Transfer.Ranking
import TokenAudit.Proofs.Transfer.Reordering
import TokenAudit.Proofs.Url.Site
import TokenAudit.Proofs.Rpc.Keys
import TokenAudit.Proofs.Rpc.Masking
import TokenAudit.Proofs.Code.Reading
import TokenAudit.Proofs.Code.Boundaries
import TokenAudit.Proofs.Code.Checks
import TokenAudit.Proofs.Code.Extension
import TokenAudit.Proofs.Code.Selectors
import TokenAudit.Proofs.Transfer.Decoding
import TokenAudit.Proofs.Transfer.Acceptance
import TokenAudit.Proofs.Scan.TopHolders
import TokenAudit.Proofs.Transfer.Shares
import TokenAudit.Proofs.Scan.Timetable
import TokenAudit.Proofs.Scan.Pursuit
import TokenAudit.Proofs.Scan.Attempts
import TokenAudit.Proofs.Text.Numerals
import TokenAudit.Proofs.Text.LetterCase
import TokenAudit.Proofs.Ledger.Quantities
import TokenAudit.Proofs.Ledger.References
import TokenAudit.Proofs.Rpc.Budget
import TokenAudit.Proofs.Json.Written
import TokenAudit.Proofs.Json.Decoding
import TokenAudit.Proofs.Record.RoundTrip
import TokenAudit.Proofs.Ledger.Results
import TokenAudit.Proofs.Profile.Metadata
