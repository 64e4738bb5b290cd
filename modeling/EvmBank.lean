import EvmBank.Abi
import EvmBank.Address
import EvmBank.Address.Derived
import EvmBank.Bytes.Brief
import EvmBank.Bytes.Endian
import EvmBank.Bytes.Hex
import EvmBank.Denom
import EvmBank.Digest.Blocks
import EvmBank.Digest.Keccak
import EvmBank.Digest.Sha256
import EvmBank.Document.Message
import EvmBank.Document.Params
import EvmBank.Document.Scalar
import EvmBank.Document.TomlParams
import EvmBank.Engine
import EvmBank.Engine.Error
import EvmBank.Engine.Transition
import EvmBank.Engine.Validation
import EvmBank.Execution.Config
import EvmBank.Execution.Native
import EvmBank.Execution.Program
import EvmBank.Fault
import EvmBank.Fee
import EvmBank.Fork
import EvmBank.Gas.Floor
import EvmBank.Gas.Intrinsic
import EvmBank.Gas.Meter
import EvmBank.Gas.Tally
import EvmBank.Genesis
import EvmBank.Grant
import EvmBank.Hash
import EvmBank.Header
import EvmBank.Header.BlockHash
import EvmBank.Header.Store
import EvmBank.Json.Parser
import EvmBank.Json.Record
import EvmBank.Json.Token
import EvmBank.Json.Value
import EvmBank.Ledger
import EvmBank.Ledger.Books
import EvmBank.Ledger.Call
import EvmBank.Log
import EvmBank.Message
import EvmBank.Params
import EvmBank.Precompile.Call
import EvmBank.Precompile.Table
import EvmBank.Precompile.Token
import EvmBank.Quantity
import EvmBank.Receipt
import EvmBank.Registry
import EvmBank.Rlp
import EvmBank.SortedMap
import EvmBank.Text.Digits
import EvmBank.Text.Quoted
import EvmBank.Text.Shown
import EvmBank.Toml.Parser
import EvmBank.Toml.Scalar
import EvmBank.Toml.Table
import EvmBank.Toml.Text
import EvmBank.Proofs.Abi.Codec
import EvmBank.Proofs.Abi.Reading
import EvmBank.Proofs.Address.Canonical
import EvmBank.Proofs.Address.Creation
import EvmBank.Proofs.Address.Grammar
import EvmBank.Proofs.Address.Hexadecimal
import EvmBank.Proofs.Checked
import EvmBank.Proofs.Document.Pairs
import EvmBank.Proofs.Document.Params
import EvmBank.Proofs.Document.Scalar
import EvmBank.Proofs.Engine.Acceptance
import EvmBank.Proofs.Engine.Admission
import EvmBank.Proofs.Engine.Checks
import EvmBank.Proofs.Engine.Commutation
import EvmBank.Proofs.Engine.Completion
import EvmBank.Proofs.Engine.Conservation
import EvmBank.Proofs.Engine.Containment
import EvmBank.Proofs.Engine.Contracts
import EvmBank.Proofs.Engine.Course
import EvmBank.Proofs.Engine.Custody
import EvmBank.Proofs.Engine.Export
import EvmBank.Proofs.Engine.Faults
import EvmBank.Proofs.Engine.GasCharge
import EvmBank.Proofs.Engine.Genesis
import EvmBank.Proofs.Engine.Lifetime
import EvmBank.Proofs.Engine.Metering
import EvmBank.Proofs.Engine.Payment
import EvmBank.Proofs.Engine.ReceiptLogs
import EvmBank.Proofs.Engine.Replay
import EvmBank.Proofs.Engine.Settlement
import EvmBank.Proofs.Engine.Simulation
import EvmBank.Proofs.Engine.Table
import EvmBank.Proofs.Execution.Emission
import EvmBank.Proofs.Fork.Order
import EvmBank.Proofs.Gas.Charge
import EvmBank.Proofs.Gas.Intrinsic
import EvmBank.Proofs.Header.BlockHash
import EvmBank.Proofs.Header.Encoding
import EvmBank.Proofs.Header.Retention
import EvmBank.Proofs.Ledger.Conservation
import EvmBank.Proofs.Ledger.Logs
import EvmBank.Proofs.Ledger.Scopes
import EvmBank.Proofs.Ledger.Snapshots
import EvmBank.Proofs.Precompile.Listing
import EvmBank.Proofs.Precompile.Table
import EvmBank.Proofs.Registry.History
import EvmBank.Proofs.Registry.Keys
import EvmBank.Proofs.Token.Bounds
import EvmBank.Proofs.Token.Grants
import EvmBank.Proofs.Token.Ideal
import EvmBank.Proofs.Token.Requests
import EvmBank.Proofs.Token.Transparency
