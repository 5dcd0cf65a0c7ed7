import PosvGateway.Main
import PosvGateway.Proofs.Amount
import PosvGateway.Proofs.Balance
import PosvGateway.Proofs.Balance.Annotation
import PosvGateway.Proofs.Balance.Readable
import PosvGateway.Proofs.Construction.Binding
import PosvGateway.Proofs.Construction.Course
import PosvGateway.Proofs.Construction.Description
import PosvGateway.Proofs.Construction.Fee
import PosvGateway.Proofs.Construction.Options
import PosvGateway.Proofs.Construction.Signing
import PosvGateway.Proofs.Construction.Transaction
import PosvGateway.Proofs.Construction.Transfer
import PosvGateway.Proofs.Construction.WireFormat
import PosvGateway.Proofs.Construction.Workflow
import PosvGateway.Proofs.Gateway.Configured
import PosvGateway.Proofs.Gateway.Conversation
import PosvGateway.Proofs.Gateway.Gate
import PosvGateway.Proofs.Gateway.Request
import PosvGateway.Proofs.Gateway.Task
import PosvGateway.Proofs.Hex
import PosvGateway.Proofs.Hex.Grammar
import PosvGateway.Proofs.Json
import PosvGateway.Proofs.Json.Literal
import PosvGateway.Proofs.Json.Number
import PosvGateway.Proofs.Json.Reader
import PosvGateway.Proofs.Json.Record
import PosvGateway.Proofs.Json.Rendering
import PosvGateway.Proofs.Json.Spelling
import PosvGateway.Proofs.Keccak
import PosvGateway.Proofs.Ledger.Seal
import PosvGateway.Proofs.Numeral
import PosvGateway.Proofs.Numeral.Value
import PosvGateway.Proofs.Octets
import PosvGateway.Proofs.OrderedMap
import PosvGateway.Proofs.OrderedMap.Entry
import PosvGateway.Proofs.OrderedMap.Merge
import PosvGateway.Proofs.Outcome
import PosvGateway.Proofs.Query.Answers
import PosvGateway.Proofs.Query.Assembly
import PosvGateway.Proofs.Query.Fees
import PosvGateway.Proofs.Query.Methods
import PosvGateway.Proofs.Query.Numbering
import PosvGateway.Proofs.Query.RunningBalances
import PosvGateway.Proofs.Query.Shape
import PosvGateway.Proofs.Query.Traces
import PosvGateway.Proofs.Reward
import PosvGateway.Proofs.Reward.Order
import PosvGateway.Proofs.Reward.Split
import PosvGateway.Proofs.Rlp.Field
import PosvGateway.Proofs.Rlp.Item
import PosvGateway.Proofs.Rlp.Unique
import PosvGateway.Proofs.Trace.Conservation
import PosvGateway.Proofs.Trace.Depth
import PosvGateway.Proofs.Trace.Executed
import PosvGateway.Proofs.Trace.History
import PosvGateway.Proofs.Trace.Lineage
import PosvGateway.Proofs.Trace.Pairing
import PosvGateway.Proofs.Trace.Reverted
import PosvGateway.Proofs.Trace.Telling
