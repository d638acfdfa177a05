import TensorExchange.Allocator
import TensorExchange.Buffer.Array
import TensorExchange.Buffer.Basic
import TensorExchange.Buffer.Read
import TensorExchange.Buffer.Write
import TensorExchange.Capsule
import TensorExchange.Config
import TensorExchange.Config.Document
import TensorExchange.Decimal.Binary
import TensorExchange.Decimal.Shortest
import TensorExchange.Decimal.Written
import TensorExchange.Device
import TensorExchange.ElementType
import TensorExchange.Error
import TensorExchange.Exchange.Export
import TensorExchange.Exchange.Foreign
import TensorExchange.Exchange.Import
import TensorExchange.Exchange.RecordLayout
import TensorExchange.Format
import TensorExchange.Interop.Display
import TensorExchange.Interop.Object
import TensorExchange.Interop.Run
import TensorExchange.Interop.Transfer
import TensorExchange.Interop.Value
import TensorExchange.Layout.Basic
import TensorExchange.Layout.Index
import TensorExchange.Layout.Order
import TensorExchange.Layout.Span
import TensorExchange.Memory.Account
import TensorExchange.Memory.Backend
import TensorExchange.Memory.Heap
import TensorExchange.Memory.Pointer
import TensorExchange.Memory.Table
import TensorExchange.Memory.Tensor
import TensorExchange.Negotiation
import TensorExchange.Proofs.Account
import TensorExchange.Proofs.Admission
import TensorExchange.Proofs.Adoption
import TensorExchange.Proofs.Agreement
import TensorExchange.Proofs.Allocation
import TensorExchange.Proofs.Array
import TensorExchange.Proofs.Bounds
import TensorExchange.Proofs.Buffer.Addressing
import TensorExchange.Proofs.Buffer.Copy
import TensorExchange.Proofs.Buffer.Gather
import TensorExchange.Proofs.Buffer.InPlace
import TensorExchange.Proofs.Buffer.Read
import TensorExchange.Proofs.Buffer.Write
import TensorExchange.Proofs.Compact
import TensorExchange.Proofs.Device
import TensorExchange.Proofs.Environment
import TensorExchange.Proofs.Exchange.Describe
import TensorExchange.Proofs.Exchange.Located
import TensorExchange.Proofs.Exchange.Reimport
import TensorExchange.Proofs.Exchange.Stated
import TensorExchange.Proofs.Exclusive
import TensorExchange.Proofs.Extent
import TensorExchange.Proofs.Interop.Custody
import TensorExchange.Proofs.Interop.Deals
import TensorExchange.Proofs.Interop.Negotiation
import TensorExchange.Proofs.Interop.Objects
import TensorExchange.Proofs.Interop.References
import TensorExchange.Proofs.Interop.Scene
import TensorExchange.Proofs.Interop.Steps
import TensorExchange.Proofs.Layout.Corners
import TensorExchange.Proofs.Layout.Counting
import TensorExchange.Proofs.Layout.Hull
import TensorExchange.Proofs.Layout.Index
import TensorExchange.Proofs.Layout.Odometer
import TensorExchange.Proofs.Layout.Order
import TensorExchange.Proofs.Layout.Packed
import TensorExchange.Proofs.Layout.Rows
import TensorExchange.Proofs.Layout.Strides
import TensorExchange.Proofs.OneShot
import TensorExchange.Proofs.Ownership.Alone
import TensorExchange.Proofs.Ownership.Balance
import TensorExchange.Proofs.Ownership.Books
import TensorExchange.Proofs.Ownership.Chains
import TensorExchange.Proofs.Ownership.Failure
import TensorExchange.Proofs.Ownership.Journal
import TensorExchange.Proofs.Ownership.Reachable
import TensorExchange.Proofs.Ownership.Session
import TensorExchange.Proofs.Ownership.Stakes
import TensorExchange.Proofs.Ownership.World
import TensorExchange.Proofs.Portable
import TensorExchange.Proofs.ReadOnly
import TensorExchange.Proofs.Refusal
import TensorExchange.Proofs.Registry
import TensorExchange.Proofs.Release
import TensorExchange.Proofs.Reshape
import TensorExchange.Proofs.Result
import TensorExchange.Proofs.RoundTrip
import TensorExchange.Proofs.Shared
import TensorExchange.Proofs.Soundness.Growth
import TensorExchange.Proofs.Soundness.Live
import TensorExchange.Proofs.Soundness.Moves
import TensorExchange.Proofs.Soundness.Rooted
import TensorExchange.Proofs.Soundness.Sound
import TensorExchange.Registry
import TensorExchange.Scalar
import TensorExchange.Serialized
import TensorExchange.Session.Basic
import TensorExchange.Session.Buffers
import TensorExchange.Session.Capsules
import TensorExchange.Session.Memory
import TensorExchange.Session.Registries
import TensorExchange.Session.Run
import TensorExchange.Session.Tensors
import TensorExchange.Slots
import TensorExchange.Text.Blank
import TensorExchange.Text.Case
import TensorExchange.Text.Case.Table
import TensorExchange.Text.Listing
import TensorExchange.Text.Numeral
import TensorExchange.Toml.Document
import TensorExchange.Toml.Moment
import TensorExchange.Toml.Number
import TensorExchange.Toml.Quoted
import TensorExchange.Toml.Scan
import TensorExchange.Toml.Value
