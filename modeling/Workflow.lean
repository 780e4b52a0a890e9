import Workflow.ByteReader
import Workflow.Cbor.Basic
import Workflow.Cbor.Head
import Workflow.Cbor.Reader
import Workflow.Cbor.Typed
import Workflow.Cbor.Writer
import Workflow.Digest.Sha256
import Workflow.DomainName.Basic
import Workflow.DomainName.Composition
import Workflow.DomainName.CompositionTable
import Workflow.DomainName.Direction
import Workflow.DomainName.DirectionTable
import Workflow.DomainName.Joiner
import Workflow.DomainName.JoinerTable
import Workflow.DomainName.Mapping
import Workflow.DomainName.MappingTable
import Workflow.DomainName.Punycode
import Workflow.Failure
import Workflow.Graph.Basic
import Workflow.Graph.Binding
import Workflow.Graph.Entity
import Workflow.Graph.Error
import Workflow.Graph.Metadata
import Workflow.Graph.Node
import Workflow.Graph.Order
import Workflow.Graph.Overrides
import Workflow.Graph.Resource
import Workflow.Graph.Spec
import Workflow.Graph.Wire
import Workflow.Graph.Workspace
import Workflow.Json.Basic
import Workflow.Json.Fields
import Workflow.Json.Printer
import Workflow.Json.Reader
import Workflow.Keyed
import Workflow.Literal.Basic
import Workflow.Literal.Kind
import Workflow.Literal.Wire
import Workflow.Marshal.FileRecord
import Workflow.Marshal.Files
import Workflow.Marshal.HostType
import Workflow.Marshal.HostValue
import Workflow.Marshal.MediaType
import Workflow.Marshal.Primitives
import Workflow.Marshal.Registry
import Workflow.Marshal.Sealing
import Workflow.Marshal.Session
import Workflow.Marshal.Transformer
import Workflow.MessagePack.Basic
import Workflow.MessagePack.Reader
import Workflow.Number.BigEndian
import Workflow.Number.Binary64
import Workflow.Number.Decimal
import Workflow.Number.Narrow
import Workflow.Number.Shortest
import Workflow.Storage.Basic
import Workflow.Storage.Config
import Workflow.Storage.Error
import Workflow.Storage.FilePath
import Workflow.Storage.FileSystem
import Workflow.Storage.Uri
import Workflow.Text.Blank
import Workflow.Text.CodePoints
import Workflow.Text.Hex
import Workflow.Text.Hidden
import Workflow.Text.Label
import Workflow.Text.Percent
import Workflow.Text.Quoted
import Workflow.Text.Utf8
import Workflow.Time.Duration
import Workflow.Time.DurationText
import Workflow.Time.Instant
import Workflow.Time.InstantText
import Workflow.Url.Basic
import Workflow.Url.Host
import Workflow.Url.Path
import Workflow.Proofs.Order.DepthFirst
import Workflow.Proofs.Graph.Consistency
import Workflow.Proofs.Graph.Reachable
import Workflow.Proofs.Graph.TopologicalOrder
import Workflow.Proofs.Graph.BindingTree
import Workflow.Proofs.Graph.Rendering
import Workflow.Proofs.Calls
import Workflow.Proofs.Storage.Files
import Workflow.Proofs.Storage.Content
import Workflow.Proofs.Text.Utf8
import Workflow.Proofs.Marshal.Session
import Workflow.Proofs.Marshal.RoundTrip
import Workflow.Proofs.Marshal.Soundness
import Workflow.Proofs.Text.Label
import Workflow.Proofs.Graph.Admission
import Workflow.Proofs.Storage.Transcript
import Workflow.Proofs.Time.Calendar
import Workflow.Proofs.Time.Fields
import Workflow.Proofs.Time.InstantText
import Workflow.Proofs.Time.DurationText
import Workflow.Proofs.Json.Fields
import Workflow.Proofs.Literal.Wire
import Workflow.Proofs.Graph.Inputs
import Workflow.Proofs.Graph.Wire
import Workflow.Proofs.Graph.Cloning
import Workflow.Proofs.Marshal.Sending
import Workflow.Proofs.Marshal.Download
import Workflow.Proofs.Marshal.Registry
import Workflow.Proofs.Marshal.Materialization
import Workflow.Proofs.Codec.Reading
import Workflow.Proofs.Codec.MessagePack
import Workflow.Proofs.Codec.Cbor
import Workflow.Proofs.Storage.Paths
import Workflow.Proofs.Storage.Scratch
import Workflow.Proofs.Marshal.FileRecord
import Workflow.Proofs.Marshal.Sealing
import Workflow.Proofs.Graph.Links
import Workflow.Proofs.Graph.Ordering
import Workflow.Proofs.Graph.Ids
import Workflow.Proofs.Graph.Handles
import Workflow.Proofs.Graph.Confluence
import Workflow.Proofs.Graph.Writes
import Workflow.Proofs.Graph.Frame
import Workflow.Proofs.Graph.Composition
import Workflow.Proofs.Graph.Settings
import Workflow.Proofs.Text.Hex
import Workflow.Proofs.DomainName.Ascii
import Workflow.Proofs.Url.Path
import Workflow.Proofs.Url.Reading
import Workflow.Proofs.Url.Stem
import Workflow.Proofs.Url.Host
import Workflow.Proofs.Url.Segments
import Workflow.Proofs.Storage.Destinations
import Workflow.Proofs.Storage.Uploads
import Workflow.Proofs.Graph.Caching
import Workflow.Proofs.Marshal.Reemission
import Workflow.Proofs.Marshal.DeclaredTypes
import Workflow.Proofs.Marshal.Registrations
import Workflow.Proofs.Marshal.ReverseLookup
import Workflow.Proofs.Text.Words
import Workflow.Proofs.Marshal.Resolution
import Workflow.Proofs.Url.Authority
import Workflow.Proofs.Storage.Separation
import Workflow.Proofs.Graph.Numbering
import Workflow.Proofs.Graph.Resources
import Workflow.Proofs.Literal.Acceptance
import Workflow.Proofs.Marshal.Exactness
import Workflow.Proofs.Graph.Traversal
import Workflow.Proofs.Text.Ends
import Workflow.Proofs.Graph.Deadlines
import Workflow.Proofs.Storage.FileName
import Workflow.Proofs.Storage.Confinement
import Workflow.Proofs.Storage.Keys
import Workflow.Proofs.Url.Prefix
import Workflow.Proofs.Storage.Allocation
