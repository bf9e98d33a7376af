import ContentNode.Address.Basic
import ContentNode.Address.Codec
import ContentNode.Address.Shape
import ContentNode.Bytes.Hex
import ContentNode.Bytes.LittleEndian
import ContentNode.CommandLine.Arguments
import ContentNode.CommandLine.Failure
import ContentNode.CommandLine.Local
import ContentNode.CommandLine.Parser
import ContentNode.CommandLine.Run
import ContentNode.Config.Basic
import ContentNode.Config.File
import ContentNode.Config.SocketAddress
import ContentNode.Config.Toml
import ContentNode.Digest.Basic
import ContentNode.Digest.Blake3
import ContentNode.Digest.Crc32
import ContentNode.Digest.Sha3
import ContentNode.Engine.Config
import ContentNode.Engine.Debug
import ContentNode.Engine.Error
import ContentNode.Engine.Read
import ContentNode.Engine.Write
import ContentNode.FileSystem.Basic
import ContentNode.FileSystem.Edit
import ContentNode.FileSystem.Errno
import ContentNode.FileSystem.Operation
import ContentNode.FileSystem.Path
import ContentNode.Http.Health
import ContentNode.Http.Router
import ContentNode.Json.Basic
import ContentNode.Json.FromText
import ContentNode.Json.FromValue
import ContentNode.Json.Lexer
import ContentNode.Json.Parser
import ContentNode.Json.Printer
import ContentNode.Json.Skip
import ContentNode.Json.SyntaxError
import ContentNode.Log.Directive
import ContentNode.Log.Event
import ContentNode.Log.Filter
import ContentNode.Log.Level
import ContentNode.Log.Pattern
import ContentNode.Log.Pattern.CharacterSet
import ContentNode.Log.Pattern.Escape
import ContentNode.Log.Pattern.Mode
import ContentNode.Main
import ContentNode.Network
import ContentNode.Node
import ContentNode.NodeError
import ContentNode.Number.Binary64
import ContentNode.Number.Format
import ContentNode.Number.Literal
import ContentNode.Number.Shortest
import ContentNode.Program
import ContentNode.Rpc.Call
import ContentNode.Rpc.Dispatch
import ContentNode.Rpc.Error
import ContentNode.Rpc.Request
import ContentNode.Rpc.Response
import ContentNode.Rpc.ResponseReader
import ContentNode.Schema
import ContentNode.Store.Backend
import ContentNode.Store.Error
import ContentNode.Store.Faulty
import ContentNode.Store.File
import ContentNode.Store.Memory
import ContentNode.Store.Object
import ContentNode.Store.Opening
import ContentNode.Store.Operation
import ContentNode.Store.Record
import ContentNode.Store.Recording
import ContentNode.Store.Stats
import ContentNode.Text.Alphanumeric
import ContentNode.Text.Pieces
import ContentNode.Text.Quoted
import ContentNode.Text.Structure
import ContentNode.Text.Unprintable
import ContentNode.Toml.Basic
import ContentNode.Toml.Entries
import ContentNode.Toml.Excerpt
import ContentNode.Toml.Fault
import ContentNode.Toml.FromEntries
import ContentNode.Toml.Parser
import ContentNode.Toml.Printer
import ContentNode.Toml.Scalar
import ContentNode.Proofs.Address.Text
import ContentNode.Proofs.Engine.OnMemory
import ContentNode.Proofs.Rpc.Envelope
import ContentNode.Proofs.Rpc.Essence
import ContentNode.Proofs.Rpc.Reference
import ContentNode.Proofs.Store.File.Reading
import ContentNode.Proofs.FileSystem.Following
import ContentNode.Proofs.FileSystem.Reaching
import ContentNode.Proofs.FileSystem.Effects
import ContentNode.Proofs.Store.File.Naming
import ContentNode.Proofs.Store.Record.Coding
import ContentNode.Proofs.Store.Record.Frames
import ContentNode.Proofs.Store.File.Layout
import ContentNode.Proofs.Store.File.Steps
import ContentNode.Proofs.Store.File.Programs
import ContentNode.Proofs.Program.Meets
import ContentNode.Proofs.Program.Pool
import ContentNode.Proofs.Store.File.Counting
import ContentNode.Proofs.Store.File.Opening
import ContentNode.Proofs.Store.File.Refinement
import ContentNode.Proofs.Store.File.Sharing
import ContentNode.Proofs.Store.File.Acting
import ContentNode.Proofs.Store.File.Requests
import ContentNode.Proofs.Store.File.Interleaving
import ContentNode.Proofs.Schema.Members
import ContentNode.Proofs.Rpc.Handling
import ContentNode.Proofs.Rpc.Readers
import ContentNode.Proofs.Rpc.Deciding
import ContentNode.Proofs.Store.Events
import ContentNode.Proofs.Program.Clients
import ContentNode.Proofs.Engine.Schedules
import ContentNode.Proofs.Program.Runs
import ContentNode.Proofs.FileSystem.Making
import ContentNode.Proofs.FileSystem.Answers
import ContentNode.Proofs.Store.File.Faults
import ContentNode.Proofs.Store.File.Failing
import ContentNode.Proofs.Engine.OnFiles
import ContentNode.Proofs.Rpc.Notations
import ContentNode.Proofs.Json.Strings
import ContentNode.Proofs.Json.Numbers
import ContentNode.Proofs.Json.Reading
import ContentNode.Proofs.Rpc.RequestText
import ContentNode.Proofs.Rpc.ResponseText
import ContentNode.Proofs.Store.File.Sweeping
import ContentNode.Proofs.Address.Order
import ContentNode.Proofs.Address.Refusals
import ContentNode.Proofs.Program.Endings
import ContentNode.Proofs.Program.Transcripts
import ContentNode.Proofs.Store.History
import ContentNode.Proofs.Store.KeepsFirst
import ContentNode.Proofs.Engine.Tasks
import ContentNode.Proofs.Engine.Naming
import ContentNode.Proofs.Engine.Apart
import ContentNode.Proofs.FileSystem.Fresh
import ContentNode.Proofs.Store.File.Reflecting
import ContentNode.Proofs.Store.File.Swept
import ContentNode.Proofs.Store.File.Reopening
import ContentNode.Proofs.CommandLine.Calls
import ContentNode.Proofs.CommandLine.Sessions
import ContentNode.Proofs.FileSystem.Twins
import ContentNode.Proofs.FileSystem.Thinned
import ContentNode.Proofs.FileSystem.Rooted
import ContentNode.Proofs.Program.Asks
import ContentNode.Proofs.Store.File.Depositing
import ContentNode.Proofs.Store.File.Lasting
import ContentNode.Proofs.Store.File.Neighbours
import ContentNode.Proofs.Store.File.OpenedAlike
import ContentNode.Proofs.Store.File.Damage
import ContentNode.Proofs.Store.File.Cleaning
import ContentNode.Proofs.Store.File.Unmissed
import ContentNode.Proofs.Store.File.Cleaned
import ContentNode.Proofs.Digest.Crc32
import ContentNode.Proofs.Store.Offers
import ContentNode.Proofs.Store.File.Altered
import ContentNode.Proofs.Rpc.Asking
import ContentNode.Proofs.Rpc.Counting
import ContentNode.Proofs.Http.Serving
import ContentNode.Proofs.Http.Echoing
import ContentNode.Proofs.Number.Digits
import ContentNode.Proofs.Config.SocketAddress
import ContentNode.Proofs.Toml.Escapes
import ContentNode.Proofs.Toml.Strings
import ContentNode.Proofs.Toml.Integers
import ContentNode.Proofs.Toml.Lines
import ContentNode.Proofs.Toml.Ranges
import ContentNode.Proofs.Config.RoundTrip
import ContentNode.Proofs.Text.Writing
import ContentNode.Proofs.Rpc.Payloads
import ContentNode.Proofs.Rpc.Reports
import ContentNode.Proofs.Store.File.Inventory
import ContentNode.Proofs.Order.Listing
import ContentNode.Proofs.Address.TextOrder
