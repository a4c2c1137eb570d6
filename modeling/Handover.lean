import Handover.Clock
import Handover.CommandLine.Flag
import Handover.CommandLine.Parse
import Handover.Connection.Deadline
import Handover.Connection.Idle
import Handover.Connection.Stream
import Handover.Connection.Tracker
import Handover.Descriptors
import Handover.Encryption.Base64
import Handover.Encryption.Certificate
import Handover.Encryption.Der
import Handover.Encryption.Edwards
import Handover.Encryption.Files
import Handover.Encryption.Material
import Handover.Encryption.Modular
import Handover.Encryption.Octets
import Handover.Encryption.Pem
import Handover.Encryption.PrivateKey
import Handover.Encryption.Provider
import Handover.Encryption.Rsa
import Handover.Encryption.Sha512
import Handover.Encryption.Transport
import Handover.Encryption.Weierstrass
import Handover.Fault
import Handover.Hooks
import Handover.Http.Routes
import Handover.Listener.Basic
import Handover.Main
import Handover.Markers
import Handover.Network.Binding
import Handover.Network.Endpoint
import Handover.Network.Family
import Handover.Notice
import Handover.Options
import Handover.Program.Basic
import Handover.Program.Lineage
import Handover.Proofs.CommandLine.Forgetting
import Handover.Proofs.CommandLine.Markers
import Handover.Proofs.CommandLine.Options
import Handover.Proofs.CommandLine.Order
import Handover.Proofs.CommandLine.Reading
import Handover.Proofs.CommandLine.Terminator
import Handover.Proofs.CommandLine.Values
import Handover.Proofs.Connection.History
import Handover.Proofs.Connection.Idleness
import Handover.Proofs.Connection.Patience
import Handover.Proofs.Connection.Polling
import Handover.Proofs.Encryption.Loading
import Handover.Proofs.Listener.Closing
import Handover.Proofs.Network.Choosing
import Handover.Proofs.Program.DrainTimeout
import Handover.Proofs.Program.Encrypting
import Handover.Proofs.Registry.Operations
import Handover.Proofs.Registry.Seeding
import Handover.Proofs.Registry.Slots
import Handover.Proofs.Registry.Tables
import Handover.Proofs.Restart.Continuity
import Handover.Proofs.Restart.Counting
import Handover.Proofs.Restart.Coverage
import Handover.Proofs.Restart.Failing
import Handover.Proofs.Restart.Generations
import Handover.Proofs.Restart.Household
import Handover.Proofs.Restart.Kinship
import Handover.Proofs.Restart.Leaking
import Handover.Proofs.Restart.Mapping
import Handover.Proofs.Restart.Pending
import Handover.Proofs.Restart.Placement
import Handover.Proofs.Restart.Repeating
import Handover.Proofs.Restart.Replacing
import Handover.Proofs.Restart.Reporting
import Handover.Proofs.Restart.Room
import Handover.Proofs.Restart.Sparing
import Handover.Proofs.Restart.Telling
import Handover.Proofs.Server.Adoption
import Handover.Proofs.Server.Advance
import Handover.Proofs.Server.Bearing
import Handover.Proofs.Server.Blocks
import Handover.Proofs.Server.Capturing
import Handover.Proofs.Server.Claims
import Handover.Proofs.Server.Destination
import Handover.Proofs.Server.Frame
import Handover.Proofs.Server.Handling
import Handover.Proofs.Server.Listening
import Handover.Proofs.Server.Living
import Handover.Proofs.Server.Onward
import Handover.Proofs.Server.Opening
import Handover.Proofs.Server.Passing
import Handover.Proofs.Server.Resuming
import Handover.Proofs.Server.Securing
import Handover.Proofs.Server.Steering
import Handover.Proofs.Server.Stopping
import Handover.Proofs.Server.Tracing
import Handover.Proofs.Server.Warning
import Handover.Proofs.Server.Withdrawing
import Handover.Proofs.Server.Yielding
import Handover.Proofs.Service.Arming
import Handover.Proofs.Service.Connections
import Handover.Proofs.Service.Events
import Handover.Proofs.Service.Expiry
import Handover.Proofs.Service.Lifecycle
import Handover.Proofs.Service.Looping
import Handover.Proofs.Service.Retrying
import Handover.Proofs.Service.Safety
import Handover.Proofs.Service.Timing
import Handover.Proofs.Text.Numerals
import Handover.Registry
import Handover.Restart.Arguments
import Handover.Restart.Placement
import Handover.Restart.Plan
import Handover.Scenario.Events
import Handover.Scenario.Folder
import Handover.Scenario.Handing
import Handover.Scenario.Lasting
import Handover.Scenario.Listening
import Handover.Scenario.Registering
import Handover.Scenario.Running
import Handover.Scenario.Serving
import Handover.Scenario.Tracking
import Handover.Server.Basic
import Handover.Server.Calls
import Handover.Server.Move
import Handover.Server.Run
import Handover.Server.Signals
import Handover.Service.Basic
import Handover.Service.Lifecycle
import Handover.Settings
import Handover.Signal
import Handover.Span
import Handover.SystemError
import Handover.Text.Blank
import Handover.Text.Numeral
import Handover.Text.Os
import Handover.Text.Quoted
import Handover.Text.Unprintable
