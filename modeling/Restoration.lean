import Restoration.CommandLine
import Restoration.Main
import Restoration.Proofs.Json.Writing
import Restoration.Proofs.Text.Encoding
import Restoration.Proofs.Worker.Request
import Restoration.Proofs.Worker.Reply
import Restoration.Proofs.Worker.Transcript
import Restoration.Proofs.Worker.Calls
import Restoration.Proofs.Worker.Answering
import Restoration.Proofs.Worker.Isolation
import Restoration.Proofs.Worker.Dropping
import Restoration.Proofs.Worker.Noise
import Restoration.Proofs.Worker.Alike
import Restoration.Proofs.Route
import Restoration.Proofs.Text.Decoding
import Restoration.Proofs.Json.Reading
import Restoration.Proofs.Client
import Restoration.Proofs.Serving
import Restoration.Proofs.Checkpoint.Search
import Restoration.Proofs.Checkpoint.Lexical
import Restoration.Proofs.Preparation
import Restoration.Proofs.Startup.Order
import Restoration.Proofs.Route.Simulation
import Restoration.Proofs.Worker.InStep
import Restoration.Proofs.Startup.Tunnel
import Restoration.Proofs.CommandLine.Finding
import Restoration.Proofs.Binary.Rounding
import Restoration.Proofs.Binary.Overflow
import Restoration.Proofs.Binary.Shortest
import Restoration.Proofs.Json.Numerals
import Restoration.Proofs.Json.Values
import Restoration.Proofs.Worker.Wire
import Restoration.Proofs.Settings.Temperature
import Restoration.Proofs.Path
import Restoration.Proofs.Startup.Checkout
import Restoration.Proofs.Files.Walk
import Restoration.Proofs.Files.Frame
import Restoration.Proofs.Preparation.Frame
import Restoration.Proofs.Worker.Reading
import Restoration.Proofs.Worker.Gone
import Restoration.Proofs.CommandLine.Reading
import Restoration.Proofs.Worker.Handshake
import Restoration.Proofs.CommandLine.Flags
import Restoration.Proofs.Files.Descent
import Restoration.Proofs.Checkpoint.Opening
import Restoration.Proofs.Worker.Modules
import Restoration.Proofs.Json.Readable
import Restoration.Proofs.Prediction
import Restoration.Proofs.Checkpoint.Matcher
import Restoration.Proofs.Preparation.Cloning
import Restoration.Proofs.Files.Course
import Restoration.Proofs.Files.Thinning
import Restoration.Proofs.Checkpoint.Visits
import Restoration.Proofs.Checkpoint.Links
import Restoration.Proofs.Checkpoint.Unreadable
import Restoration.Proofs.Prediction.Bare
import Restoration.Proofs.Url
import Restoration.Proofs.Client.Announced
import Restoration.Proofs.Tunnel.Publishing
import Restoration.Proofs.Files.Untouched
import Restoration.Proofs.Preparation.Reporting
import Restoration.Proofs.Text.Integer
import Restoration.Proofs.Settings.Host
import Restoration.Proofs.Files.Fresh
import Restoration.Proofs.Startup.Temporary
