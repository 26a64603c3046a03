import SwitchAgent.Address.IsdAsForm
import SwitchAgent.Main
import SwitchAgent.Proofs.Session.Delivery
import SwitchAgent.Proofs.Session.Noise
import SwitchAgent.Proofs.Telemetry.Words
import SwitchAgent.Proofs.Agent.Refinement
import SwitchAgent.Proofs.Telemetry.Records
import SwitchAgent.Proofs.Agent.Reruns
import SwitchAgent.Proofs.Agent.Conduct
import SwitchAgent.Proofs.Agent.Routing
import SwitchAgent.Proofs.Control.Scripts
import SwitchAgent.Proofs.Agent.Election
import SwitchAgent.Proofs.Device.Envelopes
import SwitchAgent.Proofs.Json.Values
import SwitchAgent.Proofs.Device.Requests
import SwitchAgent.Proofs.Session.Sending
import SwitchAgent.Proofs.Telemetry.Messages
import SwitchAgent.Proofs.Telemetry.Reporting
import SwitchAgent.Proofs.Agent.Requests
import SwitchAgent.Proofs.Agent.Keys
import SwitchAgent.Proofs.Telemetry.Headers
import SwitchAgent.Proofs.Learning.Digests
import SwitchAgent.Proofs.Agent.Exchange
import SwitchAgent.Proofs.Agent.Outcome
import SwitchAgent.Proofs.Bytes.Codec
import SwitchAgent.Proofs.Learning.Flooding
import SwitchAgent.Proofs.Telemetry.Streaming
import SwitchAgent.Proofs.Telemetry.Setup
import SwitchAgent.Proofs.Telemetry.Cells
import SwitchAgent.Proofs.Address.Representations
import SwitchAgent.Proofs.Text.Blanks
import SwitchAgent.Proofs.Telemetry.RuleTables
import SwitchAgent.Proofs.Telemetry.Nodes
import SwitchAgent.Proofs.Settings.Precedence
import SwitchAgent.Proofs.Settings.Integers
import SwitchAgent.Proofs.Settings.Layers
import SwitchAgent.Proofs.Settings.Sources
import SwitchAgent.Proofs.Toml.Literals
import SwitchAgent.Proofs.Address.Documents
import SwitchAgent.Proofs.Telemetry.Walks
