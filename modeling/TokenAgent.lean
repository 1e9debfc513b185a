import TokenAgent.Agent.Operation
import TokenAgent.Config.File
import TokenAgent.Connection
import TokenAgent.Identity.Locator
import TokenAgent.Socket
import TokenAgent.Transport.Playback
import TokenAgent.Transport.Simulator
import TokenAgent.Proofs.Bytes
import TokenAgent.Proofs.Reader
import TokenAgent.Proofs.Frame.Reading
import TokenAgent.Proofs.Frame.RoundTrip
import TokenAgent.Proofs.Frame.Arrival
import TokenAgent.Proofs.Transport.Simulator
import TokenAgent.Proofs.Exchange.Simulated
import TokenAgent.Proofs.Exchange.Pairing
import TokenAgent.Proofs.Wire
import TokenAgent.Proofs.Agent.Handler
import TokenAgent.Proofs.Connection.Inbound
import TokenAgent.Proofs.Connection.Serving
import TokenAgent.Proofs.Exchange.Sequence
import TokenAgent.Proofs.Identity.DerivationPath
import TokenAgent.Proofs.Token.Payloads
import TokenAgent.Proofs.Token.Signing
import TokenAgent.Proofs.Agent.Listing
import TokenAgent.Proofs.Agent.Run
import TokenAgent.Proofs.Agent.Identities
import TokenAgent.Proofs.Token.KeyRequest
import TokenAgent.Proofs.Curve.Prime
import TokenAgent.Proofs.Curve.Points
import TokenAgent.Proofs.Agent.Log
import TokenAgent.Proofs.Key.Point
import TokenAgent.Proofs.Token.PublicKey
import TokenAgent.Proofs.Agent.Keys
import TokenAgent.Proofs.Identity.Canonical
import TokenAgent.Proofs.Identity.Legible
import TokenAgent.Proofs.Exchange.Leftovers
import TokenAgent.Proofs.Json.Reading
import TokenAgent.Proofs.Json.Text
import TokenAgent.Proofs.Json.Number
import TokenAgent.Proofs.Json.Record
import TokenAgent.Proofs.Json.Accepted
import TokenAgent.Proofs.Identity.Json
import TokenAgent.Proofs.Config.Json
import TokenAgent.Proofs.Agent.Quiet
import TokenAgent.Proofs.Connection.Sharing
import TokenAgent.Proofs.Connection.Interleaving
import TokenAgent.Proofs.Transport.Runs
import TokenAgent.Proofs.Exchange.Sending
import TokenAgent.Proofs.Checked.Access
import TokenAgent.Proofs.Checked.Frame
import TokenAgent.Proofs.Exchange.Arrivals
import TokenAgent.Proofs.Token.Failures
import TokenAgent.Proofs.Checked.Payload
import TokenAgent.Proofs.Checked.Token
import TokenAgent.Proofs.Frame.Faults
import TokenAgent.Proofs.Signature
import TokenAgent.Proofs.Agent.Answer
import TokenAgent.Proofs.Agent.Loading
import TokenAgent.Proofs.Agent.Request
import TokenAgent.Proofs.Transport.Corruption
import TokenAgent.Proofs.Identity.Layout
import TokenAgent.Proofs.Wire.Attempts
import TokenAgent.Proofs.Wire.Fields
import TokenAgent.Proofs.Frame.Packing
import TokenAgent.Proofs.Text.Base64
import TokenAgent.Proofs.Key.Line
