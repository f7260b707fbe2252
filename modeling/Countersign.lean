import Countersign.Text.Uuid
import Countersign.Text.Literal
import Countersign.Calendar.Timestamp
import Countersign.Node.BringUp
import Countersign.Flow.Run
import Countersign.Keystore.Command
import Countersign.Stores.Command
import Countersign.Envelope.Command
import Countersign.Site
import Countersign.Key.Command
import Countersign.Key.Use
import Countersign.Key.Record
import Countersign.Key.Flags
import Countersign.Json.Render
import Countersign.Json.Reader
import Countersign.Crypto.Blake3
import Countersign.Crypto.Aead
import Countersign.Crypto.Ed25519
import Countersign.Crypto.X25519
import Countersign.Proofs.Canonical
import Countersign.Proofs.Json.Document
import Countersign.Proofs.Json.Records
import Countersign.Proofs.Envelope.Header
import Countersign.Proofs.Envelope.Wire
import Countersign.Proofs.Envelope.Verbatim
import Countersign.Proofs.Envelope.History
import Countersign.Proofs.Envelope.SigningInput
import Countersign.Proofs.Envelope.Growth
import Countersign.Proofs.Key.Use
import Countersign.Proofs.Flow.Evidence
import Countersign.Proofs.Flow.Verdict
import Countersign.Proofs.Flow.Signing
import Countersign.Proofs.Flow.Relay
import Countersign.Proofs.Table
import Countersign.Proofs.Stores
import Countersign.Proofs.Site
import Countersign.Proofs.Key.Flags
import Countersign.Proofs.Key.Record
import Countersign.Proofs.Keystore.Changes
import Countersign.Proofs.Keystore.Selection
import Countersign.Proofs.Keystore.Recency
import Countersign.Proofs.Keystore.Persistence
import Countersign.Proofs.Flow.Uses
import Countersign.Proofs.Flow.Isolation
import Countersign.Proofs.Flow.Revocation
import Countersign.Proofs.Flow.Effect
import Countersign.Proofs.Flow.Sealing
import Countersign.Proofs.Crypto.Sealed
import Countersign.Proofs.Flow.Layers
import Countersign.Proofs.Flow.Splitting
import Countersign.Proofs.Flow.Appending
import Countersign.Proofs.Keystore.Provisioning
import Countersign.Proofs.Key.Sharing
import Countersign.Proofs.Keystore.Fleets
import Countersign.Proofs.Keystore.Identity
import Countersign.Keystore.Request
import Countersign.Proofs.Keystore.Choice
import Countersign.Proofs.Keystore.Atomicity
import Countersign.Proofs.Flow.Compile
import Countersign.Proofs.Flow.Gate
import Countersign.Proofs.Node.Apis
import Countersign.Proofs.Node.BringUp
import Countersign.Proofs.Crypto.Opening
import Countersign.Proofs.Key.Shapes
import Countersign.Proofs.Sextets
import Countersign.Proofs.ByteOrder
import Countersign.Proofs.Stores.Maps
import Countersign.Proofs.Key.LastWrite
import Countersign.Proofs.Calendar.Date
import Countersign.Proofs.Calendar.Timestamp
