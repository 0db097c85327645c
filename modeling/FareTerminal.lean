import FareTerminal.Session.Operation
import FareTerminal.Sam.Client
import FareTerminal.Session.Journal
import FareTerminal.Tlv.Encoding
import FareTerminal.Key.Text
import FareTerminal.Proofs.Session.Dialogue
import FareTerminal.Proofs.Session.Course
import FareTerminal.Proofs.Session.Steps
import FareTerminal.Proofs.Session.Journal
import FareTerminal.Proofs.Session.Lifecycle
import FareTerminal.Proofs.Session.CloseResponse
import FareTerminal.Proofs.Session.Closing
import FareTerminal.Proofs.Session.Digest
import FareTerminal.Proofs.Session.Overflow
import FareTerminal.Proofs.Apdu.Packing
import FareTerminal.Proofs.Session.FileCommand
import FareTerminal.Proofs.Session.Opening
import FareTerminal.Session.Transcript
import FareTerminal.Proofs.Session.Transcript
import FareTerminal.Proofs.StoredValue.Limits
import FareTerminal.Proofs.Session.ValueDiscipline
import FareTerminal.Proofs.Session.Freshness
import FareTerminal.Proofs.Pattern.Brackets
import FareTerminal.Proofs.Pattern.Literal
import FareTerminal.Proofs.Pool.Exclusive
import FareTerminal.Proofs.Pool.Conservation
import FareTerminal.Proofs.Pool.Foreign
import FareTerminal.Proofs.Session.Framing
import FareTerminal.Proofs.Session.DigestInput
import FareTerminal.Proofs.Session.Refusal
import FareTerminal.Proofs.Session.BatchResults
import FareTerminal.Proofs.Session.BatchAppend
import FareTerminal.Proofs.Tlv.Lookup
import FareTerminal.Proofs.Tlv.Truncation
import FareTerminal.Proofs.Session.InitialReads
import FareTerminal.Proofs.Session.Handshake
import FareTerminal.Proofs.Card.Overflow
import FareTerminal.Proofs.StoredValue.Saturation
import FareTerminal.Proofs.Bytes.BigEndian
import FareTerminal.Proofs.StoredValue.CardLog
import FareTerminal.Proofs.Card.Identity
import FareTerminal.Proofs.StoredValue.Lossless
import FareTerminal.Proofs.Key.Concatenation
import FareTerminal.Pool.WaitingRoom
import FareTerminal.Proofs.Key.RoundTrip
import FareTerminal.Proofs.Pool.Course
import FareTerminal.Proofs.Pool.Policy
import FareTerminal.Proofs.Session.OpenResponse
import FareTerminal.Proofs.Session.Records
import FareTerminal.Proofs.Sam.Answers
import FareTerminal.Proofs.Session.Signature
import FareTerminal.Proofs.Bytes.TwosComplement
