import FareTerminal.Key.Level
import FareTerminal.Session.Error

/-! What a secure session needs of a security module. -/

namespace FareTerminal.Sam

/-- A question to the security module. -/
inductive Call where
  /-- Derive the keys of the card with this serial number. -/
  | selectDiversifier (serial : Bytes)
  /-- A challenge for the card. -/
  | getChallenge
  /-- Begin the digest with the card's response to the opening. -/
  | beginDigest (response : Bytes) (kif : Option UInt8) (kvc : UInt8) (level : AccessLevel)
  /-- Continue the digest with a command and its response. -/
  | updateDigest (command response : Bytes)
  /-- End the digest and sign it. -/
  | finalizeDigest
  /-- Is this the card's signature of the session? -/
  | verifyMac (signature : Bytes)
  /-- Complete the command that changes the stored value. -/
  | prepareChange (action : StoredValue.Action) (command response data : Bytes)
  /-- Is this the card's signature of the change? -/
  | checkChange (signature : Bytes)
  deriving Repr, DecidableEq

/-- What a question is answered with: nothing, bytes, or yes or no. -/
abbrev Call.Answer : Call → Type
  | selectDiversifier _ | beginDigest .. | updateDigest .. => Unit
  | getChallenge | finalizeDigest | prepareChange .. => Bytes
  | verifyMac _ | checkChange _ => Bool

end FareTerminal.Sam

namespace FareTerminal

/-- A security module answers one question at a time. -/
class SecurityModule (σ : Type) where
  consult : (call : Sam.Call) → EStateM SessionError σ call.Answer

end FareTerminal
