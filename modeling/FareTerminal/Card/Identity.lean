import FareTerminal.Apdu.Response
import FareTerminal.Card.Budget
import FareTerminal.Card.Startup
import FareTerminal.Tlv

/-! What a card is, decoded from the outcome of its selection. -/

namespace FareTerminal.Card

/-- What a card says when it is selected: its answer to reset, and with it the file control
information if it has any. -/
inductive Selection where
  | fci (atr fci : Bytes) (status : StatusWord)
  | atrOnly (atr : Bytes)
  deriving Repr, DecidableEq

namespace Selection

/-- The outcome in the answer to reset and the response to the selection. Control information counts
when the selection was carried out or the application is invalidated. -/
def ofResponse (atr : Bytes) : Option Apdu.Response → Selection
  | none => atrOnly atr
  | some response =>
    if response.isSuccess || response.status == .invalidated then
      fci atr response.data response.status
    else atrOnly atr

end Selection

/-- Which part of the control information is wrong. -/
inductive ControlFault where
  | nameMissing
  | nameLength (length : Nat)
  | discretionaryMissing
  | serial
  | startup
  deriving Repr, DecidableEq

/-- Why a selection tells no identity. -/
inductive IdentityError where
  | malformed (fault : ControlFault)
  | atrLength (length : Nat)
  deriving Repr, DecidableEq

def ControlFault.message : ControlFault → String
  | nameMissing => "DF name (84) not found"
  | nameLength length => "DF name length " ++ toString length ++ " outside 5..=16"
  | discretionaryMissing => "issuer discretionary data (BF0C) not found"
  | serial => "serial number (C7) missing or not 8 bytes"
  | startup => "startup information (53) shorter than 7 bytes"

def IdentityError.message : IdentityError → String
  | malformed fault => "malformed card response: " ++ fault.message
  | atrLength length =>
    "unexpected ATR length: " ++ toString length ++ " bytes (legacy ATR is 20 bytes)"

/-- A card as it describes itself; the oldest cards have no application name. -/
structure Identity where
  revision : Revision
  serial : Bytes
  name : Option Bytes
  startup : Startup
  isInvalidated : Bool
  atr : Bytes
  deriving Repr, DecidableEq

namespace Identity

def capabilities (identity : Identity) : Capabilities :=
  .of identity.revision identity.startup

/-- How much may be modified in one session: three or six commands, or the session buffer. -/
def budget (identity : Identity) : Budget :=
  match identity.revision with
  | .rev1 => { unit := .commands, max := 3 }
  | .rev24 => { unit := .commands, max := 6 }
  | .rev31 | .rev31Clap | .rev32 =>
    { unit := .bytes, max := bufferSize identity.startup.bufferSizeIndicator }

def classByte (identity : Identity) : UInt8 := identity.revision.classByte

def fciTag : Bytes := [0x6F]
def nameTag : Bytes := [0x84]
def proprietaryTag : Bytes := [0xA5]
def discretionaryTag : Bytes := [0xBF, 0x0C]
def serialTag : Bytes := [0xC7]
def startupTag : Bytes := [0x53]

/-- The application name, five to sixteen bytes. -/
def readName (fci : Bytes) : Except ControlFault Bytes :=
  match Tlv.findPath? fci [fciTag, nameTag] with
  | none => .error .nameMissing
  | some name =>
    if 5 ≤ name.length ∧ name.length ≤ 16 then .ok name else .error (.nameLength name.length)

def readDiscretionary (fci : Bytes) : Except ControlFault Bytes :=
  match Tlv.findPath? fci [fciTag, proprietaryTag, discretionaryTag] with
  | none => .error .discretionaryMissing
  | some data => .ok data

/-- The serial number, eight bytes. -/
def readSerial (discretionary : Bytes) : Except ControlFault Bytes :=
  match Tlv.find? discretionary serialTag with
  | none => .error .serial
  | some serial => if serial.length = 8 then .ok serial else .error .serial

/-- The startup information, at least seven bytes. -/
def readStartup (discretionary : Bytes) : Except ControlFault Startup :=
  match (Tlv.find? discretionary startupTag).bind Startup.ofBytes? with
  | none => .error .startup
  | some startup => .ok startup

def ofFci (atr fci : Bytes) (status : StatusWord) : Except ControlFault Identity := do
  let name ← readName fci
  let discretionary ← readDiscretionary fci
  let serial ← readSerial discretionary
  let startup ← readStartup discretionary
  return { revision := .ofApplicationType startup.applicationType, serial, name := some name,
           startup, isInvalidated := status == .invalidated, atr }

/-- The identity in an answer to reset of twenty bytes: bytes 6 to 11 describe the software, bytes
12 to 15 are the low half of the serial number. -/
def ofAtr (atr : Bytes) : Except IdentityError Identity :=
  match if atr.length = 20 then Startup.ofBytes? (0 :: atr.drop 6) else none with
  | none => .error (.atrLength atr.length)
  | some startup =>
    .ok { revision := .rev1, serial := [0, 0, 0, 0] ++ (atr.drop 12).take 4, name := none, startup,
          isInvalidated := false, atr }

/-- The identity that the outcome of a selection tells. -/
def decode : Selection → Except IdentityError Identity
  | .fci atr fci status => (ofFci atr fci status).mapError .malformed
  | .atrOnly atr => ofAtr atr

end Identity

end FareTerminal.Card
