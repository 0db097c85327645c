import FareTerminal.Bytes
import FareTerminal.Card.Revision

/-! The startup information of a card, and what it says the card can do. -/

namespace FareTerminal.Card

/-- The seven bytes with which a card describes its software. -/
structure Startup where
  bufferSizeIndicator : UInt8
  platform : UInt8
  applicationType : UInt8
  applicationSubtype : UInt8
  softwareIssuer : UInt8
  softwareVersion : UInt8
  softwareRevision : UInt8
  deriving Repr, DecidableEq

namespace Startup

/-- Reads the first seven bytes. -/
def ofBytes? : Bytes → Option Startup
  | bufferSizeIndicator :: platform :: applicationType :: applicationSubtype :: softwareIssuer ::
      softwareVersion :: softwareRevision :: _ =>
    some { bufferSizeIndicator, platform, applicationType, applicationSubtype, softwareIssuer,
           softwareVersion, softwareRevision }
  | _ => none

def toBytes (startup : Startup) : Bytes :=
  [startup.bufferSizeIndicator, startup.platform, startup.applicationType,
   startup.applicationSubtype, startup.softwareIssuer, startup.softwareVersion,
   startup.softwareRevision]

@[simp] theorem ofBytes?_toBytes (startup : Startup) (rest : Bytes) :
    ofBytes? (startup.toBytes ++ rest) = some startup := rfl

end Startup

/-- What a card can do. -/
structure Capabilities where
  confidentialSession : Bool := false
  deselectRatification : Bool := false
  publicAuthentication : Bool := false
  storedValue : Bool := false
  pin : Bool := false
  deriving Repr, DecidableEq

/-- What the bits of an application type say. -/
def Capabilities.ofApplicationType (applicationType : UInt8) : Capabilities where
  confidentialSession := applicationType &&& 0x08 ≠ 0
  deselectRatification := applicationType &&& 0x04 = 0
  publicAuthentication := applicationType &&& 0x10 ≠ 0
  storedValue := applicationType &&& 0x02 ≠ 0
  pin := applicationType &&& 0x01 ≠ 0

/-- The oldest cards can be ratified by deselection and nothing else; of any other card the
application type tells. -/
def Capabilities.of (revision : Revision) (startup : Startup) : Capabilities :=
  match revision with
  | .rev1 => { deselectRatification := true }
  | .rev24 | .rev31 | .rev31Clap | .rev32 => ofApplicationType startup.applicationType

end FareTerminal.Card
