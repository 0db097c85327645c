/-! Generations of the card. -/

namespace FareTerminal.Card

/-- The generation of a card, which decides how it is spoken to. -/
inductive Revision where
  | rev1
  | rev24
  | rev31
  | rev31Clap
  | rev32
  deriving Repr, DecidableEq

namespace Revision

/-- The generation that an application type names: the top bit marks the light application, and
otherwise the top five bits tell 3.2 and 3.1 from 2.4. -/
def ofApplicationType (applicationType : UInt8) : Revision :=
  if applicationType &&& 0x80 ≠ 0 then rev31Clap
  else if applicationType >>> 3 = 0x05 then rev32
  else if applicationType >>> 3 = 0x04 then rev31
  else rev24

def classByte : Revision → UInt8
  | rev1 | rev24 => 0x94
  | rev31 | rev31Clap | rev32 => 0x00

theorem ofApplicationType_ne_rev1 (applicationType : UInt8) :
    ofApplicationType applicationType ≠ rev1 := by
  unfold ofApplicationType
  split
  · nofun
  · split
    · nofun
    · split <;> nofun

end Revision

end FareTerminal.Card
