import FareTerminal.Bytes
import FareTerminal.Duration
import FareTerminal.Text.Quoted

/-! What security modules a pool holds, and which of them a caller wants; a security module in a
caller's hands, and why a caller gets none or cannot give one back. -/

namespace FareTerminal.Pool

/-- A generation of security modules; the first stands for any. -/
inductive Generation where
  | any
  | c1
  | s1e
  | s1d
  deriving Repr, DecidableEq

/-- What a security module says of itself. -/
structure Descriptor where
  group : String
  generation : Generation := .any
  serial : Bytes
  deriving Repr, DecidableEq

/-- Which security modules a caller can use: those of a group, of a generation if one is named, with
a matching serial number if there is a pattern. A pattern is known by the texts that it matches. -/
structure Identifier where
  group : String
  generation : Generation := .any
  pattern : Option (String → Bool) := none

/-- Whether a caller can use a security module. The pattern is looked for in the upper-case
hexadecimal form of the serial number. -/
def Identifier.accepts (identifier : Identifier) (sam : Descriptor) : Bool :=
  sam.group == identifier.group &&
    (identifier.generation == .any || identifier.generation == sam.generation) &&
    identifier.pattern.all fun isMatch => isMatch (Hex.encode sam.serial)

/-- What a pool is asked for: the security modules that will do, and the group that is named if there
are none of them. -/
structure Demand where
  group : String
  accepts : Descriptor → Bool

def Identifier.demand (identifier : Identifier) : Demand :=
  { group := identifier.group, accepts := identifier.accepts }

/-- A security module with the handle to reach it. The leases tell who handed it out: zero stands
for nobody, so one that a caller made up belongs nowhere. -/
structure Resource (η : Type) where
  name : String
  descriptor : Descriptor
  handle : η
  slotLease : Nat := 0
  poolLease : Nat := 0
  deriving Repr, DecidableEq

/-- Why a pool refuses. -/
inductive PoolError where
  | noneAvailable (group : String)
  | timedOut (timeout : Duration)
  | cancelled
  | notAllocated (name : String)
  deriving Repr, DecidableEq

def PoolError.message : PoolError → String
  | noneAvailable group => "no SAM resource available for group " ++ Text.quote group
  | timedOut timeout => "SAM allocation timed out after " ++ timeout.text
  | cancelled => "SAM allocation cancelled"
  | notAllocated name => "SAM resource " ++ Text.quote name ++ " is not allocated by this pool"

/-- A source of security modules hands one out, or none, and takes one back or refuses to. -/
class Provider (π : Type) (η : outParam Type) where
  take : Demand → π → Option (Resource η) × π
  putBack : Resource η → π → Except PoolError π

end FareTerminal.Pool
