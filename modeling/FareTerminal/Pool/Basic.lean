import FareTerminal.Pool.Resource

/-! A pool of security modules over a source of them, with a ledger of those it has handed out. -/

namespace FareTerminal.Pool

/-- At most one lease for each name. -/
abbrev Ledger := List (String × Nat)

namespace Ledger

def lease? (ledger : Ledger) (name : String) : Option Nat := ledger.lookup name

def strike (ledger : Ledger) (name : String) : Ledger := ledger.filter fun entry => entry.1 != name

/-- The ledger with a lease for a name, in place of the one before it. -/
def note (ledger : Ledger) (name : String) (lease : Nat) : Ledger :=
  (name, lease) :: strike ledger name

@[simp] theorem lease?_note_self (ledger : Ledger) (name : String) (lease : Nat) :
    lease? (note ledger name lease) name = some lease := by
  simp [lease?, note]

end Ledger

end FareTerminal.Pool

namespace FareTerminal

/-- The longest wait between two attempts, and the timeout of callers who name none. -/
structure Pool.Config where
  pollInterval : Duration := .ofMilliseconds 10
  defaultTimeout : Duration := .ofSeconds 1
  deriving Repr, DecidableEq

/-- A source, what was handed out from it, the lease given last, and how often the callers who
waited were sent away. Leases and cancellations are counted without end; 64 bits are enough for
2^64 - 2 steps (`CountsTo.lt_size`). -/
structure Pool (π : Type) where
  provider : π
  config : Pool.Config := {}
  ledger : Pool.Ledger := []
  lastLease : Nat := 0
  cancellations : Nat := 0
  deriving Repr, DecidableEq

namespace Pool

variable {π η : Type}

/-- One attempt to get a security module. -/
def attempt [Provider π η] (demand : Demand) (pool : Pool π) :
    Option (Resource η) × Pool π :=
  match Provider.take demand pool.provider with
  | (none, provider) => (none, { pool with provider })
  | (some resource, provider) =>
    let lease := pool.lastLease + 1
    (some { resource with poolLease := lease },
      { pool with provider, ledger := pool.ledger.note resource.name lease, lastLease := lease })

/-- Whether a security module is out under the lease that it shows. -/
def holds (pool : Pool π) (resource : Resource η) : Bool :=
  resource.poolLease != 0 && pool.ledger.lease? resource.name == some resource.poolLease

/-- Takes a security module back. If the source refuses it, it stays handed out. -/
def release [Provider π η] (resource : Resource η) (pool : Pool π) : Except PoolError (Pool π) :=
  if pool.holds resource then do
    let provider ← Provider.putBack resource pool.provider
    return { pool with provider, ledger := pool.ledger.strike resource.name }
  else .error (.notAllocated resource.name)

/-- Sends every waiting caller away. -/
def cancel (pool : Pool π) : Pool π := { pool with cancellations := pool.cancellations + 1 }

def allocatedCount (pool : Pool π) : Nat := pool.ledger.length

/-- Works on the source, around the pool. -/
def onProvider (change : π → π) (pool : Pool π) : Pool π :=
  { pool with provider := change pool.provider }

end Pool

end FareTerminal
