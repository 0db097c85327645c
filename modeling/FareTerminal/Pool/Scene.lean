import FareTerminal.Pool.Basic
import FareTerminal.Pool.Slots

/-! Callers who work on a pool over slots, and on the slots around the pool. What one caller does
takes effect at once, so all that they do together is one list of actions, in any order. -/

namespace FareTerminal.Pool

/-- A security module in some caller's hands, and whether the caller made it up. -/
structure Possession (η : Type) where
  resource : Resource η
  forged : Bool := false
  deriving Repr, DecidableEq

/-- A pool over slots, and what its callers have in their hands. Who of them has what is left out:
it makes no difference to the pool. -/
structure Scene (η : Type) where
  pool : Pool (Slots η)
  held : List (Possession η) := []
  deriving Repr, DecidableEq

/-- What a caller can do. A security module to be given back is named by its place among those that
are held. -/
inductive Action (η : Type) where
  | add (name : String) (descriptor : Descriptor) (handle : η)
  | forge (name : String) (descriptor : Descriptor) (handle : η)
  | take (wanted : Descriptor → Bool)
  | attempt (wanted : Descriptor → Bool)
  | putBack (index : Nat)
  | release (index : Nat)
  | cancel

variable {η : Type}

/-- One attempt to get a security module that is wanted for whatever reason. -/
def attemptWhere? (wanted : Descriptor → Bool) (pool : Pool (Slots η)) :
    Option (Resource η × Pool (Slots η)) :=
  (pool.provider.take? wanted).map fun (resource, provider) =>
    let lease := pool.lastLease + 1
    ({ resource with poolLease := lease },
      { pool with provider, ledger := pool.ledger.note resource.name lease, lastLease := lease })

theorem attempt_eq_attemptWhere? (demand : Demand) (pool : Pool (Slots η)) :
    pool.attempt demand =
      match attemptWhere? demand.accepts pool with
      | some (resource, pool) => (some resource, pool)
      | none => (none, pool) := by
  simp only [attempt, attemptWhere?, Provider.take]
  cases pool.provider.take? demand.accepts <;> rfl

namespace Scene

/-- Gives away what is held at an index, whether or not it is accepted. -/
def giveBack (accept : Resource η → Except PoolError (Pool (Slots η))) (index : Nat)
    (scene : Scene η) : Scene η :=
  match scene.held[index]? with
  | none => scene
  | some possession =>
    let held := scene.held.eraseIdx index
    match accept possession.resource with
    | .ok pool => { pool, held }
    | .error _ => { scene with held }

def act (scene : Scene η) : Action η → Scene η
  | .add name descriptor handle =>
    { scene with pool := scene.pool.onProvider (·.add name descriptor handle) }
  | .forge name descriptor handle =>
    { scene with
      held := { resource := { name, descriptor, handle }, forged := true } :: scene.held }
  | .take wanted =>
    match scene.pool.provider.take? wanted with
    | some (resource, provider) =>
      { pool := { scene.pool with provider }, held := { resource } :: scene.held }
    | none => scene
  | .attempt wanted =>
    match attemptWhere? wanted scene.pool with
    | some (resource, pool) => { pool, held := { resource } :: scene.held }
    | none => scene
  | .putBack index =>
    scene.giveBack (fun resource => (scene.pool.provider.putBack resource).map fun provider =>
      { scene.pool with provider }) index
  | .release index => scene.giveBack (release · scene.pool) index
  | .cancel => { scene with pool := scene.pool.cancel }

/-- What has become of a pool over no slots. -/
def run (config : Config) (actions : List (Action η)) : Scene η :=
  actions.foldl act { pool := { provider := {}, config } }

/-- The security modules in the callers' hands that some slot or the pool has given out. -/
def outstanding (scene : Scene η) : List (Resource η) :=
  (scene.held.filter (!·.forged)).map (·.resource)

/-- All handles there are, in slots and in the callers' hands. -/
def handles (scene : Scene η) : List η :=
  scene.pool.provider.slots.filterMap (·.handle) ++ scene.held.map (·.resource.handle)

end Scene

namespace Action

/-- The slot that an action adds. -/
def slot? : Action η → Option (Slot η)
  | add name descriptor handle => some { name, descriptor, handle := some handle }
  | _ => none

/-- The handle that an action brings in. -/
def handle? : Action η → Option η
  | add _ _ handle | forge _ _ handle => some handle
  | _ => none

/-- Whether an action keeps to the pool: it neither goes to the slots around it nor makes up what
the pool has not given out. -/
def isPooled : Action η → Bool
  | add .. | attempt _ | release _ | cancel => true
  | forge .. | take _ | putBack _ => false

end Action

end FareTerminal.Pool
