import FareTerminal.Pool.Scene

/-! Pools next to each other, each over slots of its own. What callers have got from one of them they
may offer to another, and nothing keeps them from mixing up what looks alike. -/

namespace FareTerminal.Pool

variable {ι η : Type}

namespace Scene

/-- What callers get by an action, from the pool or from the slots around it. -/
def gives? (scene : Scene η) : Action η → Option (Resource η)
  | .take wanted => (scene.pool.provider.take? wanted).map (·.1)
  | .attempt wanted => (attemptWhere? wanted scene.pool).map (·.1)
  | .add .. | .forge .. | .putBack _ | .release _ | .cancel => none

/-- What is held at an index is gone from the callers' hands. -/
def part (index : Nat) (scene : Scene η) : Scene η :=
  { scene with held := scene.held.eraseIdx index }

/-- A security module from elsewhere is given to the pool, whether or not it is accepted. -/
def receive (resource : Resource η) (scene : Scene η) : Scene η :=
  match scene.pool.release resource with
  | .ok pool => { scene with pool }
  | .error _ => scene

end Scene

/-- Several pools, and what their callers have got from each. -/
structure Neighbours (ι η : Type) where
  scene : ι → Scene η

/-- What callers of several pools can do: whatever they can do with one of them, or release to one
what they have got from another. -/
inductive Move (ι η : Type) where
  | act (pool : ι) (action : Action η)
  | handOver (source target : ι) (index : Nat)

/-- Whether a move keeps to the pools. -/
def Move.isPooled : Move ι η → Bool
  | act _ action => action.isPooled
  | handOver .. => true

namespace Neighbours

variable [DecidableEq ι]

/-- Changes what there is at one of the pools. -/
def change (here : ι) (f : Scene η → Scene η) (pools : Neighbours ι η) : Neighbours ι η where
  scene pool := if pool = here then f (pools.scene pool) else pools.scene pool

@[simp] theorem scene_change_self (here : ι) (f : Scene η → Scene η) (pools : Neighbours ι η) :
    (pools.change here f).scene here = f (pools.scene here) := if_pos rfl

theorem scene_change_of_ne {here pool : ι} (elsewhere : pool ≠ here) (f : Scene η → Scene η)
    (pools : Neighbours ι η) : (pools.change here f).scene pool = pools.scene pool :=
  if_neg elsewhere

def move (pools : Neighbours ι η) : Move ι η → Neighbours ι η
  | .act pool action => pools.change pool (·.act action)
  | .handOver source target index =>
    match (pools.scene source).held[index]? with
    | none => pools
    | some possession =>
      (pools.change source (·.part index)).change target (·.receive possession.resource)

def run (pools : Neighbours ι η) (moves : List (Move ι η)) : Neighbours ι η := moves.foldl move pools

/-- Pools over no slots. -/
def start (config : ι → Config) : Neighbours ι η where
  scene pool := Scene.run (config pool) []

/-- What callers get at one of the pools by a move. -/
def gives? (here : ι) (pools : Neighbours ι η) : Move ι η → Option (Resource η)
  | .act pool action => if pool = here then (pools.scene here).gives? action else none
  | .handOver .. => none

/-- All that callers get at one of the pools, in order. -/
def given (here : ι) (pools : Neighbours ι η) : List (Move ι η) → List (Resource η)
  | [] => []
  | move :: rest => (pools.gives? here move).toList ++ given here (pools.move move) rest

theorem run_concat (pools : Neighbours ι η) (moves : List (Move ι η)) (move : Move ι η) :
    pools.run (moves ++ [move]) = (pools.run moves).move move := by
  simp [run]

theorem given_concat (here : ι) (pools : Neighbours ι η) (moves : List (Move ι η))
    (move : Move ι η) :
    pools.given here (moves ++ [move]) =
      pools.given here moves ++ ((pools.run moves).gives? here move).toList := by
  induction moves generalizing pools with
  | nil => exact List.append_nil _
  | cons first rest ih =>
    rw [List.cons_append, given, ih, given, List.append_assoc]
    rfl

end Neighbours

end FareTerminal.Pool
