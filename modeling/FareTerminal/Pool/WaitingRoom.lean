import FareTerminal.Pool.Allocation
import FareTerminal.Pool.Scene

/-! Callers who wait for security modules of one pool, all of them at once.

A call comes to the pool when it begins and whenever it wakes up, which may be at any time. It keeps
the others out until it has got something, has given up or goes to sleep. In between, time passes,
other calls come, and callers act on the pool or on the slots around it, in any order. -/

namespace FareTerminal.Pool

/-- What a call asks for, and when it was made. -/
structure Request where
  demand : Demand
  mode : Mode
  timeout : Duration
  start : Instant

/-- How far a call has come. As long as it has not been to the pool, it does not wait. -/
inductive Stage (η : Type) where
  | arriving
  | waiting (waiter : Waiter)
  | returned (outcome : Except PoolError (Resource η))

structure Call (η : Type) where
  request : Request
  stage : Stage η := .arriving

/-- A pool with what its callers hold, the calls in the order in which they were made, and the time
on the clock. -/
structure WaitingRoom (η : Type) where
  scene : Scene η
  calls : List (Call η) := []
  now : Instant := 0

/-- What can happen next. Calls are named by their places. -/
inductive Happening (η : Type) where
  | pass (span : Duration)
  | call (demand : Demand) (mode : Mode) (timeout : Duration)
  | visit (index : Nat)
  | act (action : Action η)

/-- What a call finds and leaves when it comes to the pool, and what the clock shows then. -/
structure Visit (η : Type) where
  now : Instant
  found : Pool (Slots η)
  left : Pool (Slots η)
  deriving Repr, DecidableEq

/-- What concerns a call: that it comes to the pool, or a cancellation while it waits. -/
inductive Episode (η : Type) where
  | visit (visit : Visit η)
  | cancel
  deriving Repr, DecidableEq

variable {η : Type}

/-- What a call has come back with. -/
def Call.outcome? (call : Call η) : Option (Except PoolError (Resource η)) :=
  match call.stage with
  | .returned outcome => some outcome
  | .arriving | .waiting _ => none

/-- The call as it waits at a pool where it has just begun. -/
def Request.waiter (request : Request) (pool : Pool (Slots η)) : Waiter :=
  pool.call request.demand request.mode request.timeout request.start

namespace Progress

/-- How far a call has come by an attempt. -/
def stage (waiter : Waiter) : Progress η → Stage η
  | obtained resource => .returned (.ok resource)
  | failed error => .returned (.error error)
  | sleeps _ => .waiting waiter

/-- What is in the callers' hands by an attempt. -/
def gain : Progress η → List (Possession η)
  | obtained resource => [{ resource }]
  | failed _ | sleeps _ => []

end Progress

namespace WaitingRoom

/-- Takes down what a call has come to at the pool. -/
def settle (index : Nat) (waiter : Waiter) (room : WaitingRoom η)
    (outcome : Progress η × Pool (Slots η)) : WaitingRoom η :=
  { room with
    scene := { pool := outcome.2, held := outcome.1.gain ++ room.scene.held }
    calls := room.calls.modify index fun call => { call with stage := outcome.1.stage waiter } }

/-- A call begins at the pool or wakes up there; one that has returned does not come any more. -/
def visit (index : Nat) (room : WaitingRoom η) : WaitingRoom η :=
  match room.calls[index]? with
  | some { request, stage := .arriving } =>
    let waiter := request.waiter room.scene.pool
    room.settle index waiter (waiter.poll room.now room.scene.pool)
  | some { stage := .waiting waiter, .. } =>
    room.settle index waiter (waiter.wake room.now room.scene.pool)
  | some { stage := .returned _, .. } | none => room

def next (room : WaitingRoom η) : Happening η → WaitingRoom η
  | .pass span => { room with now := room.now + span.nanoseconds }
  | .call demand mode timeout =>
    let request := { demand, mode, timeout, start := room.now }
    { room with calls := room.calls ++ [{ request }] }
  | .visit index => room.visit index
  | .act action => { room with scene := room.scene.act action }

/-- A pool over no slots, without calls. -/
def opened (config : Config) : WaitingRoom η where
  scene := Scene.run config []

def run (room : WaitingRoom η) (happenings : List (Happening η)) : WaitingRoom η :=
  happenings.foldl next room

/-- Whether the call at an index waits. -/
def waits (index : Nat) (room : WaitingRoom η) : Bool :=
  match room.calls[index]? with
  | some { stage := .waiting _, .. } => true
  | some { stage := .arriving, .. } | some { stage := .returned _, .. } | none => false

/-- What concerns the call at an index. -/
def episode? (index : Nat) (room : WaitingRoom η) : Happening η → Option (Episode η)
  | .visit other =>
    match if other = index then room.calls[index]? else none with
    | some { stage := .arriving, .. } | some { stage := .waiting _, .. } =>
      some (.visit
        { now := room.now, found := room.scene.pool, left := (room.visit index).scene.pool })
    | some { stage := .returned _, .. } | none => none
  | .act .cancel => if room.waits index then some .cancel else none
  | .pass _ | .call .. | .act _ => none

/-- All that concerns the call at an index, in order. -/
def story (index : Nat) (room : WaitingRoom η) : List (Happening η) → List (Episode η)
  | [] => []
  | happening :: rest =>
    (room.episode? index happening).toList ++ story index (room.next happening) rest

theorem run_concat (room : WaitingRoom η) (happenings : List (Happening η))
    (happening : Happening η) :
    room.run (happenings ++ [happening]) = (room.run happenings).next happening := by
  simp [run]

theorem story_concat (index : Nat) (room : WaitingRoom η) (happenings : List (Happening η))
    (happening : Happening η) :
    room.story index (happenings ++ [happening]) =
      room.story index happenings ++ ((room.run happenings).episode? index happening).toList := by
  induction happenings generalizing room with
  | nil => exact List.append_nil _
  | cons first rest ih =>
    rw [List.cons_append, story, ih, story, List.append_assoc]
    rfl

end WaitingRoom

end FareTerminal.Pool
