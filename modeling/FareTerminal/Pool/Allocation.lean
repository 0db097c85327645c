import FareTerminal.Pool.Basic

/-! Calls for a security module that may wait.

A call makes an attempt when it begins, and one more whenever it wakes up, until it gets something
or gives up. Time is counted in nanoseconds from the start of the terminal's clock. -/

namespace FareTerminal.Pool

abbrev Instant := Nat

/-- The latest point in time that the clock can show. -/
def latest : Instant := 1000000000 * 0x8000000000000000 - 1

/-- Whether a call may wait. -/
inductive Mode where
  | blocking
  | nonBlocking
  deriving Repr, DecidableEq

/-- A call, the number of cancellations when it began, and when it gives up; a deadline past the end
of the clock is none. -/
structure Waiter where
  demand : Demand
  mode : Mode
  timeout : Duration
  cancellations : Nat
  deadline : Option Instant

/-- Where a call stands after an attempt: it has got something, has given up, or sleeps at most for a
span. -/
inductive Progress (η : Type) where
  | obtained (resource : Resource η)
  | failed (error : PoolError)
  | sleeps (span : Duration)
  deriving Repr, DecidableEq

variable {π η : Type}

/-- The point in time after a span, if the clock can show it. -/
def deadline? (start : Instant) (timeout : Duration) : Option Instant :=
  if start + timeout.nanoseconds ≤ latest then some (start + timeout.nanoseconds) else none

def call (pool : Pool π) (demand : Demand) (mode : Mode) (timeout : Duration)
    (now : Instant) : Waiter :=
  { demand, mode, timeout, cancellations := pool.cancellations
    deadline := deadline? now timeout }

namespace Waiter

/-- What a call does when there is nothing to get: it gives up at once if it may not wait, or at its
deadline, and else sleeps until then, but not longer than the interval. -/
def orWait (waiter : Waiter) (interval : Duration) (now : Instant) : Progress η :=
  match waiter.mode, waiter.deadline with
  | .nonBlocking, _ => .failed (.noneAvailable waiter.demand.group)
  | .blocking, none => .sleeps interval
  | .blocking, some deadline =>
    if deadline ≤ now then .failed (.timedOut waiter.timeout)
    else .sleeps ⟨min (deadline - now) interval.nanoseconds⟩

def poll [Provider π η] (waiter : Waiter) (now : Instant) (pool : Pool π) : Progress η × Pool π :=
  match attempt waiter.demand pool with
  | (some resource, pool) => (.obtained resource, pool)
  | (none, pool) => (waiter.orWait pool.config.pollInterval now, pool)

/-- Wakes up. A cancellation since the call began ends it, whatever there is to get. -/
def wake [Provider π η] (waiter : Waiter) (now : Instant) (pool : Pool π) : Progress η × Pool π :=
  if pool.cancellations = waiter.cancellations then waiter.poll now pool
  else (.failed .cancelled, pool)

end Waiter

end FareTerminal.Pool
