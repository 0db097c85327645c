import Mathlib.Data.List.Basic
import FareTerminal.Pool.WaitingRoom

/-! Calls that begin after a cancellation. A call looks only at whether the number of cancellations
has changed since it began, so to those who did not wait everything goes on as if nobody had
cancelled. -/

namespace FareTerminal.Pool

variable {η : Type}

theorem attemptWhere?_cancel (wanted : Descriptor → Bool) (pool : Pool (Slots η)) :
    attemptWhere? wanted pool.cancel =
      (attemptWhere? wanted pool).map fun (resource, left) => (resource, left.cancel) := by
  unfold attemptWhere?
  rw [Option.map_map]
  rfl

theorem release_cancel (resource : Resource η) (pool : Pool (Slots η)) :
    release resource pool.cancel = (release resource pool).map cancel := by
  have holds : pool.cancel.holds resource = pool.holds resource := rfl
  unfold release
  rw [holds]
  split
  · have provider : pool.cancel.provider = pool.provider := rfl
    rw [provider]
    cases Provider.putBack resource pool.provider <;> rfl
  · rfl

namespace Scene

theorem giveBack_cancel {accept accept' : Resource η → Except PoolError (Pool (Slots η))}
    (alike : ∀ resource, accept' resource = (accept resource).map cancel) (index : Nat)
    (scene : Scene η) :
    (scene.act .cancel).giveBack accept' index = (scene.giveBack accept index).act .cancel := by
  have held : (scene.act .cancel).held = scene.held := rfl
  unfold giveBack
  rw [held]
  cases scene.held[index]? with
  | none => rfl
  | some possession =>
    simp only [alike]
    cases accept possession.resource <;> rfl

theorem act_cancel (scene : Scene η) (action : Action η) :
    (scene.act .cancel).act action = (scene.act action).act .cancel := by
  cases action with
  | add | forge | cancel => rfl
  | take wanted =>
    simp only [act, cancel]
    cases scene.pool.provider.take? wanted <;> rfl
  | attempt wanted =>
    simp only [act, attemptWhere?_cancel]
    cases attemptWhere? wanted scene.pool <;> rfl
  | putBack index =>
    have alike (resource : Resource η) :
        ((scene.pool.provider.putBack resource).map fun provider =>
          ({ scene.pool.cancel with provider } : Pool (Slots η))) =
        ((scene.pool.provider.putBack resource).map fun provider =>
          { scene.pool with provider }).map cancel := by
      cases scene.pool.provider.putBack resource <;> rfl
    exact giveBack_cancel alike index scene
  | release index => exact giveBack_cancel (release_cancel · scene.pool) index scene

end Scene

/-- The same waiter at a pool with one more cancellation before it began. -/
def Waiter.later (waiter : Waiter) : Waiter :=
  { waiter with cancellations := waiter.cancellations + 1 }

/-- The same stage of a call at a pool with one more cancellation before it began. -/
def Stage.later : Stage η → Stage η
  | .waiting waiter => .waiting waiter.later
  | .arriving => .arriving
  | .returned outcome => .returned outcome

def Call.later (call : Call η) : Call η := { call with stage := call.stage.later }

theorem Progress.stage_later (waiter : Waiter) (progress : Progress η) :
    progress.stage waiter.later = (progress.stage waiter).later := by
  cases progress <;> rfl

theorem poll_later (waiter : Waiter) (now : Instant) (pool : Pool (Slots η)) :
    waiter.later.poll now pool.cancel =
      ((waiter.poll now pool).1, (waiter.poll now pool).2.cancel) := by
  have wanted : waiter.later.demand = waiter.demand := rfl
  unfold Waiter.poll
  rw [attempt_eq_attemptWhere?, attempt_eq_attemptWhere?, wanted, attemptWhere?_cancel]
  cases attemptWhere? waiter.demand.accepts pool <;> rfl

theorem wake_later (waiter : Waiter) (now : Instant) (pool : Pool (Slots η)) :
    waiter.later.wake now pool.cancel =
      ((waiter.wake now pool).1, (waiter.wake now pool).2.cancel) := by
  have alike : (pool.cancel.cancellations = waiter.later.cancellations) =
      (pool.cancellations = waiter.cancellations) := by
    simp [cancel, Waiter.later]
  unfold Waiter.wake
  simp only [alike]
  split
  · exact poll_later waiter now pool
  · rfl

namespace WaitingRoom

/-- The same room with one more cancellation before the calls began, but for some that sleep. -/
def later (asleep : Nat → Bool) (room : WaitingRoom η) : WaitingRoom η where
  scene := room.scene.act .cancel
  calls := room.calls.mapIdx fun index call =>
    if asleep index then call else call.later
  now := room.now

theorem getElem?_later (asleep : Nat → Bool) (room : WaitingRoom η) (index : Nat) :
    (room.later asleep).calls[index]? =
      room.calls[index]?.map fun call => if asleep index then call else call.later :=
  List.getElem?_mapIdx

/-- A cancellation changes nothing but the number of them if all who wait sleep on. -/
theorem cancel_eq_later {asleep : Nat → Bool} {room : WaitingRoom η}
    (all : ∀ index, room.waits index = true → asleep index = true) :
    room.next (.act .cancel) = room.later asleep := by
  have calls : room.calls = (room.later asleep).calls := by
    refine List.ext_getElem? fun index => ?_
    rw [getElem?_later]
    cases at_index : room.calls[index]? with
    | none => rfl
    | some call =>
      obtain ⟨request, stage⟩ := call
      cases stage with
      | waiting waiter =>
        have sleeps := all index (by simp only [waits, at_index])
        rw [Option.map_some, if_pos sleeps]
      | arriving | returned => exact congrArg some (ite_self _).symm
  exact congrArg (WaitingRoom.mk (room.scene.act .cancel) · room.now) calls

theorem settle_later {asleep : Nat → Bool} {index : Nat} (awake : asleep index = false)
    (waiter : Waiter) (room : WaitingRoom η) (outcome : Progress η × Pool (Slots η)) :
    (room.later asleep).settle index waiter.later (outcome.1, outcome.2.cancel) =
      (room.settle index waiter outcome).later asleep := by
  have calls : ((room.later asleep).settle index waiter.later (outcome.1, outcome.2.cancel)).calls =
      ((room.settle index waiter outcome).later asleep).calls := by
    refine List.ext_getElem? fun other => ?_
    rw [getElem?_later, settle, settle, List.getElem?_modify, List.getElem?_modify, getElem?_later]
    by_cases here : index = other
    · subst here
      rw [awake]
      cases room.calls[index]? with
      | none => rfl
      | some call => simp [Call.later, Progress.stage_later]
    · simp [here]
  exact congrArg (WaitingRoom.mk _ · room.now) calls

theorem visit_later {asleep : Nat → Bool} {index : Nat} (awake : asleep index = false)
    (room : WaitingRoom η) : (room.later asleep).visit index = (room.visit index).later asleep := by
  unfold visit
  rw [getElem?_later, awake]
  cases room.calls[index]? with
  | none => rfl
  | some call =>
    obtain ⟨request, stage⟩ := call
    cases stage with
    | returned outcome => rfl
    | arriving =>
      have outcome := poll_later (request.waiter room.scene.pool) room.now room.scene.pool
      have settled := settle_later awake (request.waiter room.scene.pool) room
        ((request.waiter room.scene.pool).poll room.now room.scene.pool)
      rw [← outcome] at settled
      exact settled
    | waiting waiter =>
      have outcome := wake_later waiter room.now room.scene.pool
      have settled := settle_later awake waiter room (waiter.wake room.now room.scene.pool)
      rw [← outcome] at settled
      exact settled

/-- Whatever happens later happens just so, as long as those who sleep do. -/
theorem next_later {asleep : Nat → Bool} {happening : Happening η}
    (awake : ∀ index, asleep index = true → happening ≠ .visit index) (room : WaitingRoom η) :
    (room.later asleep).next happening = (room.next happening).later asleep := by
  cases happening with
  | pass span => rfl
  | call demand mode timeout =>
    have calls : ((room.later asleep).next (.call demand mode timeout)).calls =
        ((room.next (.call demand mode timeout)).later asleep).calls := by
      rw [next, next, later, later, List.mapIdx_append]
      simp [Call.later, Stage.later]
    exact congrArg (WaitingRoom.mk _ · room.now) calls
  | visit index =>
    refine visit_later (Bool.eq_false_iff.mpr fun sleeps => ?_) room
    exact awake index sleeps rfl
  | act action =>
    exact congrArg (WaitingRoom.mk · _ room.now) (room.scene.act_cancel action)

/-- A whole run later goes on just so. -/
theorem run_later {asleep : Nat → Bool} {happenings : List (Happening η)}
    (awake : ∀ index, asleep index = true → .visit index ∉ happenings) (room : WaitingRoom η) :
    (room.later asleep).run happenings = (room.run happenings).later asleep := by
  induction happenings generalizing room with
  | nil => rfl
  | cons happening rest ih =>
    have first : ∀ index, asleep index = true → happening ≠ .visit index :=
      fun index sleeps same => awake index sleeps (same ▸ List.mem_cons_self)
    have others := fun index sleeps => List.not_mem_of_not_mem_cons (awake index sleeps)
    exact (congrArg (run · rest) (next_later first room)).trans (ih others _)

/-- What calls come back with does not depend on how often others were sent away before. -/
theorem outcomes_later (asleep : Nat → Bool) (room : WaitingRoom η) :
    (room.later asleep).calls.map (·.outcome?) = room.calls.map (·.outcome?) := by
  refine List.ext_getElem? fun index => ?_
  rw [List.getElem?_map, List.getElem?_map, getElem?_later]
  cases room.calls[index]? with
  | none => rfl
  | some call =>
    obtain ⟨request, stage⟩ := call
    cases asleep index <;> cases stage <;> rfl

end WaitingRoom

end FareTerminal.Pool
