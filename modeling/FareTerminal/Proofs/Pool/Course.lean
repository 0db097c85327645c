import FareTerminal.Pool.WaitingRoom
import FareTerminal.Proofs.Pool.Exclusive

/-! The course of a call for a security module. It comes to the pool in vain for a while, and then
it gets something, gives up, or is sent away. Whatever else happens at the pool, in whatever order,
a call does not take any other course. To the pool, a call that waits is a caller who comes now and
then. -/

namespace FareTerminal.Pool

variable {η : Type}

/-- An attempt gets something just if there is something to get. -/
theorem attemptWhere?_cases (wanted : Descriptor → Bool) (pool : Pool (Slots η)) :
    (attemptWhere? wanted pool = none ∧ pool.provider.slots.any (·.offers wanted) = false) ∨
    ∃ resource left, attemptWhere? wanted pool = some (resource, left) ∧
      pool.provider.slots.any (·.offers wanted) = true ∧
      left.cancellations = pool.cancellations := by
  unfold attemptWhere?
  obtain ⟨nothing, none⟩ | ⟨resource, after, taken, -, givesOut⟩ :=
    Slots.take?_cases wanted pool.provider
  · rw [nothing]
    exact .inl ⟨rfl, List.any_eq_false.mpr fun slot member => by simp [none slot member]⟩
  · rw [taken]
    exact .inr ⟨_, _, rfl, givesOut.any_offers, rfl⟩

namespace Visit

/-- Whether a call finds a free security module that it can use. -/
def offers (request : Request) (visit : Visit η) : Bool :=
  visit.found.provider.slots.any (·.offers request.demand.accepts)

/-- Whether a call gets nothing and leaves everything as it was. -/
def InVain (request : Request) (visit : Visit η) : Prop :=
  visit.offers request = false ∧ visit.left = visit.found

/-- Whether the clock has reached the end of a call's time, if it can show that at all. -/
def Due (request : Request) (visit : Visit η) : Prop :=
  ∃ deadline, deadline? request.start request.timeout = some deadline ∧ deadline ≤ visit.now

/-- Whether a call goes to sleep: it got nothing, and its time is not over. -/
structure Sleeps (request : Request) (visit : Visit η) : Prop where
  inVain : visit.InVain request
  early : ¬visit.Due request

/-- Whether a call gets what it finds. -/
def Gets (request : Request) (resource : Resource η) (visit : Visit η) : Prop :=
  visit.offers request = true ∧
    attemptWhere? request.demand.accepts visit.found = some (resource, visit.left)

end Visit

/-- What concerns a call while it waits: that it comes to the pool, and cancellations after that. -/
def vigil (visits : List (Visit η)) (cancels : Nat) : List (Episode η) :=
  visits.map .visit ++ List.replicate cancels .cancel

/-- How a call ends at the pool, after so many cancellations while it waited. -/
inductive Ends (request : Request) (last : Visit η) :
    Nat → Except PoolError (Resource η) → Prop
  | obtained {resource : Resource η} (gets : last.Gets request resource) :
    Ends request last 0 (.ok resource)
  | unavailable (nonBlocking : request.mode = .nonBlocking) (inVain : last.InVain request) :
    Ends request last 0 (.error (.noneAvailable request.demand.group))
  | timedOut (blocking : request.mode = .blocking) (inVain : last.InVain request)
    (due : last.Due request) : Ends request last 0 (.error (.timedOut request.timeout))
  | cancelled (cancels : Nat) (unchanged : last.left = last.found) :
    Ends request last (cancels + 1) (.error .cancelled)

/-- The courses of a call, with the number of cancellations at its pool so far: what has concerned
it, and how far it has come. -/
inductive Course (request : Request) : Nat → List (Episode η) → Stage η → Prop
  | arriving (count : Nat) : Course request count [] .arriving
  | waiting {visits : List (Visit η)} {entered : Pool (Slots η)} (cancels : Nat)
    (began : (visits.map (·.found)).head? = some entered) (blocking : request.mode = .blocking)
    (sleeps : ∀ visit ∈ visits, visit.Sleeps request) :
    Course request (entered.cancellations + cancels) (vigil visits cancels)
      (.waiting (request.waiter entered))
  | returned (count : Nat) {cancels : Nat} {earlier : List (Visit η)} {last : Visit η}
    {outcome : Except PoolError (Resource η)} (blocking : earlier ≠ [] → request.mode = .blocking)
    (began : cancels ≠ 0 → earlier ≠ []) (sleeps : ∀ visit ∈ earlier, visit.Sleeps request)
    (ends : Ends request last cancels outcome) :
    Course request count (vigil earlier cancels ++ [.visit last]) (.returned outcome)

/-- A call that may wait gives up just if its time is over. -/
theorem orWait_cases {request : Request} (blocking : request.mode = .blocking)
    (entered : Pool (Slots η)) (interval : Duration) (visit : Visit η) :
    (visit.Due request ∧
      (request.waiter entered).orWait interval visit.now =
        (.failed (.timedOut request.timeout) : Progress η)) ∨
    ¬visit.Due request ∧ ∃ span,
      (request.waiter entered).orWait interval visit.now = (.sleeps span : Progress η) := by
  simp only [Waiter.orWait, Request.waiter, Pool.call, blocking]
  cases ends : deadline? request.start request.timeout with
  | none =>
    refine .inr ⟨?_, interval, rfl⟩
    rintro ⟨deadline, known, -⟩
    rw [ends] at known
    cases known
  | some deadline =>
    by_cases due : deadline ≤ visit.now
    · exact .inl ⟨⟨deadline, ends, due⟩, if_pos due⟩
    · refine .inr ⟨?_, _, if_neg due⟩
      rintro ⟨deadline, known, reached⟩
      rw [ends] at known
      cases known
      exact due reached

/-- A call that waits or gives up has nothing in its hands. -/
theorem Waiter.gain_orWait (waiter : Waiter) (interval : Duration) (now : Instant) :
    (waiter.orWait interval now : Progress η).gain = [] := by
  unfold orWait
  split
  · rfl
  · rfl
  · split <;> rfl

namespace Course

variable {request : Request} {count : Nat} {story : List (Episode η)} {stage : Stage η}
  {pool : Pool (Slots η)}

/-- An attempt at the pool, if there was no cancellation since the call began there. -/
theorem poll (earlier : List (Visit η)) {entered : Pool (Slots η)} (now : Instant)
    (began : (earlier.map (·.found) ++ [pool]).head? = some entered)
    (since : pool.cancellations = entered.cancellations)
    (blocking : earlier ≠ [] → request.mode = .blocking)
    (sleeps : ∀ visit ∈ earlier, visit.Sleeps request) :
    let outcome := (request.waiter entered).poll now pool
    Course request outcome.2.cancellations
      (vigil earlier 0 ++ [.visit { now, found := pool, left := outcome.2 }])
      (outcome.1.stage (request.waiter entered)) := by
  intro outcome
  obtain ⟨nothing, none⟩ | ⟨resource, left, taken, some, same⟩ :=
    attemptWhere?_cases request.demand.accepts pool
  · have inVain : ({ now, found := pool, left := pool } : Visit η).InVain request := ⟨none, rfl⟩
    have polled : outcome =
        ((request.waiter entered).orWait pool.config.pollInterval now, pool) := by
      simp only [outcome, Waiter.poll, Request.waiter, Pool.call, attempt_eq_attemptWhere?, nothing]
    rw [polled]
    cases mode : request.mode with
    | nonBlocking =>
      simp only [Waiter.orWait, Request.waiter, Pool.call, mode]
      exact .returned _ blocking (absurd rfl) sleeps (.unavailable mode inVain)
    | blocking =>
      obtain ⟨due, given_up⟩ | ⟨early, span, asleep⟩ :=
        orWait_cases mode entered pool.config.pollInterval { now, found := pool, left := pool }
      · rw [given_up]
        exact .returned _ blocking (absurd rfl) sleeps (.timedOut mode inVain due)
      · rw [asleep]
        have all : ∀ visit ∈ earlier ++ [{ now, found := pool, left := pool }],
            visit.Sleeps request :=
          List.forall_mem_append.mpr ⟨sleeps, List.forall_mem_singleton.mpr ⟨inVain, early⟩⟩
        have course := Course.waiting 0 (by rwa [List.map_append]) mode all
        simpa [since, vigil, Progress.stage] using course
  · have polled : outcome = (.obtained resource, left) := by
      simp only [outcome, Waiter.poll, Request.waiter, Pool.call, attempt_eq_attemptWhere?, taken]
    rw [polled]
    exact .returned _ blocking (absurd rfl) sleeps (.obtained ⟨some, taken⟩)

/-- A call that wakes up: whoever cancelled while it waited has sent it away. -/
theorem wake {waiter : Waiter} (course : Course request pool.cancellations story (.waiting waiter))
    (now : Instant) :
    let outcome := waiter.wake now pool
    Course request outcome.2.cancellations
      (story ++ [.visit { now, found := pool, left := outcome.2 }]) (outcome.1.stage waiter) := by
  intro outcome
  generalize counted : pool.cancellations = count at course
  cases course with
  | @waiting visits entered cancels began blocking sleeps =>
    -- The count has gone up by the cancellations since the call began, and by nothing else.
    cases cancels with
    | zero =>
      have polled : outcome = (request.waiter entered).poll now pool := if_pos counted
      rw [polled]
      refine poll visits now ?_ counted (fun _ => blocking) sleeps
      rw [List.head?_append, began, Option.some_or]
    | succ cancels =>
      have changed : pool.cancellations ≠ (request.waiter entered).cancellations := by
        rw [counted]
        exact Nat.ne_of_gt (Nat.lt_add_of_pos_right cancels.succ_pos)
      have sent_away : outcome = (.failed .cancelled, pool) := if_neg changed
      have visited : visits ≠ [] := by
        rintro rfl
        cases began
      rw [sent_away]
      exact .returned _ (fun _ => blocking) (fun _ => visited) sleeps (.cancelled cancels rfl)

theorem story_eq_nil (course : Course request count story .arriving) : story = [] := by
  cases course
  rfl

/-- How many cancellations there are matters only to a call that waits. -/
theorem idle (course : Course request count story stage)
    (awake : ∀ waiter, stage ≠ .waiting waiter) (count' : Nat) :
    Course request count' story stage := by
  cases course with
  | arriving => exact .arriving count'
  | waiting => exact absurd rfl (awake _)
  | returned _ blocking began sleeps ends => exact .returned count' blocking began sleeps ends

theorem cancel {waiter : Waiter} (course : Course request count story (.waiting waiter)) :
    Course request (count + 1) (story ++ [.cancel]) (.waiting waiter) := by
  cases course with
  | waiting cancels began blocking sleeps =>
    rw [vigil, List.append_assoc, ← List.replicate_succ', Nat.add_assoc]
    exact .waiting (cancels + 1) began blocking sleeps

end Course

/-- All that has concerned the call at an index is the course of it; if there is no call yet, then
nothing has. -/
def WaitingRoom.Follows (room : WaitingRoom η) (index : Nat) (story : List (Episode η)) : Prop :=
  match room.calls[index]? with
  | none => story = []
  | some call => Course call.request room.scene.pool.cancellations story call.stage

namespace WaitingRoom

theorem cancellations_act {action : Action η} (other : action ≠ .cancel) (scene : Scene η) :
    (scene.act action).pool.cancellations = scene.pool.cancellations := by
  generalize changed : scene.act action = scene'
  have step := scene.step_act action
  rw [changed] at step
  cases step with
  | cancelled => exact absurd rfl other
  | _ => rfl

theorem episode?_act {action : Action η} (other : action ≠ .cancel) (index : Nat)
    (room : WaitingRoom η) : room.episode? index (.act action) = none := by
  cases action with
  | cancel => exact absurd rfl other
  | _ => rfl

theorem calls_settle_self {room : WaitingRoom η} {index : Nat} {call : Call η}
    (at_index : room.calls[index]? = some call) (waiter : Waiter)
    (outcome : Progress η × Pool (Slots η)) :
    (room.settle index waiter outcome).calls[index]? =
      some { call with stage := outcome.1.stage waiter } := by
  rw [settle, List.getElem?_modify_eq, at_index]
  rfl

theorem calls_settle_of_ne {room : WaitingRoom η} {index other : Nat} (different : other ≠ index)
    (waiter : Waiter) (outcome : Progress η × Pool (Slots η)) :
    (room.settle other waiter outcome).calls[index]? = room.calls[index]? :=
  List.getElem?_modify_ne _ _ different

theorem cancellations_poll (waiter : Waiter) (now : Instant) (pool : Pool (Slots η)) :
    (waiter.poll now pool).2.cancellations = pool.cancellations := by
  rw [Waiter.poll, attempt_eq_attemptWhere?]
  obtain ⟨nothing, -⟩ | ⟨resource, left, taken, -, same⟩ :=
    attemptWhere?_cases waiter.demand.accepts pool
  · rw [nothing]
  · rw [taken]
    exact same

theorem cancellations_wake (waiter : Waiter) (now : Instant) (pool : Pool (Slots η)) :
    (waiter.wake now pool).2.cancellations = pool.cancellations := by
  unfold Waiter.wake
  split
  · exact cancellations_poll waiter now pool
  · rfl

/-- A call at the pool is no concern of the others. -/
theorem visit_of_ne {index other : Nat} (different : other ≠ index) (room : WaitingRoom η) :
    (room.visit other).calls[index]? = room.calls[index]? ∧
      (room.visit other).scene.pool.cancellations = room.scene.pool.cancellations := by
  unfold visit
  split
  · exact ⟨calls_settle_of_ne different _ _, cancellations_poll _ _ _⟩
  · exact ⟨calls_settle_of_ne different _ _, cancellations_wake _ _ _⟩
  · exact ⟨rfl, rfl⟩
  · exact ⟨rfl, rfl⟩

theorem episode?_visit_of_ne {index other : Nat} (different : other ≠ index)
    (room : WaitingRoom η) : room.episode? index (.visit other) = none := by
  simp only [episode?, if_neg different]

namespace Follows

variable {room : WaitingRoom η} {index : Nat} {story : List (Episode η)}

/-- What does not concern a call leaves it as it is. -/
theorem idle (follows : room.Follows index story) (happening : Happening η)
    (none : room.episode? index happening = none)
    (calls : (room.next happening).calls[index]? = room.calls[index]?)
    (same : (room.next happening).scene.pool.cancellations = room.scene.pool.cancellations) :
    (room.next happening).Follows index (story ++ (room.episode? index happening).toList) := by
  rw [none, Option.toList_none, List.append_nil]
  unfold Follows at follows ⊢
  rwa [calls, same]

theorem call (follows : room.Follows index story) (demand : Demand) (mode : Mode)
    (timeout : Duration) :
    (room.next (.call demand mode timeout)).Follows index story := by
  by_cases there : index < room.calls.length
  · have kept : (room.next (.call demand mode timeout)).calls[index]? = room.calls[index]? :=
      List.getElem?_append_left there
    unfold Follows at follows ⊢
    rwa [kept]
  · have none := List.getElem?_eq_none (Nat.le_of_not_lt there)
    unfold Follows at follows ⊢
    rw [none] at follows
    rw [follows, WaitingRoom.next, List.getElem?_append_right (Nat.le_of_not_lt there)]
    cases index - room.calls.length with
    | zero => exact .arriving _
    | succ n => rfl

theorem visit (follows : room.Follows index story) :
    (room.visit index).Follows index
      (story ++ (room.episode? index (.visit index)).toList) := by
  cases at_index : room.calls[index]? with
  | none =>
    refine follows.idle (.visit index) ?_ ?_ ?_ <;>
      simp [WaitingRoom.next, WaitingRoom.visit, episode?, at_index]
  | some call =>
    obtain ⟨request, stage⟩ := call
    unfold Follows at follows ⊢
    rw [at_index] at follows
    cases stage with
    | returned outcome =>
      have same : room.visit index = room := by simp only [WaitingRoom.visit, at_index]
      have none : room.episode? index (.visit index) = none := by
        simp only [episode?, if_true, at_index]
      rw [same, none, at_index, Option.toList_none, List.append_nil]
      exact follows
    | arriving =>
      have visited : room.visit index = room.settle index (request.waiter room.scene.pool)
          ((request.waiter room.scene.pool).poll room.now room.scene.pool) := by
        simp only [WaitingRoom.visit, at_index]
      obtain rfl := Course.story_eq_nil follows
      rw [visited, calls_settle_self at_index]
      simp only [episode?, if_true, at_index, visited]
      exact Course.poll [] room.now rfl rfl (fun some => absurd rfl some) (by simp)
    | waiting waiter =>
      have visited : room.visit index = room.settle index waiter
          (waiter.wake room.now room.scene.pool) := by
        simp only [WaitingRoom.visit, at_index]
      rw [visited, calls_settle_self at_index]
      simp only [episode?, if_true, at_index, visited]
      exact Course.wake follows room.now

theorem cancel (follows : room.Follows index story) :
    (room.next (.act .cancel)).Follows index
      (story ++ (room.episode? index (.act .cancel)).toList) := by
  have calls : (room.next (.act .cancel)).calls = room.calls := rfl
  have more : (room.next (.act .cancel)).scene.pool.cancellations =
    room.scene.pool.cancellations + 1 := rfl
  unfold Follows at follows ⊢
  rw [calls, more]
  cases at_index : room.calls[index]? with
  | none =>
    rw [at_index] at follows
    simpa [episode?, waits, at_index] using follows
  | some call =>
    obtain ⟨request, stage⟩ := call
    rw [at_index] at follows
    cases stage with
    | waiting waiter =>
      have sent : room.episode? index (.act .cancel) = some .cancel := by
        simp only [episode?, waits, at_index, if_true]
      rw [sent]
      exact Course.cancel follows
    | arriving | returned =>
      have none : room.episode? index (.act .cancel) = none := by
        simp [episode?, waits, at_index]
      rw [none, Option.toList_none, List.append_nil]
      exact Course.idle follows (by intro _ same; cases same) _

/-- Whatever happens, a call goes on in its course. -/
theorem next (follows : room.Follows index story) (happening : Happening η) :
    (room.next happening).Follows index (story ++ (room.episode? index happening).toList) := by
  cases happening with
  | pass span => exact follows.idle _ rfl rfl rfl
  | call demand mode timeout =>
    exact (List.append_nil story).symm ▸ follows.call demand mode timeout
  | visit other =>
    by_cases here : other = index
    · subst here
      exact follows.visit
    · have apart := visit_of_ne here room
      exact follows.idle _ (episode?_visit_of_ne here room) apart.1 apart.2
  | act action =>
    by_cases cancels : action = .cancel
    · subst cancels
      exact follows.cancel
    · exact follows.idle _ (episode?_act cancels index room) rfl
        (cancellations_act cancels room.scene)

end Follows

/-- A call takes its course whatever happens. -/
theorem follows_run (config : Config) (happenings : List (Happening η)) (index : Nat) :
    ((opened config).run happenings).Follows index ((opened config).story index happenings) := by
  -- From the end of the run: what happens last is at most one thing more that concerns the call.
  induction happenings using List.reverseRecOn with
  | nil => rfl
  | append_singleton happenings happening ih =>
    rw [run_concat, story_concat]
    exact ih.next happening

/-- What a call brings about when it comes to the pool, callers could bring about by an attempt, or
by leaving everything as it is. -/
theorem scene_settle {waiter : Waiter} {room : WaitingRoom η}
    {outcome : Progress η × Pool (Slots η)} (index : Nat)
    (came : outcome = waiter.poll room.now room.scene.pool ∨
      outcome = (.failed .cancelled, room.scene.pool)) :
    (room.settle index waiter outcome).scene = room.scene ∨
      (room.settle index waiter outcome).scene =
        room.scene.act (.attempt waiter.demand.accepts) := by
  obtain rfl | rfl := came
  · simp only [settle, Scene.act, Waiter.poll, attempt_eq_attemptWhere?]
    obtain ⟨nothing, -⟩ | ⟨resource, left, taken, -, -⟩ :=
      attemptWhere?_cases waiter.demand.accepts room.scene.pool
    · simp only [nothing, Waiter.gain_orWait]
      exact .inl rfl
    · rw [taken]
      exact .inr rfl
  · exact .inl rfl

/-- What happens is, for the pool and those who hold something, an action or nothing. -/
theorem scene_next (room : WaitingRoom η) (happening : Happening η) :
    (room.next happening).scene = room.scene ∨
      ∃ action, (room.next happening).scene = room.scene.act action := by
  cases happening with
  | pass | call => exact .inl rfl
  | act action => exact .inr ⟨action, rfl⟩
  | visit index =>
    simp only [next, visit]
    split
    · exact (scene_settle index (.inl rfl)).imp_right fun same => ⟨_, same⟩
    · refine (scene_settle index ?_).imp_right fun same => ⟨_, same⟩
      unfold Waiter.wake
      split
      · exact .inl rfl
      · exact .inr rfl
    · exact .inl rfl
    · exact .inl rfl

/-- Whatever callers who wait bring about, callers who do not wait could have brought about by no
more actions, so that what holds of every scene holds in every waiting room. -/
theorem scene_run (config : Config) (happenings : List (Happening η)) :
    ∃ actions : List (Action η), actions.length ≤ happenings.length ∧
      ((opened config).run happenings).scene = Scene.run config actions := by
  induction happenings using List.reverseRecOn with
  | nil => exact ⟨[], Nat.le_refl 0, rfl⟩
  | append_singleton happenings happening ih =>
    obtain ⟨actions, fewer, same⟩ := ih
    rw [run_concat, List.length_append, List.length_singleton]
    obtain idle | ⟨action, acted⟩ := scene_next ((opened config).run happenings) happening
    · exact ⟨actions, Nat.le_succ_of_le fewer, idle.trans same⟩
    · refine ⟨actions ++ [action], ?_, ?_⟩
      · rw [List.length_append, List.length_singleton]
        exact Nat.succ_le_succ fewer
      · rw [acted, same, Scene.run, Scene.run, List.foldl_append]
        rfl

theorem countsTo_run (config : Config) (happenings : List (Happening η)) :
    ((opened config).run happenings).scene.pool.CountsTo happenings.length := by
  obtain ⟨actions, fewer, same⟩ := scene_run config happenings
  rw [same]
  exact (Pool.countsTo_run config actions).mono fewer

end WaitingRoom

end FareTerminal.Pool
