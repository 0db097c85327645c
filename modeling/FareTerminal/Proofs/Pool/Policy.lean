import FareTerminal.Proofs.Pool.Course
import FareTerminal.Proofs.Pool.Latecomer

/-! The policy by which calls get security modules of a pool: who gets one, and who comes back with
what. It holds for every call among any others, whatever happens in whatever order. A cancellation
is for those who wait, and for nobody else. -/

namespace FareTerminal.Pool

variable {η : Type}

/-- What a call can rely on, from all that has concerned it. -/
structure KeepsPolicy (request : Request) (story : List (Episode η)) (stage : Stage η) : Prop where
  /-- The first attempt that finds something gets it, unless the call was sent away before. -/
  first : ∀ before visit after, story = before ++ .visit visit :: after → .cancel ∉ before →
    visit.offers request = true →
    after = [] ∧ ∃ resource, visit.Gets request resource ∧ stage = .returned (.ok resource)
  /-- What a call comes back with it got by its last attempt, and all before were in vain. -/
  obtained : ∀ resource, stage = .returned (.ok resource) →
    ∃ before visit, story = before ++ [.visit visit] ∧ visit.Gets request resource ∧
      ∀ episode ∈ before, ∃ earlier, episode = .visit earlier ∧ earlier.InVain request
  /-- A call that may not wait comes to the pool once, and then it is back. -/
  nonBlocking : request.mode = .nonBlocking →
    (story = [] ∧ stage = .arriving) ∨
      ∃ visit outcome, story = [.visit visit] ∧ stage = .returned outcome
  /-- A call gives up when an attempt was in vain and the clock shows that its time is over. -/
  timedOut : ∀ timeout, stage = .returned (.error (.timedOut timeout)) →
    request.mode = .blocking ∧ timeout = request.timeout ∧
      request.start + timeout.nanoseconds ≤ latest ∧
      ∃ before visit, story = before ++ [.visit visit] ∧ visit.InVain request ∧
        request.start + timeout.nanoseconds ≤ visit.now
  /-- A call is sent away just if somebody cancelled while it waited. -/
  cancelled_iff : ∀ outcome, stage = .returned outcome →
    (outcome = .error .cancelled ↔ .cancel ∈ story)
  /-- After that it sleeps on, or it has come to the pool once more and has taken nothing. -/
  sent_away : ∀ before after, story = before ++ .cancel :: after →
    (∃ waiter, stage = .waiting waiter) ∧ (∀ episode ∈ after, episode = .cancel) ∨
      stage = .returned (.error .cancelled) ∧ ∃ cancels visit, after = cancels ++ [.visit visit] ∧
        (∀ episode ∈ cancels, episode = .cancel) ∧ visit.left = visit.found
  /-- A call that fails has not changed anything. -/
  unchanged : ∀ error, stage = .returned (.error error) →
    ∀ visit, .visit visit ∈ story → visit.left = visit.found

/-- Two ways to take a list apart at its last element and elsewhere. -/
theorem last_or_mem {α : Type} {items before after : List α} {last item : α}
    (same : items ++ [last] = before ++ item :: after) :
    (after = [] ∧ items = before ∧ last = item) ∨
      ∃ rest, after = rest ++ [last] ∧ items = before ++ item :: rest := by
  obtain rfl | ⟨rest, other, rfl⟩ := List.eq_nil_or_concat after
  · obtain ⟨rfl, last⟩ := List.append_inj' same rfl
    exact .inl ⟨rfl, rfl, List.singleton_inj.mp last⟩
  · rw [List.concat_eq_append, ← List.cons_append, ← List.append_assoc] at same
    obtain ⟨rfl, last⟩ := List.append_inj' same rfl
    exact .inr ⟨rest, by rw [List.singleton_inj.mp last, List.concat_eq_append], rfl⟩

theorem Visit.due_iff {request : Request} {visit : Visit η} :
    visit.Due request ↔ request.start + request.timeout.nanoseconds ≤ latest ∧
      request.start + request.timeout.nanoseconds ≤ visit.now := by
  unfold Due deadline?
  split
  · rename_i shown
    simp [shown]
  · rename_i hidden
    simp [hidden]

section Vigil

variable {visits : List (Visit η)} {cancels : Nat}

@[simp] theorem visit_mem_vigil {visit : Visit η} :
    .visit visit ∈ vigil visits cancels ↔ visit ∈ visits := by
  simp [vigil, List.mem_replicate]

@[simp] theorem cancel_mem_vigil : .cancel ∈ vigil visits cancels ↔ cancels ≠ 0 := by
  simp [vigil, List.mem_replicate]

/-- A call that finds something does not wait on. -/
theorem offers_eq_false_of_vigil {request : Request} {before after : List (Episode η)}
    {visit : Visit η} (sleeps : ∀ visit ∈ visits, visit.Sleeps request)
    (split : vigil visits cancels = before ++ .visit visit :: after) :
    visit.offers request = false := by
  have member : .visit visit ∈ vigil visits cancels := by
    rw [split]
    exact List.mem_append_right before List.mem_cons_self
  exact (sleeps visit (visit_mem_vigil.mp member)).inVain.1

theorem eq_cancel_of_vigil {before after : List (Episode η)}
    (split : vigil visits cancels = before ++ .cancel :: after) :
    ∀ episode ∈ after, episode = .cancel := by
  have ordered : (vigil visits cancels).Pairwise
      fun first second => first = .cancel → second = .cancel := by
    refine List.pairwise_append.mpr ⟨?_, ?_, fun _ _ second member _ => ?_⟩
    · refine List.pairwise_map.mpr (List.pairwise_of_forall fun _ _ same => ?_)
      cases same
    · exact List.pairwise_replicate.mpr (.inr fun _ => rfl)
    · exact List.eq_of_mem_replicate member
  rw [split] at ordered
  have behind := (List.pairwise_cons.mp (List.pairwise_append.mp ordered).2.1).1
  exact fun episode member => behind episode member rfl

end Vigil

namespace Course

variable {request : Request} {count : Nat} {story : List (Episode η)} {stage : Stage η}

theorem first (course : Course request count story stage) {before after : List (Episode η)}
    {visit : Visit η} (split : story = before ++ .visit visit :: after)
    (uncancelled : .cancel ∉ before) (offers : visit.offers request = true) :
    after = [] ∧ ∃ resource, visit.Gets request resource ∧ stage = .returned (.ok resource) := by
  cases course with
  | arriving => simp at split
  | waiting cancels began blocking sleeps =>
    rw [offers_eq_false_of_vigil sleeps split] at offers
    cases offers
  | returned _ blocking began sleeps ends =>
    obtain ⟨rfl, rfl, last⟩ | ⟨rest, rfl, front⟩ := last_or_mem split
    · cases last
      cases ends with
      | obtained gets => exact ⟨rfl, _, gets, rfl⟩
      | unavailable _ inVain | timedOut _ inVain _ => simp [inVain.1] at offers
      | cancelled => simp at uncancelled
    · rw [offers_eq_false_of_vigil sleeps front] at offers
      cases offers

theorem nonBlocking (course : Course request count story stage)
    (mode : request.mode = .nonBlocking) :
    (story = [] ∧ stage = .arriving) ∨
      ∃ visit outcome, story = [.visit visit] ∧ stage = .returned outcome := by
  cases course with
  | arriving => exact .inl ⟨rfl, rfl⟩
  | waiting cancels began blocking sleeps =>
    rw [mode] at blocking
    cases blocking
  | @returned _ cancels earlier last outcome blocking began sleeps ends =>
    obtain rfl : earlier = [] := by
      by_contra visited
      rw [blocking visited] at mode
      cases mode
    obtain rfl : cancels = 0 := by
      by_contra cancelled
      exact began cancelled rfl
    exact .inr ⟨last, outcome, rfl, rfl⟩

theorem sent_away (course : Course request count story stage) {before after : List (Episode η)}
    (split : story = before ++ .cancel :: after) :
    (∃ waiter, stage = .waiting waiter) ∧ (∀ episode ∈ after, episode = .cancel) ∨
      stage = .returned (.error .cancelled) ∧ ∃ cancels visit, after = cancels ++ [.visit visit] ∧
        (∀ episode ∈ cancels, episode = .cancel) ∧ visit.left = visit.found := by
  cases course with
  | arriving => simp at split
  | waiting => exact .inl ⟨⟨_, rfl⟩, eq_cancel_of_vigil split⟩
  | @returned _ cancels earlier last outcome blocking began sleeps ends =>
    obtain ⟨-, -, last⟩ | ⟨rest, rfl, front⟩ := last_or_mem split
    · cases last
    · cases ends with
      | cancelled cancels unchanged =>
        exact .inr ⟨rfl, rest, last, rfl, eq_cancel_of_vigil front, unchanged⟩
      | obtained | unavailable | timedOut =>
        have member : .cancel ∈ vigil earlier 0 := by simp [front]
        exact absurd rfl (cancel_mem_vigil.mp member)

theorem keepsPolicy (course : Course request count story stage) :
    KeepsPolicy request story stage where
  first before visit after := course.first
  nonBlocking := course.nonBlocking
  sent_away before after := course.sent_away
  obtained resource back := by
    cases course with
    | arriving | waiting => cases back
    | returned _ blocking began sleeps ends =>
      cases back
      cases ends with
      | obtained gets =>
        refine ⟨_, _, rfl, gets, fun episode member => ?_⟩
        obtain ⟨visit, waited, rfl⟩ := List.mem_map.mp (by simpa [vigil] using member)
        exact ⟨visit, rfl, (sleeps visit waited).inVain⟩
  timedOut timeout back := by
    cases course with
    | arriving | waiting => cases back
    | returned _ blocking began sleeps ends =>
      cases back
      cases ends with
      | timedOut blocking inVain due =>
        obtain ⟨shown, reached⟩ := Visit.due_iff.mp due
        exact ⟨blocking, rfl, shown, _, _, rfl, inVain, reached⟩
  cancelled_iff outcome back := by
    cases course with
    | arriving | waiting => cases back
    | returned _ blocking began sleeps ends =>
      cases back
      cases ends <;> simp
  unchanged error back visit member := by
    cases course with
    | arriving | waiting => cases back
    | returned _ blocking began sleeps ends =>
      cases back
      obtain member | member := List.mem_append.mp member
      · exact (sleeps visit (visit_mem_vigil.mp member)).inVain.2
      · cases List.mem_singleton.mp member
        cases ends with
        | unavailable _ inVain | timedOut _ inVain _ => exact inVain.2
        | cancelled _ unchanged => exact unchanged

end Course

open WaitingRoom in
/-- Whatever happens at a pool, every call keeps to the policy. A cancellation that finds nobody
waiting, or only those who never wake up, makes no difference: later calls come back with the same,
and all that is in the slots, noted and held is the same. -/
theorem run_keepsPolicy (config : Config) :
    (∀ (happenings : List (Happening η)) (index : Nat) (call : Call η),
      ((opened config).run happenings).calls[index]? = some call →
      KeepsPolicy call.request ((opened config).story index happenings) call.stage) ∧
    ∀ before after : List (Happening η),
      (∀ index, ((opened config).run before).waits index = true → .visit index ∉ after) →
      let late := (opened config).run (before ++ .act .cancel :: after)
      let room := (opened config).run (before ++ after)
      late.calls.map (·.outcome?) = room.calls.map (·.outcome?) ∧
        late.scene = room.scene.act .cancel ∧ late.now = room.now := by
  constructor
  · intro happenings index call at_index
    have follows := follows_run config happenings index
    unfold Follows at follows
    rw [at_index] at follows
    exact follows.keepsPolicy
  · intro before after asleep late room
    have same : late = room.later (((opened config).run before).waits ·) := by
      simp only [late, room, run, List.foldl_append, List.foldl_cons]
      rw [cancel_eq_later fun _ waits => waits]
      exact run_later asleep _
    rw [same]
    exact ⟨outcomes_later _ room, rfl, rfl⟩

def transit : Identifier := { group := "transit" }

/-- The only security module is taken. -/
def occupy : List (Happening Nat) :=
  [.act (.add "SAM-1" { group := "transit", serial := [1, 2, 3, 4] } 7),
    .act (.attempt transit.accepts)]

open WaitingRoom in
/-- A call that is sent away does not take what is there when it wakes up; the next one gets it. If
the cancellation comes before the call, then the call waits on. -/
theorem run_keepsPolicy_occupied :
    let wait : List (Happening Nat) :=
      [.call transit.demand .blocking (.ofSeconds 5), .visit 0]
    let retry : List (Happening Nat) := [.act (.release 0), .visit 0,
      .call transit.demand .nonBlocking ⟨0⟩, .visit 1]
    let happenings := occupy ++ wait ++ .act .cancel :: retry
    (∃ first second : Call Nat,
      ((opened {}).run happenings).calls = [first, second] ∧
        first.stage = .returned (.error .cancelled) ∧
        KeepsPolicy first.request ((opened {}).story 0 happenings) first.stage ∧
        second.outcome?.map Except.isOk = some true ∧
        KeepsPolicy second.request ((opened {}).story 1 happenings) second.stage) ∧
      ((opened {}).run (occupy ++ .act .cancel :: wait)).scene =
        ((opened {}).run (occupy ++ wait)).scene.act .cancel := by
  intro wait retry happenings
  refine ⟨⟨_, _, rfl, rfl, ?_, rfl, ?_⟩, ?_⟩
  · exact (run_keepsPolicy {}).1 happenings 0 _ rfl
  · exact (run_keepsPolicy {}).1 happenings 1 _ rfl
  · exact ((run_keepsPolicy {}).2 occupy wait fun index waits => by cases waits).2.1

end FareTerminal.Pool
