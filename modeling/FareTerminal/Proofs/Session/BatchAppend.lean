import FareTerminal.Proofs.Session.Overflow

/-! Batches compose: two of them in turn do what the one does that has the commands of both. The results
of the last batch are written, but never read, while its commands are sent. -/

namespace FareTerminal.Session

variable {τ α β : Type}

/-- The session with results before those of its last batch. -/
def preceded (earlier : List CommandResult) (session : Session τ) : Session τ :=
  { session with lastBatch := earlier ++ session.lastBatch }

@[simp] theorem preceded_state (earlier : List CommandResult) (session : Session τ) :
    (session.preceded earlier).state = session.state := rfl

@[simp] theorem preceded_identity (earlier : List CommandResult) (session : Session τ) :
    (session.preceded earlier).identity = session.identity := rfl

/-- The same ending, with results before those of the last batch. -/
def endPreceded (earlier : List CommandResult) :
    EStateM.Result SessionError (Session τ) α → EStateM.Result SessionError (Session τ) α
  | .ok a after => .ok a (after.preceded earlier)
  | .error error after => .error error (after.preceded earlier)

/-- The first computation does behind earlier results what the second does without them. -/
def Follows (earlier : List CommandResult) (work work' : SessionM τ α) : Prop :=
  ∀ session, work.run (session.preceded earlier) = endPreceded earlier (work'.run session)

variable {earlier : List CommandResult}

theorem follows_pure (a : α) : Follows earlier (pure a : SessionM τ α) (pure a) := fun _ => rfl

theorem follows_throw (error : SessionError) :
    Follows earlier (throw error : SessionM τ α) (throw error) := fun _ => rfl

theorem follows_ofExcept (outcome : Except SessionError α) :
    Follows earlier (MonadExcept.ofExcept outcome : SessionM τ α) (MonadExcept.ofExcept outcome) := by
  cases outcome with
  | ok a => exact follows_pure a
  | error error => exact follows_throw error

theorem follows_modifyState (change : State → State) :
    Follows earlier (modifyState change : SessionM τ Unit) (modifyState change) := fun _ => rfl

theorem follows_report (results : List CommandResult) :
    Follows earlier (report results : SessionM τ Unit) (report results) := by
  intro session
  simp [report, preceded, endPreceded]

namespace Follows

theorem bind {work work' : SessionM τ α} {next next' : α → SessionM τ β}
    (h : Follows earlier work work') (hn : ∀ a, Follows earlier (next a) (next' a)) :
    Follows earlier (work >>= next) (work' >>= next') := by
  intro session
  rw [EStateM.run_bind, EStateM.run_bind, h session]
  cases work'.run session with
  | ok a between => exact hn a between
  | error error between => rfl

theorem get_bind {next next' : Session τ → SessionM τ α}
    (h : ∀ session, Follows earlier (next (session.preceded earlier)) (next' session)) :
    Follows earlier (get >>= next) (get >>= next') := fun session => h session session

theorem ite {p : Prop} [Decidable p] {work work' next next' : SessionM τ α}
    (h : Follows earlier work work') (hn : Follows earlier next next') :
    Follows earlier (if p then work else next) (if p then work' else next') := by
  by_cases hp : p
  · rwa [if_pos hp, if_pos hp]
  · rwa [if_neg hp, if_neg hp]

theorem orAbort {work work' : SessionM τ α} (h : Follows earlier work work') :
    Follows earlier (orAbort work) (orAbort work') := by
  intro session
  rw [run_orAbort, run_orAbort, h session]
  cases work'.run session <;> rfl

end Follows

theorem follows_charge (command : FileCommand) :
    Follows earlier (charge command : SessionM τ Unit) (charge command) := by
  refine .ite (.get_bind fun session => ?_) (follows_pure _)
  simp only [preceded_state, preceded_identity]
  split
  · exact follows_modifyState _
  · exact follows_throw _

theorem follows_noting {ε : Type} (wrap : ε → SessionError) (event : Except ε α → Event)
    (work : EStateM ε τ α) : Follows earlier (noting wrap event work) (noting wrap event work) := by
  intro session
  change noting wrap event work (session.preceded earlier) =
    endPreceded earlier (noting wrap event work session)
  have same : (session.preceded earlier).terminal = session.terminal := rfl
  unfold noting
  rw [same]
  cases work session.terminal.terminal <;> rfl

section Terminals

variable [Terminal τ]

theorem follows_exchangeDigested (command : Apdu.Command) :
    Follows earlier (exchangeDigested command : SessionM (Journaled τ) Apdu.Response)
      (exchangeDigested command) :=
  (follows_noting _ _ _).bind fun _ => (follows_noting _ _ _).bind fun _ => follows_pure _

theorem follows_carryOut (command : FileCommand) :
    Follows earlier (carryOut command : SessionM (Journaled τ) CommandResult) (carryOut command) :=
  .get_bind fun _ => (follows_exchangeDigested _).bind fun _ =>
    .ite (follows_ofExcept _) ((follows_modifyState _).bind fun _ => follows_pure _)

theorem follows_sendAll (commands : List FileCommand) :
    Follows earlier (sendAll commands : SessionM (Journaled τ) Unit) (sendAll commands) := by
  induction commands with
  | nil => exact follows_pure _
  | cons command rest ih =>
    exact (follows_charge command).bind fun _ => (follows_carryOut command).orAbort.bind fun _ =>
      (follows_report _).bind fun _ => .get_bind fun _ => .ite (follows_report _) ih

/-- How a batch ends that has results of another one before its own. -/
def joined (earlier : List CommandResult) :
    EStateM.Result SessionError (Session τ) (List CommandResult) →
      EStateM.Result SessionError (Session τ) (List CommandResult)
  | .ok results after => .ok (earlier ++ results) (after.preceded earlier)
  | .error error after => .error error (after.preceded earlier)

/-- The results that were there before stay before those that are reported. -/
theorem run_finish_eq_joined (commands : List FileCommand) (session : Session (Journaled τ)) :
    (finish commands).run session =
      joined session.lastBatch ((finish commands).run { session with lastBatch := [] }) := by
  have follows : (sendAll commands).run (preceded session.lastBatch { session with lastBatch := [] }) =
      endPreceded session.lastBatch ((sendAll commands).run { session with lastBatch := [] }) :=
    follows_sendAll commands _
  have restored : preceded session.lastBatch { session with lastBatch := [] } = session := by
    simp [preceded]
  rw [restored] at follows
  rw [finish, EStateM.run_bind, EStateM.run_bind, follows]
  cases (sendAll commands).run { session with lastBatch := [] } <;> rfl

end Terminals

/-- What fails at one of the first commands does not come to the others. -/
theorem run_sendAll_append_error [Link τ] {session after : Session τ} {first : List FileCommand}
    {error : SessionError} (more : List FileCommand)
    (failed : (sendAll first).run session = .error error after) :
    (sendAll (first ++ more)).run session = .error error after := by
  induction first generalizing session with
  | nil => cases failed
  | cons command rest ih =>
    rw [List.cons_append, sendAll, EStateM.run_bind]
    rw [sendAll, EStateM.run_bind] at failed
    cases charged : (charge command).run session with
    | error failure s₁ =>
      rw [charged] at failed
      exact failed
    | ok _ s₁ =>
      simp only [charged, EStateM.run_bind] at failed ⊢
      cases carried : (orAbort (carryOut command)).run s₁ with
      | error failure s₂ =>
        rw [carried] at failed
        exact failed
      | ok result s₂ =>
        simp only [carried, report, EStateM.run_modify, EStateM.run_get] at failed ⊢
        cases stops : stopsBatch s₂.settings.rejectionPolicy result with
        | true =>
          rw [stops, if_pos rfl] at failed
          cases failed
        | false =>
          rw [stops] at failed
          exact ih failed

/-- How two batches in turn end, the second one only if the first was carried out, with the results of
both. -/
def inTurn [Link τ] (first second : List FileCommand) (session : Session τ) :
    EStateM.Result SessionError (Session τ) (List CommandResult) :=
  match (batch first).run session with
  | .ok earlier between => joined earlier ((batch second).run between)
  | .error error after => .error error after

theorem stopsBatch_of_unrejected {policy : RejectionPolicy} {results : List CommandResult}
    (unrejected : policy = .bestEffort ∨ ∀ status, .rejected status ∉ results) :
    ∀ result ∈ results, stopsBatch policy result = false := by
  intro result member
  cases result with
  | rejected status =>
    obtain rfl | unrejected := unrejected
    · rfl
    · exact absurd member (unrejected status)
  | records | counter | applied | skipped => rfl

theorem run_batch_append_journaled [Terminal τ] {session : Session (Journaled τ)}
    {first second : List FileCommand} (opened : session.state.phase = .opened)
    (addressed : checkAddresses (first ++ second) = .ok ())
    (unrejected : session.settings.rejectionPolicy = .bestEffort ∨
      ∀ status, .rejected status ∉ (session.after (.batch first)).lastBatch) :
    (batch (first ++ second)).run session = inTurn first second session := by
  obtain ⟨addressed₁, addressed₂⟩ := (checkAddresses_append first second).mp addressed
  rw [after_batch] at unrejected
  rw [inTurn]
  cases carried : (batch first).run session with
  | error error after =>
    rw [run_batch opened addressed₁, finish, EStateM.run_bind] at carried
    rw [run_batch opened addressed, finish, EStateM.run_bind]
    cases sent : (sendAll first).run { session with lastBatch := [] } with
    | ok _ between => simp [sent] at carried
    | error failure between =>
      rw [sent] at carried
      rw [run_sendAll_append_error second sent]
      exact carried
  | ok earlier between =>
    rw [carried] at unrejected
    have kept : earlier = between.lastBatch := by
      rw [run_batch opened addressed₁] at carried
      exact (run_finish_eq_ok carried).2
    have reaches : Reaches session first between :=
      ⟨earlier, carried, kept ▸ stopsBatch_of_unrejected unrejected⟩
    rw [run_batch_append reaches addressed, run_finish_eq_joined, ← kept,
      ← run_batch reaches.opened addressed₂]

theorem erase_inTurn [Terminal τ] (first second : List FileCommand)
    (session : Session (Journaled τ)) :
    inTurn first second session.erase = eraseResult (inTurn first second session) := by
  unfold inTurn
  rw [mirrors_batch first session]
  cases (batch first).run session with
  | error error after => rfl
  | ok earlier between =>
    change joined earlier ((batch second).run between.erase) =
      eraseResult (joined earlier ((batch second).run between))
    rw [mirrors_batch second between]
    cases (batch second).run between <;> rfl

/-- Where no rejection ends the first of two batches, the one with the commands of both does the same as
the two in turn: it returns the same, leaves the same session but for the results of the first batch,
which are kept before those of the second, and the same is said to the card and to the security module,
in the same order. If the first fails, or the second, so does the one. -/
theorem batch_append_eq_inTurn [Terminal τ] (session : Session τ) (first second : List FileCommand)
    (opened : session.state.phase = .opened) (addressed : checkAddresses first = .ok ())
    (addressed' : checkAddresses second = .ok ())
    (unrejected : session.settings.rejectionPolicy = .bestEffort ∨
      ∀ status, .rejected status ∉ (session.after (.batch first)).lastBatch) :
    (batch (first ++ second)).run session = inTurn first second session ∧
      (batch (first ++ second)).run session.journaled = inTurn first second session.journaled := by
  have kept : (session.journaled.after (.batch first)).erase = session.after (.batch first) :=
    erase_run session.journaled [.batch first]
  rw [← kept] at unrejected
  have both := (checkAddresses_append first second).mpr ⟨addressed, addressed'⟩
  have noted : (batch (first ++ second)).run session.journaled =
      inTurn first second session.journaled :=
    run_batch_append_journaled opened both unrejected
  refine ⟨?_, noted⟩
  have plain := mirrors_batch (first ++ second) session.journaled
  rwa [noted, ← erase_inTurn] at plain

/-- A rejected update and a reading of the record, in one batch and in two. -/
theorem batch_append_eq_inTurn_rejected :
    let session := run (new rejectingBench sampleCard {}) [.openSession .load []]
    let first : List FileCommand := [.updateRecord 7 1 [0x2A]]
    let second : List FileCommand := [.readRecord 7 1]
    session.state.phase = .opened ∧ session.settings.rejectionPolicy = .bestEffort ∧
      checkAddresses first = .ok () ∧ checkAddresses second = .ok () ∧
      ∃ after, (batch (first ++ second)).run session =
          .ok [.rejected 0x6982, .records [(1, [0x2B])]] after ∧
        inTurn first second session = .ok [.rejected 0x6982, .records [(1, [0x2B])]] after := by
  intro session first second
  have opened : session.state.phase = .opened := rfl
  have best : session.settings.rejectionPolicy = .bestEffort := rfl
  obtain ⟨same, -⟩ := batch_append_eq_inTurn session first second opened rfl rfl (.inl best)
  obtain ⟨after, carried⟩ : ∃ after, (batch (first ++ second)).run session =
      .ok [.rejected 0x6982, .records [(1, [0x2B])]] after := ⟨_, rfl⟩
  exact ⟨opened, best, rfl, rfl, after, carried, same.symm.trans carried⟩

end FareTerminal.Session
