import FareTerminal.Session.Operation

/-! A session does the same on any two terminals that answer the same. What relates the terminals at
first, and is kept by every question and every command, relates them ever after. -/

namespace FareTerminal.Session

variable {σ τ α β : Type}

/-- The session on another terminal. -/
def on (session : Session σ) (terminal : τ) : Session τ := { session with terminal }

@[simp] theorem on_state (session : Session σ) (terminal : τ) :
    (session.on terminal).state = session.state := rfl

@[simp] theorem on_identity (session : Session σ) (terminal : τ) :
    (session.on terminal).identity = session.identity := rfl

/-- The same outcome, and sessions that differ in nothing but their related terminals. -/
inductive SameEnding (R : σ → τ → Prop) :
    EStateM.Result SessionError (Session σ) α → EStateM.Result SessionError (Session τ) α → Prop
  | ok (a : α) {session : Session σ} {terminal : τ} (related : R session.terminal terminal) :
    SameEnding R (.ok a session) (.ok a (session.on terminal))
  | error (error : SessionError) {session : Session σ} {terminal : τ}
    (related : R session.terminal terminal) :
    SameEnding R (.error error session) (.error error (session.on terminal))

/-- The computations do the same, wherever the terminals are related. -/
def Parallel (R : σ → τ → Prop) (work : SessionM σ α) (other : SessionM τ α) : Prop :=
  ∀ (session : Session σ) (terminal : τ), R session.terminal terminal →
    SameEnding R (work.run session) (other.run (session.on terminal))

variable {R : σ → τ → Prop}

theorem parallel_pure (a : α) : Parallel R (pure a) (pure a) := fun _ _ related => .ok a related

theorem parallel_throw (error : SessionError) :
    Parallel R (throw error : SessionM σ α) (throw error) := fun _ _ related => .error error related

theorem parallel_ofExcept (outcome : Except SessionError α) :
    Parallel R (MonadExcept.ofExcept outcome) (MonadExcept.ofExcept outcome) := by
  cases outcome with
  | ok a => exact parallel_pure a
  | error error => exact parallel_throw error

/-- A change of the session that leaves the terminal alone is the same with any terminal. -/
theorem parallel_modify {change : Session σ → Session σ} {change' : Session τ → Session τ}
    (same : ∀ (session : Session σ) (terminal : τ),
      change' (session.on terminal) = (change session).on terminal)
    (aside : ∀ session, (change session).terminal = session.terminal) :
    Parallel R (modify change) (modify change') := by
  intro session terminal related
  change SameEnding R (.ok () (change session)) (.ok () (change' (session.on terminal)))
  rw [same]
  exact .ok () (aside session ▸ related)

theorem parallel_modifyState (change : State → State) :
    Parallel R (modifyState change) (modifyState change) :=
  parallel_modify (by intros; rfl) (by intros; rfl)

namespace Parallel

theorem bind {work : SessionM σ α} {other : SessionM τ α} {next : α → SessionM σ β}
    {next' : α → SessionM τ β} (h : Parallel R work other)
    (hn : ∀ a, Parallel R (next a) (next' a)) :
    Parallel R (work >>= next) (other >>= next') := by
  intro session terminal related
  rw [EStateM.run_bind, EStateM.run_bind]
  match work.run session, other.run (session.on terminal), h session terminal related with
  | _, _, .ok a related => exact hn a _ _ related
  | _, _, .error error related => exact .error error related

theorem get_bind {next : Session σ → SessionM σ β} {next' : Session τ → SessionM τ β}
    (h : ∀ (session : Session σ) (terminal : τ),
      Parallel R (next session) (next' (session.on terminal))) :
    Parallel R (get >>= next) (get >>= next') :=
  fun session terminal related => h session terminal session terminal related

theorem ite {p : Prop} [Decidable p] {work next : SessionM σ α} {other next' : SessionM τ α}
    (h : Parallel R work other) (hn : Parallel R next next') :
    Parallel R (if p then work else next) (if p then other else next') := by
  by_cases hp : p
  · rwa [if_pos hp, if_pos hp]
  · rwa [if_neg hp, if_neg hp]

theorem tryCatch {work : SessionM σ α} {other : SessionM τ α}
    {handler : SessionError → SessionM σ α} {handler' : SessionError → SessionM τ α}
    (h : Parallel R work other)
    (hh : ∀ error, Parallel R (handler error) (handler' error)) :
    Parallel R (MonadExcept.tryCatch work handler) (MonadExcept.tryCatch other handler') := by
  intro session terminal related
  rw [run_tryCatch, run_tryCatch]
  match work.run session, other.run (session.on terminal), h session terminal related with
  | _, _, .ok a related => exact .ok a related
  | _, _, .error error related => exact hh error _ _ related

end Parallel

theorem parallel_abort (error : SessionError) :
    Parallel R (abort error : SessionM σ α) (abort error) :=
  (parallel_modifyState _).bind fun _ => parallel_throw error

theorem Parallel.orAbort {work : SessionM σ α} {other : SessionM τ α} (h : Parallel R work other) :
    Parallel R (orAbort work) (orAbort other) := h.tryCatch parallel_abort

theorem Parallel.orAbortOpened {work : SessionM σ α} {other : SessionM τ α}
    (h : Parallel R work other) : Parallel R (orAbortOpened work) (orAbortOpened other) :=
  h.tryCatch fun error => .get_bind fun _ _ => .ite (parallel_abort error) (parallel_throw error)

theorem parallel_require (condition : Bool) (error : SessionError) :
    Parallel R (require condition error) (require condition error) :=
  .ite (parallel_pure _) (parallel_throw _)

theorem parallel_requirePhase (phase : Phase) (fault : StateFault) :
    Parallel R (requirePhase phase fault) (requirePhase phase fault) :=
  .get_bind fun _ _ => parallel_require _ _

theorem parallel_report (results : List CommandResult) :
    Parallel R (report results) (report results) :=
  parallel_modify (by intros; rfl) (by intros; rfl)

theorem parallel_charge (command : FileCommand) :
    Parallel R (charge command) (charge command) := by
  refine .ite (.get_bind fun session terminal => ?_) (parallel_pure _)
  simp only [on_state, on_identity]
  split
  · exact parallel_modifyState _
  · exact parallel_throw _

theorem parallel_requireStoredValue : Parallel R requireStoredValue requireStoredValue :=
  .get_bind fun _ _ => (parallel_require _ _).bind fun _ => parallel_require _ _

theorem parallel_requireAccepted (kind : Card.CommandKind) (response : Apdu.Response) :
    Parallel R (requireAccepted kind response) (requireAccepted kind response) :=
  .ite (parallel_pure _) ((parallel_modifyState _).bind fun _ => parallel_throw _)

theorem parallel_requireFaultless : Parallel R requireFaultless requireFaultless := by
  refine .get_bind fun session terminal => ?_
  simp only [on_state]
  cases session.state.lastError with
  | none => exact parallel_pure _
  | some error => exact parallel_throw _

/-- Questions and commands do the same, and keep the terminals related. -/
structure Linked [Link σ] [Link τ] (R : σ → τ → Prop) : Prop where
  consult : ∀ call, Parallel R (consult call : SessionM σ _) (consult call : SessionM τ _)
  exchange : ∀ command,
    Parallel R (exchange command : SessionM σ _) (exchange command : SessionM τ _)

namespace Linked

variable [Link σ] [Link τ]

theorem exchangeDigested (linked : Linked R) (command : Apdu.Command) :
    Parallel R (exchangeDigested command) (exchangeDigested command) :=
  (linked.exchange command).bind fun _ => (linked.consult _).bind fun _ => parallel_pure _

theorem negotiate (linked : Linked R) (level : AccessLevel) (address : RecordAddress) :
    Parallel R (negotiate level address) (negotiate level address) :=
  .get_bind fun _ _ => (linked.consult _).bind fun _ => (linked.consult _).bind fun _ =>
    (linked.exchange _).bind fun _ => (parallel_ofExcept _).bind fun _ =>
    (linked.consult _).bind fun _ => parallel_pure _

theorem carryOut (linked : Linked R) (command : FileCommand) :
    Parallel R (carryOut command) (carryOut command) := by
  refine .get_bind fun _ _ => (linked.exchangeDigested _).bind fun _ => ?_
  exact .ite (parallel_ofExcept _) ((parallel_modifyState _).bind fun _ => parallel_pure _)

theorem sendAll (linked : Linked R) (commands : List FileCommand) :
    Parallel R (sendAll commands) (sendAll commands) := by
  induction commands with
  | nil => exact parallel_pure _
  | cons command rest ih =>
    refine (parallel_charge command).bind fun _ => (linked.carryOut command).orAbort.bind
      fun _ => (parallel_report _).bind fun _ => .get_bind fun _ _ => ?_
    exact .ite (parallel_report _) ih

theorem batch (linked : Linked R) (commands : List FileCommand) :
    Parallel R (batch commands) (batch commands) :=
  (parallel_requirePhase _ _).bind fun _ => (parallel_ofExcept _).bind fun _ =>
    (parallel_modify (by intros; rfl) (by intros; rfl)).bind fun _ => (linked.sendAll commands).bind
    fun _ => .get_bind fun _ _ => parallel_pure _

theorem openSession (linked : Linked R) (level : AccessLevel) (reads : List RecordAddress) :
    Parallel R (openSession level reads) (openSession level reads) := by
  refine (parallel_requirePhase _ _).bind fun _ => (parallel_ofExcept _).bind fun _ =>
    (linked.negotiate _ _).orAbort.bind fun _ => (parallel_modifyState _).bind fun _ => ?_
  exact .ite (parallel_pure _) ((linked.batch _).bind fun _ => parallel_pure _)

theorem ratify (linked : Linked R) (ratification : Ratification) :
    Parallel R (ratify ratification) (ratify ratification) :=
  .ite (.tryCatch (.get_bind fun _ _ => (linked.exchange _).bind fun _ => parallel_pure _)
    fun _ => parallel_pure _) (parallel_pure _)

theorem checkPostponed (linked : Linked R) (postponed : List Bytes) :
    Parallel R (checkPostponed postponed) (checkPostponed postponed) := by
  cases postponed with
  | nil => exact parallel_throw _
  | cons signature rest => exact (linked.consult _).bind fun _ => parallel_require _ _

theorem checkOwed (linked : Linked R) (postponed : List Bytes) :
    Parallel R (checkOwed postponed) (checkOwed postponed) := by
  refine .get_bind fun _ _ => .ite ?_ (parallel_pure _)
  exact (parallel_modify (by intros; rfl) (by intros; rfl)).bind fun _ => linked.checkPostponed _

theorem closeSession (linked : Linked R) (ratification : Ratification) :
    Parallel R (closeSession ratification) (closeSession ratification) := by
  refine (parallel_requirePhase _ _).bind fun _ => .bind (.orAbort ?_) fun _ =>
    parallel_modifyState _
  exact .get_bind fun _ _ => (linked.consult _).bind fun _ => (linked.exchange _).bind
    fun _ => (parallel_ofExcept _).bind fun _ => (linked.ratify _).bind fun _ =>
    (linked.consult _).bind fun _ => (parallel_require _ _).bind fun _ =>
    (linked.checkOwed _).bind fun _ => parallel_requireFaultless

theorem exchangeValue (linked : Linked R) (command : Apdu.Command) :
    Parallel R (exchangeValue command) (exchangeValue command) :=
  .orAbortOpened (.get_bind fun _ _ => .ite (linked.exchangeDigested _) (linked.exchange _))

theorem fetchReading (linked : Linked R) (operation : StoredValue.Operation) :
    Parallel R (fetchReading operation) (fetchReading operation) :=
  .get_bind fun _ _ => (linked.exchangeValue _).bind fun _ => (parallel_requireAccepted _ _).bind
    fun _ => .orAbortOpened (parallel_ofExcept _)

theorem readValue (linked : Linked R) (operation : StoredValue.Operation) (bothLogs : Bool) :
    Parallel R (readValue operation bothLogs) (readValue operation bothLogs) := by
  refine parallel_requireStoredValue.bind fun _ => ?_
  cases bothLogs with
  | false =>
    exact (linked.fetchReading _).bind fun _ =>
      (parallel_modify (by intros; rfl) (by intros; rfl)).bind fun _ => parallel_pure _
  | true =>
    exact (linked.fetchReading _).bind fun _ => (linked.fetchReading _).bind fun _ =>
      (parallel_modify (by intros; rfl) (by intros; rfl)).bind fun _ => parallel_pure _

theorem changeValue (linked : Linked R) (change : StoredValue.Change) :
    Parallel R (changeValue change) (changeValue change) := by
  refine parallel_requireStoredValue.bind fun _ => .get_bind fun _ _ =>
    (parallel_require _ _).bind fun _ => (parallel_ofExcept _).bind fun _ =>
    (parallel_modify (by intros; rfl) (by intros; rfl)).bind fun _ =>
    (linked.consult _).orAbortOpened.bind fun _ => (linked.exchangeValue _).bind fun _ =>
    (parallel_requireAccepted _ _).bind fun _ => .get_bind fun _ _ => .ite ?_ ?_
  · exact parallel_modify (by intros; rfl) (by intros; rfl)
  · exact (linked.consult _).bind fun _ => parallel_require _ _

theorem perform (linked : Linked R) (operation : Operation) :
    Parallel R (perform operation) (perform operation) := by
  cases operation with
  | openSession level reads => exact (linked.openSession _ _).bind fun _ => parallel_pure _
  | batch commands => exact (linked.batch _).bind fun _ => parallel_pure _
  | closeSession ratification => exact (linked.closeSession _).bind fun _ => parallel_pure _
  | readValue operation bothLogs => exact (linked.readValue _ _).bind fun _ => parallel_pure _
  | changeValue change => exact (linked.changeValue _).bind fun _ => parallel_pure _

theorem after (linked : Linked R) {session : Session σ} {terminal : τ}
    (related : R session.terminal terminal) (operation : Operation) :
    ∃ terminal', R (session.after operation).terminal terminal' ∧
      (session.on terminal).after operation = (session.after operation).on terminal' := by
  unfold Session.after
  match (Session.perform operation).run session,
    (Session.perform operation).run (session.on terminal),
    linked.perform operation session terminal related with
  | _, _, .ok a related => exact ⟨_, related, rfl⟩
  | _, _, .error error related => exact ⟨_, related, rfl⟩

theorem run (linked : Linked R) {session : Session σ} {terminal : τ}
    (related : R session.terminal terminal) (operations : List Operation) :
    ∃ terminal', R (session.run operations).terminal terminal' ∧
      (session.on terminal).run operations = (session.run operations).on terminal' := by
  induction operations generalizing session terminal with
  | nil => exact ⟨terminal, related, rfl⟩
  | cons operation rest ih =>
    obtain ⟨next, related, same⟩ := linked.after related operation
    rw [run_cons, run_cons, same]
    exact ih related

end Linked

/-- A terminal next to itself, of which something holds. -/
def Holding (p : τ → Prop) (terminal other : τ) : Prop := other = terminal ∧ p terminal

/-- What every question and every command keeps, a run keeps. -/
theorem Linked.holds_run [Link τ] {p : τ → Prop} (linked : Linked (Holding p)) {session : Session τ}
    (start : p session.terminal) (operations : List Operation) :
    p (session.run operations).terminal := by
  have related : Holding p session.terminal session.terminal := ⟨rfl, start⟩
  obtain ⟨_, ⟨_, kept⟩, _⟩ := linked.run related operations
  exact kept

end FareTerminal.Session
