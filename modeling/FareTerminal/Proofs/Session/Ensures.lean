import FareTerminal.Session.Journal

/-! A small calculus for what holds after a computation on a session, however it ends. Each rule
takes a computation to its parts; a question or a command leaves every answer to be considered. -/

namespace FareTerminal.Session

variable {τ α β : Type}

/-- What has to hold of an outcome and of the session that comes with it. -/
abbrev Postcondition (τ α : Type) := Except SessionError α → Session τ → Prop

/-- The postcondition holds of how the computation ends. -/
def Ensures (work : SessionM τ α) (session : Session τ) (post : Postcondition τ α) : Prop :=
  match work.run session with
  | .ok a session => post (.ok a) session
  | .error error session => post (.error error) session

/-- What has to hold between two computations: either the first fails, or the second goes on. -/
def andThen (next : α → SessionM τ β) (post : Postcondition τ β) : Postcondition τ α
  | .ok a, session => Ensures (next a) session post
  | .error error, session => post (.error error) session

@[simp] theorem andThen_ok (next : α → SessionM τ β) (post : Postcondition τ β) (a : α)
    (session : Session τ) :
    andThen next post (.ok a) session = Ensures (next a) session post := rfl

@[simp] theorem andThen_error (next : α → SessionM τ β) (post : Postcondition τ β)
    (error : SessionError) (session : Session τ) :
    andThen next post (.error error) session = post (.error error) session := rfl

theorem Ensures.imp {work : SessionM τ α} {session : Session τ} {post post' : Postcondition τ α}
    (h : Ensures work session post) (weaker : ∀ outcome session, post outcome session →
      post' outcome session) : Ensures work session post' := by
  unfold Ensures at h ⊢
  cases ends : work.run session <;> rw [ends] at h <;> exact weaker _ _ h

theorem Ensures.and {work : SessionM τ α} {session : Session τ} {post post' : Postcondition τ α}
    (h : Ensures work session post) (h' : Ensures work session post') :
    Ensures work session fun outcome after => post outcome after ∧ post' outcome after := by
  unfold Ensures at h h' ⊢
  cases ends : work.run session <;> rw [ends] at h h' <;> exact ⟨h, h'⟩

/-- A computation ends in the way in which it ends. -/
theorem ensures_run (work : SessionM τ α) (session : Session τ) :
    Ensures work session fun outcome after => work.run session = ending outcome after := by
  unfold Ensures
  cases work.run session <;> rfl

theorem ensures_bind (work : SessionM τ α) (next : α → SessionM τ β) (session : Session τ)
    (post : Postcondition τ β) :
    Ensures (work >>= next) session post ↔ Ensures work session (andThen next post) := by
  simp only [Ensures, EStateM.run_bind]
  cases work.run session <;> rfl

theorem ensures_map (f : α → β) (work : SessionM τ α) (session : Session τ)
    (post : Postcondition τ β) :
    Ensures (f <$> work) session post ↔
      Ensures work session fun outcome => post (outcome.map f) := by
  simp only [Ensures, run_map]
  cases work.run session <;> rfl

/-- Where the outcome does not count, neither does what is returned in the end. -/
theorem Ensures.bind_pure {work : SessionM τ α} {session : Session τ} {p : Session τ → Prop}
    (h : Ensures work session fun _ session => p session) (f : α → β) :
    Ensures (work >>= fun a => pure (f a)) session fun _ session => p session := by
  rw [ensures_bind]
  refine h.imp ?_
  rintro (error | a) after h <;> exact h

@[simp] theorem ensures_pure (a : α) (session : Session τ) (post : Postcondition τ α) :
    Ensures (pure a) session post ↔ post (.ok a) session := Iff.rfl

@[simp] theorem ensures_throw (error : SessionError) (session : Session τ)
    (post : Postcondition τ α) :
    Ensures (throw error) session post ↔ post (.error error) session := Iff.rfl

@[simp] theorem ensures_get (session : Session τ) (post : Postcondition τ (Session τ)) :
    Ensures get session post ↔ post (.ok session) session := Iff.rfl

@[simp] theorem ensures_modify (change : Session τ → Session τ) (session : Session τ)
    (post : Postcondition τ PUnit) :
    Ensures (modify change) session post ↔ post (.ok ()) (change session) := Iff.rfl

@[simp] theorem ensures_modifyState (change : State → State) (session : Session τ)
    (post : Postcondition τ Unit) :
    Ensures (modifyState change) session post ↔
      post (.ok ()) { session with state := change session.state } := Iff.rfl

@[simp] theorem ensures_ofExcept (outcome : Except SessionError α) (session : Session τ)
    (post : Postcondition τ α) :
    Ensures (MonadExcept.ofExcept outcome) session post ↔ post outcome session := by
  unfold Ensures
  rw [run_ofExcept]
  cases outcome <;> rfl

/-- What has to hold before a failure is handled. -/
def orElse (handler : SessionError → SessionM τ α) (post : Postcondition τ α) : Postcondition τ α
  | .ok a, session => post (.ok a) session
  | .error error, session => Ensures (handler error) session post

theorem ensures_tryCatch (work : SessionM τ α) (handler : SessionError → SessionM τ α)
    (session : Session τ) (post : Postcondition τ α) :
    Ensures (tryCatch work handler) session post ↔ Ensures work session (orElse handler post) := by
  simp only [Ensures, run_tryCatch]
  cases work.run session <;> rfl

/-- What has to hold before a failure ends the session. -/
def orFailed (post : Postcondition τ α) : Postcondition τ α
  | .ok a, session => post (.ok a) session
  | .error error, session =>
    post (.error error) { session with state := session.state.fail error }

theorem ensures_orAbort (work : SessionM τ α) (session : Session τ) (post : Postcondition τ α) :
    Ensures (orAbort work) session post ↔ Ensures work session (orFailed post) := by
  simp only [Ensures, run_orAbort]
  cases work.run session <;> rfl

/-- What has to hold before a failure ends the session if it is open. -/
def orFailedOpened (post : Postcondition τ α) : Postcondition τ α
  | .ok a, session => post (.ok a) session
  | .error error, session =>
    post (.error error)
      (if session.state.phase = .opened then { session with state := session.state.fail error }
      else session)

theorem ensures_orAbortOpened (work : SessionM τ α) (session : Session τ)
    (post : Postcondition τ α) :
    Ensures (orAbortOpened work) session post ↔ Ensures work session (orFailedOpened post) := by
  simp only [Ensures, run_orAbortOpened]
  cases work.run session <;> rfl

@[simp] theorem ensures_require (condition : Bool) (error : SessionError) (session : Session τ)
    (post : Postcondition τ Unit) :
    Ensures (require condition error) session post ↔
      post (if condition then .ok () else .error error) session := by
  cases condition <;> rfl

theorem ensures_requirePhase (phase : Phase) (fault : StateFault) (session : Session τ)
    {post : Postcondition τ Unit} (held : session.state.phase = phase → post (.ok ()) session)
    (failed : session.state.phase ≠ phase → post (.error (.illegalState fault)) session) :
    Ensures (requirePhase phase fault) session post := by
  rw [requirePhase, ensures_bind, ensures_get, andThen_ok, ensures_require]
  by_cases h : session.state.phase = phase
  · simpa [h] using held h
  · simpa [h] using failed h

theorem after_of_ensures [Link τ] {session : Session τ} {operation : Operation}
    {p : Session τ → Prop}
    (h : Ensures (perform operation) session fun _ session => p session) :
    p (session.after operation) := by
  unfold Ensures at h
  unfold after
  split at h <;> rename_i ends <;> rw [ends] <;> exact h

section Journal

variable [Terminal τ]

theorem ensures_consult_cases (call : Sam.Call) (session : Session (Journaled τ))
    {post : Postcondition (Journaled τ) call.Answer}
    (answered : ∀ answer terminal,
      (Terminal.consult call).run session.terminal.terminal = .ok answer terminal →
      post (.ok answer) (session.note terminal [.sam call (.ok answer)]))
    (failed : ∀ error terminal,
      (Terminal.consult call).run session.terminal.terminal = .error error terminal →
      post (.error error) (session.note terminal [.sam call (.error error)])) :
    Ensures (consult call) session post := by
  change Ensures (noting _ _ _) session post
  unfold Ensures EStateM.run noting
  cases told : Terminal.consult call session.terminal.terminal with
  | ok answer terminal => exact answered answer terminal told
  | error error terminal => exact failed error terminal told

theorem ensures_consult_of_ok {call : Sam.Call} {session : Session (Journaled τ)}
    {answer : call.Answer} {left : τ}
    (told : (Terminal.consult call).run session.terminal.terminal = .ok answer left)
    {post : Postcondition (Journaled τ) call.Answer}
    (h : post (.ok answer) (session.note left [.sam call (.ok answer)])) :
    Ensures (consult call) session post := by
  apply ensures_consult_cases
  · intro answer' left' told'
    cases told.symm.trans told'
    exact h
  · intro error left' told'
    cases told.symm.trans told'

theorem ensures_consult_of_error {call : Sam.Call} {session : Session (Journaled τ)}
    {error : SessionError} {left : τ}
    (told : (Terminal.consult call).run session.terminal.terminal = .error error left)
    {post : Postcondition (Journaled τ) call.Answer}
    (h : post (.error error) (session.note left [.sam call (.error error)])) :
    Ensures (consult call) session post := by
  apply ensures_consult_cases
  · intro answer left' told'
    cases told.symm.trans told'
  · intro error' left' told'
    cases told.symm.trans told'
    exact h

theorem ensures_consult (call : Sam.Call) (session : Session (Journaled τ))
    {post : Postcondition (Journaled τ) call.Answer}
    (h : ∀ answer terminal, post answer (session.note terminal [.sam call answer])) :
    Ensures (consult call) session post :=
  ensures_consult_cases call session (fun answer terminal _ => h (.ok answer) terminal)
    fun error terminal _ => h (.error error) terminal

@[simp] theorem mapError_ok {ε ε' : Type} (f : ε → ε') (a : α) :
    (Except.ok a).mapError f = .ok a := rfl

theorem ensures_exchange_cases (command : Apdu.Command) (session : Session (Journaled τ))
    {post : Postcondition (Journaled τ) Apdu.Response}
    (answered : ∀ response terminal,
      (Terminal.transmit command.toBytes).run session.terminal.terminal = .ok response terminal →
      post (.ok response) (session.note terminal [.card command.toBytes (.ok response)]))
    (failed : ∀ error terminal,
      (Terminal.transmit command.toBytes).run session.terminal.terminal = .error error terminal →
      post (.error (.reader error)) (session.note terminal [.card command.toBytes (.error error)])) :
    Ensures (exchange command) session post := by
  change Ensures (noting _ _ _) session post
  unfold Ensures EStateM.run noting
  cases told : Terminal.transmit command.toBytes session.terminal.terminal with
  | ok response terminal => exact answered response terminal told
  | error error terminal => exact failed error terminal told

theorem ensures_exchange (command : Apdu.Command) (session : Session (Journaled τ))
    {post : Postcondition (Journaled τ) Apdu.Response}
    (h : ∀ answer terminal, post (answer.mapError .reader)
      (session.note terminal [.card command.toBytes answer])) :
    Ensures (exchange command) session post :=
  ensures_exchange_cases command session (fun response terminal _ => h (.ok response) terminal)
    fun error terminal _ => h (.error error) terminal

end Journal

end FareTerminal.Session
