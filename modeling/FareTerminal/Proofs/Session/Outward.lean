import FareTerminal.Proofs.Session.Overflow

/-! What a session does once it has made its checks. If that fails, it is for reasons from outside:
what the card says, what the security module says, or want of budget; a refusal of the session itself
is not among them. This is shown in one walk over the parts of the operations. -/

namespace FareTerminal

/-- Whether a failure is a refusal of the session itself. A lack of budget is not among them: part of
the batch may have been sent when it is met. -/
def SessionError.isLocal : SessionError → Bool
  | illegalState _ | fileAddress .. | readingMissing _ | storedValueRefused _ => true
  | unauthorizedVersion _ | bufferOverflow _ | commandRejected .. | macNotVerified | closeRejected _
  | signatureRejected | samRejected .. | malformed _ | reader _ => false

namespace Session

variable {τ α β : Type}

theorem IsReported.isLocal_eq {error : SessionError} (h : IsReported error) :
    error.isLocal = false := by
  cases h <;> rfl

/-- The failure that is noted, if any, is no refusal. -/
def State.IsClean (state : State) : Prop :=
  ∀ error, state.lastError = some error → error.isLocal = false

namespace State.IsClean

variable {state : State} {error : SessionError}

theorem noteError (clean : state.IsClean) (outer : error.isLocal = false) :
    (state.noteError error).IsClean := by
  intro failure noted
  obtain kept | ⟨-, first⟩ := Option.or_eq_some_iff.mp noted
  · exact clean failure kept
  · cases first
    exact outer

theorem fail (clean : state.IsClean) (outer : error.isLocal = false) :
    (state.fail error).IsClean := clean.noteError outer

theorem reject (clean : state.IsClean) (outer : error.isLocal = false) :
    (state.reject error).IsClean := by
  unfold State.reject
  split
  · exact clean.noteError outer
  · exact clean

end State.IsClean

/-- The computation did not fail by a refusal, and none is noted. -/
def Unrefused (outcome : Except SessionError α) (after : Session τ) : Prop :=
  after.state.IsClean ∧ ∀ error, outcome = .error error → error.isLocal = false

/-- From a clean state on, the computation does not refuse. -/
def Outward (work : SessionM τ α) : Prop :=
  ∀ session, session.state.IsClean → Ensures work session Unrefused

theorem outward_pure (a : α) : Outward (pure a : SessionM τ α) := fun _ clean => ⟨clean, nofun⟩

theorem outward_throw {error : SessionError} (outer : error.isLocal = false) :
    Outward (throw error : SessionM τ α) := by
  intro session clean
  exact ⟨clean, fun _ same => Except.error.inj same ▸ outer⟩

theorem outward_ofExcept {outcome : Except SessionError α}
    (outer : ∀ error, outcome = .error error → error.isLocal = false) :
    Outward (MonadExcept.ofExcept outcome : SessionM τ α) := by
  intro session clean
  rw [ensures_ofExcept]
  exact ⟨clean, outer⟩

theorem outward_require (condition : Bool) {error : SessionError}
    (outer : error.isLocal = false) : Outward (require condition error : SessionM τ Unit) := by
  cases condition with
  | true => exact outward_pure _
  | false => exact outward_throw outer

theorem outward_modify {change : Session τ → Session τ}
    (aside : ∀ session, (change session).state = session.state) : Outward (modify change) := by
  intro session clean
  exact ⟨(aside session).symm ▸ clean, nofun⟩

theorem outward_modifyState {change : State → State}
    (kept : ∀ state, state.IsClean → (change state).IsClean) :
    Outward (modifyState change : SessionM τ Unit) :=
  fun session clean => ⟨kept session.state clean, nofun⟩

namespace Outward

theorem bind {work : SessionM τ α} {next : α → SessionM τ β} (h : Outward work)
    (hn : ∀ a, Outward (next a)) : Outward (work >>= next) := by
  intro session clean
  rw [ensures_bind]
  refine (h session clean).imp ?_
  rintro (error | a) between ⟨clean, outer⟩
  · exact ⟨clean, fun _ same => outer _ (congrArg _ (Except.error.inj same))⟩
  · exact hn a between clean

theorem get_bind {next : Session τ → SessionM τ β} (hn : ∀ session, Outward (next session)) :
    Outward (get >>= next) := fun session clean => hn session session clean

theorem tryCatch {work : SessionM τ α} {handler : SessionError → SessionM τ α} (h : Outward work)
    (hh : ∀ error, error.isLocal = false → Outward (handler error)) :
    Outward (MonadExcept.tryCatch work handler) := by
  intro session clean
  rw [ensures_tryCatch]
  refine (h session clean).imp ?_
  rintro (error | a) between ⟨clean, outer⟩
  · exact hh error (outer error rfl) between clean
  · exact ⟨clean, nofun⟩

theorem orAbort {work : SessionM τ α} (h : Outward work) : Outward (orAbort work) :=
  h.tryCatch fun _ outer =>
    (outward_modifyState fun _ clean => clean.fail outer).bind fun _ => outward_throw outer

theorem orAbortOpened {work : SessionM τ α} (h : Outward work) : Outward (orAbortOpened work) := by
  refine h.tryCatch fun error outer => .get_bind fun session => ?_
  split
  · exact (outward_modifyState fun _ clean => clean.fail outer).bind fun _ => outward_throw outer
  · exact outward_throw outer

end Outward

theorem outward_report (results : List CommandResult) :
    Outward (report results : SessionM τ Unit) := outward_modify fun _ => rfl

theorem outward_charge (command : FileCommand) : Outward (charge command : SessionM τ Unit) :=
  fun session clean => ensures_charge command session
    (fun _ => ⟨clean, fun _ same => Except.error.inj same ▸ rfl⟩) fun _ _ => ⟨clean, nofun⟩

theorem outward_requireAccepted (kind : Card.CommandKind) (response : Apdu.Response) :
    Outward (requireAccepted kind response : SessionM τ Unit) := by
  unfold requireAccepted
  split
  · exact outward_pure _
  · exact (outward_modifyState fun _ clean => clean.reject rfl).bind fun _ => outward_throw rfl

theorem outward_requireFaultless : Outward (requireFaultless : SessionM τ Unit) := by
  intro session clean
  rw [ensures_requireFaultless, State.conclusion]
  cases noted : session.state.lastError with
  | none =>
    refine ⟨clean, fun _ same => ?_⟩
    cases same
  | some error => exact ⟨clean, fun _ same => Except.error.inj same ▸ clean error noted⟩

theorem isLocal_of_readOpening {identity : Card.Identity} {policy : VersionPolicy}
    {response : Apdu.Response} {error : SessionError}
    (failed : readOpening identity policy response = .error error) : error.isLocal = false := by
  unfold readOpening at failed
  split at failed
  · split at failed
    · split at failed
      · cases failed
      · cases failed
        rfl
    · cases failed
      rfl
  · cases failed
    rfl

theorem isLocal_of_readClosing {response : Apdu.Response} {error : SessionError}
    (failed : readClosing response = .error error) : error.isLocal = false := by
  unfold readClosing at failed
  split at failed
  · split at failed
    · cases failed
      rfl
    · dsimp only at failed
      split at failed
      · cases failed
      · cases failed
        rfl
  · cases failed
    rfl

theorem isLocal_of_readReading {operation : StoredValue.Operation} {command : Apdu.Command}
    {response : Apdu.Response} {error : SessionError}
    (failed : readReading operation command response = .error error) : error.isLocal = false := by
  unfold readReading at failed
  split at failed
  · cases failed
  · cases failed
    rfl

namespace Reporting

variable [Terminal τ] (reporting : Reporting (Journaled τ))

include reporting

theorem outward_consult (call : Sam.Call) :
    Outward (consult call : SessionM (Journaled τ) call.Answer) := by
  intro session clean
  have kept : Ensures (consult call) session fun _ after => after.state.IsClean :=
    ensures_consult call session fun _ _ => clean
  exact (kept.and_raises (reporting.raises_consult call)).imp fun _ _ ⟨clean, reported⟩ =>
    ⟨clean, fun error failed => (reported error failed).isLocal_eq⟩

theorem outward_exchange (command : Apdu.Command) :
    Outward (exchange command : SessionM (Journaled τ) Apdu.Response) := by
  intro session clean
  have kept : Ensures (exchange command) session fun _ after => after.state.IsClean :=
    ensures_exchange command session fun _ _ => clean
  exact (kept.and_raises (reporting.raises_exchange command)).imp fun _ _ ⟨clean, reported⟩ =>
    ⟨clean, fun error failed => (reported error failed).isLocal_eq⟩

theorem outward_exchangeDigested (command : Apdu.Command) :
    Outward (exchangeDigested command : SessionM (Journaled τ) Apdu.Response) :=
  (reporting.outward_exchange command).bind fun _ =>
    (reporting.outward_consult _).bind fun _ => outward_pure _

theorem outward_negotiate (level : AccessLevel) (address : RecordAddress) :
    Outward (negotiate level address : SessionM (Journaled τ) OpenResponse) :=
  .get_bind fun _ => (reporting.outward_consult _).bind fun _ =>
    (reporting.outward_consult _).bind fun _ => (reporting.outward_exchange _).bind fun _ =>
    (outward_ofExcept fun _ => isLocal_of_readOpening).bind fun _ =>
    (reporting.outward_consult _).bind fun _ => outward_pure _

theorem outward_carryOut (command : FileCommand) :
    Outward (carryOut command : SessionM (Journaled τ) CommandResult) := by
  refine .get_bind fun _ => (reporting.outward_exchangeDigested _).bind fun response => ?_
  split
  · exact outward_ofExcept fun _ failed => (isReported_of_decode failed).isLocal_eq
  · exact (outward_modifyState fun _ clean => clean.reject rfl).bind fun _ => outward_pure _

theorem outward_sendAll (commands : List FileCommand) :
    Outward (sendAll commands : SessionM (Journaled τ) Unit) := by
  induction commands with
  | nil => exact outward_pure _
  | cons command rest ih =>
    refine (outward_charge command).bind fun _ => (reporting.outward_carryOut command).orAbort.bind
      fun _ => (outward_report _).bind fun _ => .get_bind fun _ => ?_
    split
    · exact outward_report _
    · exact ih

theorem outward_finish (commands : List FileCommand) :
    Outward (finish commands : SessionM (Journaled τ) (List CommandResult)) :=
  (reporting.outward_sendAll commands).bind fun _ => .get_bind fun _ => outward_pure _

theorem outward_ratify (ratification : Ratification) :
    Outward (ratify ratification : SessionM (Journaled τ) Unit) := by
  unfold ratify
  split
  · refine .tryCatch ?_ fun _ _ => outward_pure _
    exact .get_bind fun _ => (reporting.outward_exchange _).bind fun _ => outward_pure _
  · exact outward_pure _

theorem outward_checkOwed (postponed : List Bytes) :
    Outward (checkOwed postponed : SessionM (Journaled τ) Unit) := by
  refine .get_bind fun _ => ?_
  split
  · refine (outward_modify (by intros; rfl)).bind fun _ => ?_
    cases postponed with
    | nil => exact outward_throw rfl
    | cons signature rest =>
      exact (reporting.outward_consult _).bind fun _ => outward_require _ rfl
  · exact outward_pure _

theorem outward_concludeSession (ratification : Ratification) :
    Outward (concludeSession ratification : SessionM (Journaled τ) Unit) :=
  .get_bind fun _ => (reporting.outward_consult _).bind fun _ =>
    (reporting.outward_exchange _).bind fun _ =>
    (outward_ofExcept fun _ => isLocal_of_readClosing).bind fun _ =>
    (reporting.outward_ratify _).bind fun _ => (reporting.outward_consult _).bind fun _ =>
    (outward_require _ rfl).bind fun _ => (reporting.outward_checkOwed _).bind fun _ =>
    outward_requireFaultless

theorem outward_exchangeValue (command : Apdu.Command) :
    Outward (exchangeValue command : SessionM (Journaled τ) Apdu.Response) := by
  refine .orAbortOpened (.get_bind fun _ => ?_)
  split
  · exact reporting.outward_exchangeDigested _
  · exact reporting.outward_exchange _

theorem outward_fetchReading (operation : StoredValue.Operation) :
    Outward (fetchReading operation : SessionM (Journaled τ) StoredValue.Reading) :=
  .get_bind fun _ => (reporting.outward_exchangeValue _).bind fun _ =>
    (outward_requireAccepted _ _).bind fun _ =>
    .orAbortOpened (outward_ofExcept fun _ => isLocal_of_readReading)

end Reporting

end Session

end FareTerminal
