import FareTerminal.Proofs.Session.Course

/-! What is said when the stored value is read or changed, and what comes of it. -/

namespace FareTerminal.Session

open Course

variable {τ : Type}

/-- What is said once the card has answered a change, and how the change ends: within a session there
is nothing more to say, outside of one the card's signature is checked. -/
inductive Concluding (kind : Card.CommandKind) :
    Phase → Except SessionError Apdu.Response → List Event → Except SessionError Unit → Prop
  | failed (phase : Phase) (error : SessionError) :
    Concluding kind phase (.error error) [] (.error error)
  | rejected (phase : Phase) {response : Apdu.Response} (refused : response.isSuccess = false) :
    Concluding kind phase (.ok response) [] (.error (rejection kind response))
  | owed {response : Apdu.Response} (success : response.isSuccess = true) :
    Concluding kind .opened (.ok response) [] (.ok ())
  | checked {response : Apdu.Response} (success : response.isSuccess = true)
    (answer : Except SessionError Bool) :
    Concluding kind .closed (.ok response) [.sam (.checkChange response.data) answer]
      (answer.bind fun accepted => if accepted then .ok () else .error .signatureRejected)

theorem Phase.eq_closed {phase : Phase} (active : phase.isTerminated = false)
    (outside : phase ≠ .opened) : phase = .closed := by
  cases phase with
  | closed => rfl
  | opened => contradiction
  | terminated outcome => cases active

theorem ensures_requireStoredValue (session : Session τ) {post : Postcondition τ Unit}
    (refused : ∀ fault, post (.error (.illegalState fault)) session)
    (granted : session.state.phase.isTerminated = false →
      session.identity.capabilities.storedValue = true → post (.ok ()) session) :
    Ensures requireStoredValue session post := by
  simp only [requireStoredValue, ensures_bind, ensures_get, andThen_ok, ensures_require]
  cases active : session.state.phase.isTerminated with
  | true => exact refused .terminated
  | false =>
    cases available : session.identity.capabilities.storedValue with
    | true => exact granted active available
    | false => exact refused .storedValueUnavailable

theorem ensures_fetchReading [Terminal τ] (operation : StoredValue.Operation)
    (session : Session (Journaled τ)) (active : session.state.phase.isTerminated = false)
    {post : Postcondition (Journaled τ) StoredValue.Reading}
    (failed : ∀ events outcome error terminal,
      Delivered (readingCommand session.identity.classByte operation) session.state.phase events
        outcome →
      post (.error error) { session.note terminal events with
        state := session.state.settle .storedValueGet
          (readReading operation (readingCommand session.identity.classByte operation)) outcome })
    (read : ∀ events response reading terminal,
      Delivered (readingCommand session.identity.classByte operation) session.state.phase events
        (.ok response) →
      response.isSuccess = true →
      readReading operation (readingCommand session.identity.classByte operation) response =
        .ok reading →
      post (.ok reading) (session.note terminal events)) :
    Ensures (fetchReading operation) session post := by
  rw [fetchReading, ensures_bind, ensures_get, andThen_ok]
  apply ensures_accepted _ _
    (readReading operation (readingCommand session.identity.classByte operation)) _ _ active
  · intro events error terminal delivered
    exact failed events _ error terminal delivered
  · intro events response terminal delivered _
    exact failed events _ _ terminal delivered
  · intro events response terminal delivered success
    rw [ensures_orAbortOpened, ensures_ofExcept]
    cases told : readReading operation (readingCommand session.identity.classByte operation)
      response with
    | ok reading => exact read events response reading terminal delivered success told
    | error error =>
      have h := failed events _ error terminal delivered
      by_cases opened : session.state.phase = .opened <;>
        simpa [State.settle, success, told, orFailedOpened, opened, note] using h

/-- A change that is refused leaves no trace. Any other uses up the reading, and the card owes its
signature if it has accepted the change within a session. -/
theorem ensures_changeValue [Terminal τ] (change : StoredValue.Change)
    (session : Session (Journaled τ)) {post : Postcondition (Journaled τ) Unit}
    (refused : ∀ error, post (.error error) session)
    (changed : ∀ reading events outcome more result terminal,
      session.state.phase.isTerminated = false →
      session.identity.capabilities.storedValue = true → session.signaturePending = false →
      usableReading session.settings.valuePolicy session.reading change = .ok reading →
      Changing session.identity.classByte change reading session.state.phase events outcome →
      Concluding (.storedValueChange change.action) session.state.phase outcome more result →
      post result { session.note terminal (events ++ more) with
        state := session.state.settle (.storedValueChange change.action) Except.ok outcome
        reading := none
        signaturePending := decide (session.state.phase = .opened) && isAccepted outcome }) :
    Ensures (changeValue change) session post := by
  rw [changeValue, ensures_bind]
  apply ensures_requireStoredValue
  · intro fault
    exact refused _
  intro active available
  simp only [andThen_ok, ensures_bind, ensures_get, ensures_require]
  cases free : session.signaturePending with
  | true => exact refused _
  | false =>
  simp only [Bool.not_false, if_true, andThen_ok, ensures_bind, ensures_ofExcept]
  cases usable : usableReading session.settings.valuePolicy session.reading change with
  | error error => exact refused error
  | ok reading =>
  simp only [andThen_ok, ensures_bind, ensures_modify, ensures_orAbortOpened]
  apply ensures_consult
  rintro (error | complement) terminal
  · have h := changed reading _ _ _ _ terminal active available free usable (.unprepared _ error)
      (.failed _ error)
    by_cases opened : session.state.phase = .opened <;>
      simpa [orFailedOpened, State.settle, opened, note, isAccepted, free] using h
  simp only [orFailedOpened, andThen_ok]
  apply ensures_accepted _ _ Except.ok
  · exact active
  · intro events error next delivered
    have h := changed reading _ _ _ _ next active available free usable
      (.prepared complement delivered) (.failed _ error)
    simpa [note, isAccepted, free] using h
  · intro events response next delivered rejected
    have h := changed reading _ _ _ _ next active available free usable
      (.prepared complement delivered) (.rejected _ rejected)
    simpa [note, isAccepted, free, rejected] using h
  · intro events response next delivered success
    simp only [ensures_bind, ensures_get, andThen_ok]
    split
    · rename_i opened
      have opened : session.state.phase = .opened := opened
      have owed : Concluding (.storedValueChange change.action) session.state.phase (.ok response)
          [] (.ok ()) := opened ▸ .owed success
      have h := changed reading _ _ _ _ next active available free usable
        (.prepared complement delivered) owed
      rw [State.settle_of_read _ _ success rfl] at h
      simpa [note, isAccepted, success, opened] using h
    · rename_i outside
      simp only [ensures_bind]
      apply ensures_consult
      intro answer last
      have closed : session.state.phase = .closed := Phase.eq_closed active outside
      have checked : Concluding (.storedValueChange change.action) .closed (.ok response) _ _ :=
        .checked success answer
      rw [← closed] at checked
      have h := changed reading _ _ _ _ last active available free usable
        (.prepared complement delivered) checked
      rw [State.settle_of_read _ _ success rfl] at h
      rcases answer with error | accepted
      · simpa [note, closed, free, Except.bind] using h
      · cases accepted <;> simpa [note, closed, free, Except.bind] using h

end FareTerminal.Session
