import FareTerminal.Proofs.Session.Ensures

/-! What the parts of a session say to the card and to the security module, and what comes of it.
Each relation lists the events of one part for every way in which it can end, and the part is shown
to end in one of them. -/

namespace FareTerminal.Session

variable {τ : Type}

/-- An exchange of an open session: the digest is continued with what went both ways. -/
inductive Digested (command : Apdu.Command) : List Event → Except SessionError Apdu.Response → Prop
  | unanswered (error : ReaderError) :
    Digested command [.card command.toBytes (.error error)] (.error (.reader error))
  | undigested (response : Apdu.Response) (error : SessionError) :
    Digested command
      [.card command.toBytes (.ok response),
        .sam (.updateDigest command.toBytes response.toBytes) (.error error)]
      (.error error)
  | digested (response : Apdu.Response) :
    Digested command
      [.card command.toBytes (.ok response),
        .sam (.updateDigest command.toBytes response.toBytes) (.ok ())]
      (.ok response)

/-- An exchange that is digested if the session is open. -/
inductive Delivered (command : Apdu.Command) :
    Phase → List Event → Except SessionError Apdu.Response → Prop
  | inside {events : List Event} {outcome : Except SessionError Apdu.Response}
    (digested : Digested command events outcome) : Delivered command .opened events outcome
  | outside (answer : Except ReaderError Apdu.Response) :
    Delivered command .closed [.card command.toBytes answer] (answer.mapError .reader)

/-- What is said until the card has answered the opening. -/
def openingEvents (identity : Card.Identity) (level : AccessLevel) (address : RecordAddress)
    (challenge : Bytes) (answer : Except ReaderError Apdu.Response) : List Event :=
  [.sam (.selectDiversifier identity.serial) (.ok ()), .sam .getChallenge (.ok challenge),
    .card (openingCommand identity level address challenge).toBytes answer]

/-- What leads to an open session, or fails on the way there. -/
inductive Negotiation (identity : Card.Identity) (settings : Settings) (level : AccessLevel)
    (address : RecordAddress) : List Event → Except SessionError OpenResponse → Prop
  | undiversified (error : SessionError) :
    Negotiation identity settings level address
      [.sam (.selectDiversifier identity.serial) (.error error)] (.error error)
  | unchallenged (error : SessionError) :
    Negotiation identity settings level address
      [.sam (.selectDiversifier identity.serial) (.ok ()), .sam .getChallenge (.error error)]
      (.error error)
  | unanswered (challenge : Bytes) (error : ReaderError) :
    Negotiation identity settings level address
      (openingEvents identity level address challenge (.error error)) (.error (.reader error))
  | refused (challenge : Bytes) (response : Apdu.Response) (error : SessionError)
    (read : readOpening identity settings.versionPolicy response = .error error) :
    Negotiation identity settings level address
      (openingEvents identity level address challenge (.ok response)) (.error error)
  | begun (challenge : Bytes) (response : Apdu.Response) (opening : OpenResponse)
    (answer : Except SessionError Unit)
    (read : readOpening identity settings.versionPolicy response = .ok opening) :
    Negotiation identity settings level address
      (openingEvents identity level address challenge (.ok response) ++
        [.sam (.beginDigest response.data (sessionKif settings level opening) opening.kvc level)
          answer])
      (answer.map fun _ => opening)

/-- A change that is prepared and sent to the card. -/
inductive Changing (cla : UInt8) (change : StoredValue.Change) (reading : StoredValue.Reading) :
    Phase → List Event → Except SessionError Apdu.Response → Prop
  | unprepared (phase : Phase) (error : SessionError) :
    Changing cla change reading phase
      [.sam (.prepareChange change.action reading.command reading.response
        (change.data reading.kvc)) (.error error)]
      (.error error)
  | prepared {phase : Phase} (complement : Bytes) {events : List Event}
    {outcome : Except SessionError Apdu.Response}
    (delivered : Delivered (changeCommand cla change reading.kvc complement) phase events outcome) :
    Changing cla change reading phase
      (.sam (.prepareChange change.action reading.command reading.response
        (change.data reading.kvc)) (.ok complement) :: events)
      outcome

/-- What is sent to ratify a session; its answer is of no account. -/
inductive Ratifying (cla : UInt8) : Ratification → List Event → Prop
  | implicit : Ratifying cla .implicit []
  | explicit (answer : Except ReaderError Apdu.Response) :
    Ratifying cla .explicit [.card (Apdu.Command.ratification cla).toBytes answer]

/-- The check of the signature that the card owes for a change, if it owes one. -/
inductive Checking (postponed : List Bytes) : Bool → List Event → Except SessionError Unit → Prop
  | nothingOwed : Checking postponed false [] (.ok ())
  | missing (none : postponed = []) :
    Checking postponed true [] (.error (.malformed .signatureMissing))
  | unanswered {signature : Bytes} (first : postponed.head? = some signature)
    (error : SessionError) :
    Checking postponed true [.sam (.checkChange signature) (.error error)] (.error error)
  | rejected {signature : Bytes} (first : postponed.head? = some signature) :
    Checking postponed true [.sam (.checkChange signature) (.ok false)] (.error .signatureRejected)
  | accepted {signature : Bytes} (first : postponed.head? = some signature) :
    Checking postponed true [.sam (.checkChange signature) (.ok true)] (.ok ())

/-- The check of the card's signature of the session, and of the one it owes. -/
inductive Verifying (closing : CloseResponse) (pending : Bool) :
    List Event → Except SessionError Unit → Prop
  | unanswered (error : SessionError) :
    Verifying closing pending [.sam (.verifyMac closing.signature) (.error error)] (.error error)
  | rejected :
    Verifying closing pending [.sam (.verifyMac closing.signature) (.ok false)]
      (.error .macNotVerified)
  | verified {events : List Event} {outcome : Except SessionError Unit}
    (checking : Checking closing.postponed pending events outcome) :
    Verifying closing pending (.sam (.verifyMac closing.signature) (.ok true) :: events) outcome

/-- What is said until the card has answered the closing. -/
def closingEvents (cla : UInt8) (ratification : Ratification) (mac : Bytes)
    (answer : Except ReaderError Apdu.Response) : List Event :=
  [.sam .finalizeDigest (.ok mac),
    .card (Apdu.Command.closeSession cla (ratification == .explicit) mac).toBytes answer]

/-- The end of a session. -/
inductive Closing (cla : UInt8) (ratification : Ratification) (pending : Bool) :
    List Event → Except SessionError Unit → Prop
  | unsigned (error : SessionError) :
    Closing cla ratification pending [.sam .finalizeDigest (.error error)] (.error error)
  | unanswered (mac : Bytes) (error : ReaderError) :
    Closing cla ratification pending (closingEvents cla ratification mac (.error error))
      (.error (.reader error))
  | refused (mac : Bytes) (response : Apdu.Response) (error : SessionError)
    (read : readClosing response = .error error) :
    Closing cla ratification pending (closingEvents cla ratification mac (.ok response))
      (.error error)
  | answered (mac : Bytes) (response : Apdu.Response) {closing : CloseResponse}
    {ratifying verifying : List Event} {outcome : Except SessionError Unit}
    (read : readClosing response = .ok closing) (ratified : Ratifying cla ratification ratifying)
    (verified : Verifying closing pending verifying outcome) :
    Closing cla ratification pending
      (closingEvents cla ratification mac (.ok response) ++ ratifying ++ verifying) outcome

/-- What an exchange makes of the state of an open session: a rejection is noted, and a failure of
the exchange or a response that cannot be read ends the session. -/
def State.settle {α : Type} (state : State) (kind : Card.CommandKind)
    (read : Apdu.Response → Except SessionError α) (outcome : Except SessionError Apdu.Response) :
    State :=
  if state.phase = .opened then
    match outcome with
    | .error error => state.fail error
    | .ok response =>
      if response.isSuccess then
        match read response with
        | .ok _ => state
        | .error error => state.fail error
      else state.reject (rejection kind response)
  else state

theorem State.settle_of_closed {α : Type} {state : State} (closed : state.phase = .closed)
    (kind : Card.CommandKind) (read : Apdu.Response → Except SessionError α)
    (outcome : Except SessionError Apdu.Response) : state.settle kind read outcome = state := by
  unfold settle
  rw [if_neg (by simp [closed])]

theorem State.settle_of_read {α : Type} (state : State) (kind : Card.CommandKind)
    {read : Apdu.Response → Except SessionError α} {response : Apdu.Response} {a : α}
    (success : response.isSuccess = true) (h : read response = .ok a) :
    state.settle kind read (.ok response) = state := by
  simp [settle, success, h]

section Running

variable [Terminal τ]

theorem ensures_exchangeDigested (command : Apdu.Command) (session : Session (Journaled τ))
    {post : Postcondition (Journaled τ) Apdu.Response}
    (h : ∀ events outcome terminal, Digested command events outcome →
      post outcome (session.note terminal events)) :
    Ensures (exchangeDigested command) session post := by
  rw [exchangeDigested, ensures_bind]
  apply ensures_exchange
  rintro (error | response) terminal
  · exact h _ _ _ (.unanswered error)
  · change Ensures (consult _ >>= fun _ => pure response) _ post
    rw [ensures_bind]
    apply ensures_consult
    rintro (error | ⟨⟩) next
    · rw [note_note]
      exact h _ _ _ (.undigested response error)
    · rw [note_note]
      exact h _ _ _ (.digested response)

theorem ensures_negotiate (level : AccessLevel) (address : RecordAddress)
    (session : Session (Journaled τ)) {post : Postcondition (Journaled τ) OpenResponse}
    (h : ∀ events outcome terminal,
      Negotiation session.identity session.settings level address events outcome →
      post outcome (session.note terminal events)) :
    Ensures (negotiate level address) session post := by
  simp only [negotiate, ensures_bind, ensures_get, andThen_ok]
  apply ensures_consult
  rintro (error | ⟨⟩) t₁
  · exact h _ _ _ (.undiversified error)
  simp only [andThen_ok, ensures_bind]
  apply ensures_consult
  rintro (error | challenge) t₂
  · rw [note_note]
    exact h _ _ _ (.unchallenged error)
  simp only [andThen_ok, ensures_bind, note_note]
  apply ensures_exchange
  rintro (error | response) t₃
  · rw [note_note]
    exact h _ _ _ (.unanswered challenge error)
  simp only [mapError_ok, andThen_ok, ensures_bind, ensures_ofExcept, note_note]
  cases read : readOpening session.identity session.settings.versionPolicy response with
  | error error => exact h _ _ _ (.refused challenge response error read)
  | ok opening =>
    simp only [andThen_ok, ensures_bind]
    apply ensures_consult
    rintro (error | ⟨⟩) t₄
    · rw [note_note]
      exact h _ _ _ (.begun challenge response opening (.error error) read)
    · rw [note_note]
      exact h _ _ _ (.begun challenge response opening (.ok ()) read)

theorem ensures_exchangeValue (command : Apdu.Command) (session : Session (Journaled τ))
    (active : session.state.phase.isTerminated = false)
    {post : Postcondition (Journaled τ) Apdu.Response}
    (h : ∀ events outcome terminal, Delivered command session.state.phase events outcome →
      orFailedOpened post outcome (session.note terminal events)) :
    Ensures (exchangeValue command) session post := by
  simp only [exchangeValue, ensures_orAbortOpened, ensures_bind, ensures_get, andThen_ok]
  cases phase : session.state.phase with
  | terminated outcome => simp [phase, Phase.isTerminated] at active
  | opened =>
    rw [if_pos rfl]
    apply ensures_exchangeDigested
    intro events outcome terminal digested
    exact h _ _ _ (phase ▸ .inside digested)
  | closed =>
    rw [if_neg (by simp)]
    apply ensures_exchange
    intro answer terminal
    exact h _ _ _ (phase ▸ .outside answer)

/-- A command about the stored value goes on only if the card accepts it. -/
theorem ensures_accepted {α β : Type} (command : Apdu.Command) (kind : Card.CommandKind)
    (read : Apdu.Response → Except SessionError β)
    (next : Apdu.Response → SessionM (Journaled τ) α) (session : Session (Journaled τ))
    (active : session.state.phase.isTerminated = false) {post : Postcondition (Journaled τ) α}
    (failed : ∀ events error terminal,
      Delivered command session.state.phase events (.error error) →
      post (.error error) { session.note terminal events with
        state := session.state.settle kind read (.error error) })
    (rejected : ∀ events response terminal,
      Delivered command session.state.phase events (.ok response) → response.isSuccess = false →
      post (.error (rejection kind response)) { session.note terminal events with
        state := session.state.settle kind read (.ok response) })
    (accepted : ∀ events response terminal,
      Delivered command session.state.phase events (.ok response) → response.isSuccess = true →
      Ensures (next response) (session.note terminal events) post) :
    Ensures (exchangeValue command >>= fun response =>
      requireAccepted kind response >>= fun _ => next response) session post := by
  rw [ensures_bind]
  apply ensures_exchangeValue command session active
  rintro events (error | response) terminal delivered
  · have h := failed events error terminal delivered
    simp only [orFailedOpened, andThen_error]
    by_cases opened : session.state.phase = .opened <;> simpa [opened, note, State.settle] using h
  · simp only [orFailedOpened, andThen_ok, ensures_bind, requireAccepted]
    cases success : response.isSuccess with
    | true => exact accepted events response terminal delivered success
    | false =>
      have h := rejected events response terminal delivered success
      by_cases opened : session.state.phase = .opened <;>
        simpa [ensures_bind, opened, success, note, State.settle, State.reject] using h

theorem ensures_ratify (ratification : Ratification) (session : Session (Journaled τ))
    {post : Postcondition (Journaled τ) Unit}
    (h : ∀ events terminal, Ratifying session.identity.classByte ratification events →
      post (.ok ()) (session.note terminal events)) :
    Ensures (ratify ratification) session post := by
  cases ratification with
  | implicit =>
    have h := h [] session.terminal.terminal .implicit
    simpa [ratify, note] using h
  | explicit =>
    simp only [ratify, if_pos, ensures_tryCatch, ensures_bind, ensures_get, andThen_ok]
    apply ensures_exchange
    rintro (error | response) terminal
    · exact h _ terminal (.explicit (.error error))
    · exact h _ terminal (.explicit (.ok response))

theorem ensures_checkOwed (postponed : List Bytes) (session : Session (Journaled τ))
    {post : Postcondition (Journaled τ) Unit}
    (h : ∀ events outcome terminal, Checking postponed session.signaturePending events outcome →
      post outcome { session.note terminal events with signaturePending := false }) :
    Ensures (checkOwed postponed) session post := by
  simp only [checkOwed, ensures_bind, ensures_get, andThen_ok]
  cases pending : session.signaturePending with
  | false =>
    have same : { session.note session.terminal.terminal [] with signaturePending := false } =
        session := by
      rw [← pending]
      simp [note]
    have h := h [] (.ok ()) session.terminal.terminal (pending ▸ .nothingOwed)
    rw [same] at h
    simpa using h
  | true =>
    rw [pending] at h
    simp only [if_true, ensures_bind, ensures_modify, andThen_ok]
    cases postponed with
    | nil => simpa [checkPostponed, note] using h [] _ session.terminal.terminal (.missing rfl)
    | cons signature rest =>
      simp only [checkPostponed, ensures_bind]
      apply ensures_consult
      rintro (error | accepted) terminal
      · exact h _ _ _ (.unanswered rfl error)
      · rw [andThen_ok, ensures_require]
        cases accepted with
        | true => exact h _ _ _ (.accepted rfl)
        | false => exact h _ _ _ (.rejected rfl)

/-- The failure that was noted during the session, if any. -/
def State.conclusion (state : State) : Except SessionError Unit :=
  match state.lastError with
  | some error => .error error
  | none => .ok ()

theorem ensures_requireFaultless {τ : Type} (session : Session τ) (post : Postcondition τ Unit) :
    Ensures requireFaultless session post ↔ post session.state.conclusion session := by
  simp only [requireFaultless, ensures_bind, ensures_get, andThen_ok, State.conclusion]
  cases session.state.lastError <;> simp

theorem ensures_concludeSession (ratification : Ratification) (session : Session (Journaled τ))
    {post : Postcondition (Journaled τ) Unit}
    (h : ∀ events outcome terminal pending,
      Closing session.identity.classByte ratification session.signaturePending events outcome →
      post (outcome.bind fun _ => session.state.conclusion)
        { session.note terminal events with signaturePending := pending }) :
    Ensures (concludeSession ratification) session post := by
  simp only [concludeSession, ensures_bind, ensures_get, andThen_ok]
  apply ensures_consult
  rintro (error | mac) t₁
  · exact h _ _ _ _ (.unsigned error)
  simp only [andThen_ok, ensures_bind]
  apply ensures_exchange
  rintro (error | response) t₂
  · rw [note_note]
    exact h _ _ _ _ (.unanswered mac error)
  simp only [mapError_ok, andThen_ok, ensures_bind, ensures_ofExcept, note_note]
  cases read : readClosing response with
  | error error => exact h _ _ _ _ (.refused mac response error read)
  | ok closing =>
  simp only [andThen_ok, ensures_bind]
  apply ensures_ratify
  intro ratifying t₃ ratified
  simp only [andThen_ok, ensures_bind]
  apply ensures_consult
  rintro (error | verified) t₄
  · simp only [note_note]
    exact h _ _ _ _ (.answered mac response read ratified (.unanswered error))
  rw [andThen_ok, ensures_bind, ensures_require]
  cases verified with
  | false =>
    simp only [note_note]
    exact h _ _ _ _ (.answered mac response read ratified .rejected)
  | true =>
    simp only [note_note, if_true, andThen_ok, ensures_bind]
    apply ensures_checkOwed
    rintro checking (error | _) t₅ checked
    · simpa [note, closingEvents, Except.bind] using
        h _ _ t₅ false (.answered mac response read ratified (.verified checked))
    · rw [andThen_ok, ensures_requireFaultless]
      simpa [note, closingEvents, Except.bind] using
        h _ _ t₅ false (.answered mac response read ratified (.verified checked))

end Running

end FareTerminal.Session
