import FareTerminal.Proofs.Session.ValueDialogue

/-! Every operation of a session takes its course through steps. -/

namespace FareTerminal.Session

open Course

variable {τ : Type} {asked : FileCommand → Prop}

theorem checkAddress_of_checkAddresses {commands : List FileCommand}
    (h : checkAddresses commands = .ok ()) : ∀ command ∈ commands, command.checkAddress = .ok () := by
  induction commands with
  | nil => nofun
  | cons command rest ih =>
    cases first : command.checkAddress with
    | error error => simp [checkAddresses, first, bind, Except.bind] at h
    | ok _ =>
      simp only [checkAddresses, first, bind, Except.bind] at h
      simpa [first] using ih h

theorem checkAddresses_append (commands more : List FileCommand) :
    checkAddresses (commands ++ more) = .ok () ↔
      checkAddresses commands = .ok () ∧ checkAddresses more = .ok () := by
  induction commands with
  | nil => simp [checkAddresses]
  | cons command rest ih =>
    simp only [List.cons_append, checkAddresses, bind, Except.bind]
    cases command.checkAddress with
    | error error => simp
    | ok _ => exact ih

theorem ensures_charge (command : FileCommand) (session : Session τ) {post : Postcondition τ Unit}
    (overflow : ∀ overflow, post (.error (.bufferOverflow overflow)) session)
    (charged : ∀ budget,
      Charged command session.identity.classByte session.state.budget budget →
      post (.ok ()) { session with state := { session.state with budget } }) :
    Ensures (charge command) session post := by
  unfold charge
  unfold Charged at charged
  cases modifying : command.isModifying with
  | false => simpa [modifying] using charged
  | true =>
    simp only [modifying, if_true] at charged ⊢
    simp only [ensures_bind, ensures_get, andThen_ok]
    split
    next budget fits => exact charged budget fits
    next refusal _ => exact overflow refusal

/-- The result that a command has in its batch. -/
def commandResult (command : FileCommand) :
    Except SessionError Apdu.Response → Except SessionError CommandResult
  | .error error => .error error
  | .ok response =>
    if response.isSuccess then command.decode response.data else .ok (.rejected response.status)

theorem phase_settle_of_commandResult {command : FileCommand}
    {outcome : Except SessionError Apdu.Response} {result : CommandResult} {state : State}
    (h : commandResult command outcome = .ok result) (opened : state.phase = .opened) :
    (state.settle command.kind (command.decode ·.data) outcome).phase = .opened := by
  unfold State.settle
  rw [if_pos opened]
  cases outcome with
  | error error => cases h
  | ok response =>
    simp only [commandResult] at h
    split at h
    · rename_i success
      simp [success, h, opened]
    · rename_i failure
      simp [failure, opened]

theorem ensures_carryOut [Terminal τ] (command : FileCommand) (session : Session (Journaled τ))
    (opened : session.state.phase = .opened) {post : Postcondition (Journaled τ) CommandResult}
    (h : ∀ events outcome terminal,
      Digested (command.toCommand session.identity.classByte) events outcome →
      post (commandResult command outcome) { session.note terminal events with
        state := session.state.settle command.kind (command.decode ·.data) outcome }) :
    Ensures (orAbort (carryOut command)) session post := by
  simp only [ensures_orAbort, carryOut, ensures_bind, ensures_get, andThen_ok]
  apply ensures_exchangeDigested
  intro events outcome terminal digested
  have h := h events outcome terminal digested
  unfold State.settle at h
  rw [if_pos opened] at h
  cases outcome with
  | error error => exact h
  | ok response =>
    rw [andThen_ok]
    cases success : response.isSuccess with
    | false => simpa [success, commandResult, ensures_map, Except.map, orFailed, note] using h
    | true =>
      simp only [success, if_true, commandResult] at h ⊢
      rw [ensures_ofExcept]
      cases decoded : command.decode response.data <;> simpa [decoded, orFailed, note] using h

/-- What is left of a session by a command of a batch that was charged and carried out, before its
result is reported. -/
def CarriedOut [Terminal τ] (command : FileCommand) (session left : Session (Journaled τ))
    (outcome : Except SessionError CommandResult) : Prop :=
  ∃ budget events answer terminal,
    (orAbort (carryOut command)).run { session with state := { session.state with budget } } =
      ending outcome left ∧
    Charged command session.identity.classByte session.state.budget budget ∧
    Digested (command.toCommand session.identity.classByte) events answer ∧
    outcome = commandResult command answer ∧
    left = { session.note terminal events with
      state := { session.state with budget }.settle command.kind (command.decode ·.data) answer }

theorem carriedOut_of_charged [Terminal τ] {command : FileCommand} {session : Session (Journaled τ)}
    (opened : session.state.phase = .opened) {budget : Card.Budget}
    (charged : Charged command session.identity.classByte session.state.budget budget) :
    Ensures (orAbort (carryOut command)) { session with state := { session.state with budget } }
      fun outcome left => CarriedOut command session left outcome ∧
        ∀ result, outcome = .ok result → left.state.phase = .opened := by
  let paid : Session (Journaled τ) := { session with state := { session.state with budget } }
  have carried : Ensures (orAbort (carryOut command)) paid fun outcome left =>
      ∃ events answer terminal, Digested (command.toCommand session.identity.classByte) events answer ∧
        outcome = commandResult command answer ∧ left = { paid.note terminal events with
          state := paid.state.settle command.kind (command.decode ·.data) answer } :=
    ensures_carryOut command paid opened fun events answer terminal digested =>
      ⟨events, answer, terminal, digested, rfl, rfl⟩
  refine (carried.and (ensures_run _ _)).imp ?_
  rintro outcome left ⟨⟨events, answer, terminal, digested, told, rfl⟩, ends⟩
  refine ⟨⟨budget, events, answer, terminal, ends, charged, digested, told, rfl⟩, ?_⟩
  rintro result rfl
  exact phase_settle_of_commandResult told.symm opened

/-- The first of the commands that are sent finds no room in the budget, or it fails, or ends the batch,
or the others are sent behind it. -/
theorem ensures_sendAll_cons [Terminal τ] {command : FileCommand} {rest : List FileCommand}
    {session : Session (Journaled τ)} (opened : session.state.phase = .opened)
    {post : Postcondition (Journaled τ) Unit}
    (overBudget : ∀ overflow, post (.error (.bufferOverflow overflow)) session)
    (failed : ∀ error left, CarriedOut command session left (.error error) →
      post (.error error) left)
    (stopped : ∀ result left, CarriedOut command session left (.ok result) →
      left.state.phase = .opened → stopsBatch left.settings.rejectionPolicy result = true →
      post (.ok ()) { left with
        lastBatch := left.lastBatch ++ [result] ++ rest.map fun _ => .skipped })
    (goesOn : ∀ result left, CarriedOut command session left (.ok result) →
      left.state.phase = .opened → stopsBatch left.settings.rejectionPolicy result = false →
      Ensures (sendAll rest) { left with lastBatch := left.lastBatch ++ [result] } post) :
    Ensures (sendAll (command :: rest)) session post := by
  rw [sendAll, ensures_bind]
  apply ensures_charge
  · exact overBudget
  intro budget charged
  rw [andThen_ok, ensures_bind]
  refine (carriedOut_of_charged opened charged).imp ?_
  rintro (error | result) left ⟨carried, still⟩
  · exact failed error left carried
  · have still := still result rfl
    simp only [andThen_ok, report, ensures_bind, ensures_modify, ensures_get]
    split
    · exact stopped result left carried still ‹_›
    · exact goesOn result left carried still (Bool.eq_false_iff.mpr ‹_›)

theorem steps_sendAll [Terminal τ] (commands : List FileCommand) (session : Session (Journaled τ))
    (members : ∀ command ∈ commands, asked command)
    (addressed : ∀ command ∈ commands, command.checkAddress = .ok ())
    (opened : session.state.phase = .opened) {c : Course} (steps : Steps asked c session.course) :
    Ensures (sendAll commands) session fun _ session => Steps asked c session.course := by
  induction commands generalizing session with
  | nil => exact steps
  | cons command rest ih =>
    have step {left : Session (Journaled τ)} {outcome : Except SessionError CommandResult}
        (carried : CarriedOut command session left outcome) : Steps asked c left.course := by
      obtain ⟨budget, events, answer, terminal, -, charged, digested, -, rfl⟩ := carried
      exact steps.tail (.commandSent opened (members command (by simp)) (addressed command (by simp))
        charged digested)
    apply ensures_sendAll_cons opened
    · exact fun _ => steps
    · exact fun _ _ carried => step carried
    · exact fun _ left carried _ _ => show Steps asked c left.course from step carried
    · intro result left carried still _
      apply ih
      · intro command member
        exact members command (by simp [member])
      · intro command member
        exact addressed command (by simp [member])
      · exact still
      · exact show Steps asked c left.course from step carried

/-- A batch is refused as a whole, or its commands are sent. -/
theorem ensures_batch_cases [Link τ] {commands : List FileCommand} {session : Session τ}
    {post : Postcondition τ (List CommandResult)}
    (refused : ∀ error, post (.error error) session)
    (admitted : session.state.phase = .opened → checkAddresses commands = .ok () →
      Ensures (sendAll commands) { session with lastBatch := [] } fun outcome after =>
        post (outcome.map fun _ => after.lastBatch) after) :
    Ensures (batch commands) session post := by
  rw [batch, ensures_bind]
  apply ensures_requirePhase
  · intro opened
    simp only [andThen_ok, ensures_bind, ensures_ofExcept]
    cases addressed : checkAddresses commands with
    | error error => exact refused error
    | ok _ =>
      simp only [andThen_ok, ensures_bind, ensures_modify]
      refine (admitted opened addressed).imp ?_
      rintro (error | _) after held <;> exact held
  · intro _
    exact refused _

theorem steps_batch [Terminal τ] (commands : List FileCommand) (session : Session (Journaled τ))
    (members : ∀ command ∈ commands, asked command) {c : Course}
    (steps : Steps asked c session.course) :
    Ensures (batch commands) session fun _ session => Steps asked c session.course := by
  apply ensures_batch_cases
  · exact fun _ => steps
  · intro opened addressed
    exact steps_sendAll commands { session with lastBatch := [] } members
      (checkAddress_of_checkAddresses addressed) opened steps

/-- What has to hold once the keys of a session are agreed on: it is open, and the records that did not
come with the opening are read in a batch. If there is no agreement, the session has failed. -/
def onceNegotiated [Link τ] (level : AccessLevel) (reads : List RecordAddress)
    (post : Postcondition τ (List CommandResult)) : Postcondition τ OpenResponse
  | .error error, left => post (.error error) { left with state := left.state.fail error }
  | .ok opening, left =>
    if reads.tail = [] then
      post (.ok (firstResult (firstRead reads) opening))
        { left with state := left.state.opened level opening.ratified }
    else
      Ensures (batch (furtherReads reads))
        { left with state := left.state.opened level opening.ratified } fun outcome after =>
          post (outcome.map (firstResult (firstRead reads) opening ++ ·)) after

theorem onceNegotiated_ok [Link τ] (level : AccessLevel) (reads : List RecordAddress)
    (post : Postcondition τ (List CommandResult)) (opening : OpenResponse) (left : Session τ) :
    onceNegotiated level reads post (.ok opening) left =
      if reads.tail = [] then
        post (.ok (firstResult (firstRead reads) opening))
          { left with state := left.state.opened level opening.ratified }
      else
        Ensures (batch (furtherReads reads))
          { left with state := left.state.opened level opening.ratified } fun outcome after =>
            post (outcome.map (firstResult (firstRead reads) opening ++ ·)) after := rfl

theorem ensures_openSession [Link τ] {level : AccessLevel} {reads : List RecordAddress}
    {session : Session τ} {post : Postcondition τ (List CommandResult)}
    (refused : ∀ error, (session.state.phase = .closed → checkReads reads ≠ .ok ()) →
      post (.error error) session)
    (admitted : session.state.phase = .closed → checkReads reads = .ok () →
      Ensures (negotiate level (firstRead reads)) session (onceNegotiated level reads post)) :
    Ensures (openSession level reads) session post := by
  rw [openSession, ensures_bind]
  apply ensures_requirePhase
  · intro closed
    simp only [andThen_ok, ensures_bind, ensures_ofExcept]
    cases checked : checkReads reads with
    | error error => exact refused error fun _ => by simp [checked]
    | ok _ =>
      simp only [andThen_ok, ensures_bind, ensures_orAbort]
      refine (admitted closed checked).imp ?_
      rintro (error | opening) left negotiated
      · exact negotiated
      · simp only [orFailed, andThen_ok, ensures_bind, ensures_modifyState]
        rw [onceNegotiated_ok] at negotiated
        cases further : reads.tail with
        | nil => simpa [further] using negotiated
        | cons second rest =>
          rw [if_neg (by simp [further])] at negotiated
          rw [if_neg (by simp), ensures_bind]
          refine Ensures.imp negotiated ?_
          rintro (error | results) after held <;> exact held
  · intro wrong
    exact refused _ fun closed => absurd closed wrong

theorem steps_openSession [Terminal τ] (level : AccessLevel) (reads : List RecordAddress)
    (session : Session (Journaled τ)) (members : ∀ command ∈ furtherReads reads, asked command)
    {c : Course} (steps : Steps asked c session.course) :
    Ensures (openSession level reads) session fun _ session => Steps asked c session.course := by
  apply ensures_openSession
  · exact fun _ _ => steps
  intro closed _
  apply ensures_negotiate
  rintro events (error | opening) terminal negotiated
  · exact steps.tail (.openingFailed closed negotiated)
  · have step := steps.tail (.opened closed negotiated)
    rw [onceNegotiated_ok]
    split
    · exact step
    · exact steps_batch _ _ members step

theorem eq_ok_of_bind_conclusion {outcome : Except SessionError Unit} {state : State}
    (h : (outcome.bind fun _ => state.conclusion) = .ok ()) :
    outcome = .ok () ∧ state.lastError = none := by
  cases outcome with
  | error error => cases h
  | ok _ =>
    change state.conclusion = .ok () at h
    unfold State.conclusion at h
    cases noted : state.lastError with
    | none => exact ⟨rfl, rfl⟩
    | some error => simp [noted] at h

theorem steps_closeSession [Terminal τ] (ratification : Ratification)
    (session : Session (Journaled τ)) {c : Course} (steps : Steps asked c session.course) :
    Ensures (closeSession ratification) session fun _ session => Steps asked c session.course := by
  rw [closeSession, ensures_bind]
  apply ensures_requirePhase
  · intro opened
    simp only [andThen_ok, ensures_bind, ensures_orAbort]
    apply ensures_concludeSession
    intro events outcome terminal pending closing
    cases concluded : outcome.bind fun _ => session.state.conclusion with
    | error error => exact steps.tail (.closingFailed pending opened closing concluded)
    | ok _ =>
      obtain ⟨rfl, faultless⟩ := eq_ok_of_bind_conclusion concluded
      exact steps.tail (.closed pending opened closing faultless)
  · intro _
    exact steps

theorem steps_readValue [Terminal τ] (operation : StoredValue.Operation) (bothLogs : Bool)
    (session : Session (Journaled τ)) {c : Course} (steps : Steps asked c session.course) :
    Ensures (readValue operation bothLogs) session fun _ session => Steps asked c session.course := by
  rw [readValue, ensures_bind]
  apply ensures_requireStoredValue
  · intro fault
    exact steps
  intro active available
  cases bothLogs with
  | false =>
    simp only [andThen_ok, Bool.false_eq_true, if_false, ensures_bind]
    apply ensures_fetchReading operation session active
    · intro events outcome error terminal delivered
      exact steps.tail (.valueAsked active available delivered)
    · intro events response reading terminal delivered success read
      exact steps.tail (.valueRead active available delivered success read (.inl rfl))
  | true =>
    simp only [andThen_ok, if_true, ensures_bind]
    apply ensures_fetchReading operation.other session active
    · intro events outcome error terminal delivered
      exact steps.tail (.valueAsked active available delivered)
    · intro events response other terminal delivered success read
      have first : Steps asked c (session.note terminal events).course := by
        have step := steps.tail (.valueAsked active available delivered)
        change Steps asked c (session.course.advance events (session.state.settle _
          (readReading operation.other (readingCommand session.identity.classByte operation.other))
          _)) at step
        rwa [State.settle_of_read _ _ success read] at step
      simp only [andThen_ok, ensures_bind]
      apply ensures_fetchReading operation (session.note terminal events) active
      · intro events outcome error terminal delivered
        exact first.tail (.valueAsked active available delivered)
      · intro events response reading terminal delivered success read
        exact first.tail (.valueRead active available delivered success read (.inr ⟨other, rfl⟩))

theorem steps_changeValue [Terminal τ] (change : StoredValue.Change)
    (session : Session (Journaled τ)) {c : Course} (steps : Steps asked c session.course) :
    Ensures (changeValue change) session fun _ session => Steps asked c session.course := by
  apply ensures_changeValue
  · intro error
    exact steps
  intro reading events outcome more result terminal active available free usable changing concluding
  generalize phase : session.state.phase = present at changing concluding
  cases concluding with
  | failed _ error =>
    subst phase
    have step := steps.tail (.valueChanged active available free usable changing (.inr rfl))
    simpa [course, advance, note, isAccepted] using step
  | rejected _ refused =>
    subst phase
    have step := steps.tail (.valueChanged active available free usable changing (.inr refused))
    simpa [course, advance, note, isAccepted, refused] using step
  | owed success =>
    have step := steps.tail
      (.valueChanged active available free usable (phase ▸ changing) (.inl phase))
    simpa [course, advance, note, isAccepted, phase] using step
  | checked success answer =>
    have step := steps.tail
      (.valueChangedOutside phase available free usable changing success answer)
    rw [State.settle_of_closed phase]
    simpa [course, advance, note, phase, free] using step

/-- The commands on files that an operation asks for. -/
def Operation.commands : Operation → List FileCommand
  | openSession _ reads => furtherReads reads
  | batch commands => commands
  | closeSession _ | readValue .. | changeValue _ => []

/-- Every operation takes the course of a session through steps. -/
theorem steps_after [Terminal τ] (session : Session (Journaled τ)) (operation : Operation)
    (members : ∀ command ∈ operation.commands, asked command) :
    Steps asked session.course (session.after operation).course := by
  refine after_of_ensures (p := fun after => Steps asked session.course after.course) ?_
  cases operation with
  | openSession level reads =>
    exact (steps_openSession level reads session members .refl).bind_pure _
  | batch commands => exact (steps_batch commands session members .refl).bind_pure _
  | closeSession ratification =>
    exact (steps_closeSession ratification session .refl).bind_pure fun _ => Answer.done
  | readValue operation bothLogs =>
    exact (steps_readValue operation bothLogs session .refl).bind_pure _
  | changeValue change => exact (steps_changeValue change session .refl).bind_pure fun _ => Answer.done

/-- So does every run. -/
theorem steps_run [Terminal τ] (session : Session (Journaled τ)) (operations : List Operation)
    (members : ∀ operation ∈ operations, ∀ command ∈ operation.commands, asked command) :
    Steps asked session.course (session.run operations).course := by
  induction operations generalizing session with
  | nil => exact .refl
  | cons operation rest ih =>
    have first := steps_after session operation (members operation (by simp))
    exact first.trans (ih _ fun other member => members other (by simp [member]))

/-- The course of a run from a new session. -/
def historyCourse [Terminal τ] (terminal : τ) (identity : Card.Identity) (settings : Settings)
    (operations : List Operation) : Course :=
  (run (new (⟨terminal, []⟩ : Journaled τ) identity settings) operations).course

theorem steps_history [Terminal τ] (terminal : τ) (identity : Card.Identity) (settings : Settings)
    (operations : List Operation)
    (members : ∀ operation ∈ operations, ∀ command ∈ operation.commands, asked command) :
    Steps asked (start identity settings)
      (historyCourse terminal identity settings operations) :=
  steps_run (new ⟨terminal, []⟩ identity settings) operations members

end FareTerminal.Session
