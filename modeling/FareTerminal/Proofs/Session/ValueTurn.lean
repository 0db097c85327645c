import FareTerminal.Proofs.Session.Closing
import FareTerminal.Proofs.Session.Digest
import FareTerminal.Proofs.Session.Transcript

/-! What a turn does with the stored value: it leaves it alone, fails to read it, reads it or changes
it. The reading that a session keeps is the one that its transcript leaves. -/

namespace FareTerminal

/-- Whether a command, by its bytes, reads the stored value. -/
def readsValue : Bytes → Bool
  | _ :: ins :: _ => ins == 0x7C
  | _ => false

namespace Event

def sendsChange : Event → Bool
  | card command _ => changesValue command
  | sam .. => false

/-- Whether a change is prepared or sent. -/
def concernsChange : Event → Bool
  | card command _ => changesValue command
  | sam call _ => call.isPreparation

/-- The command and the data of the response, where the card has told its value. -/
def told? : Event → Option (Bytes × Bytes)
  | card command (.ok response) =>
    if readsValue command && response.isSuccess then some (command, response.data) else none
  | card _ (.error _) | sam .. => none

end Event

namespace Session

variable {τ : Type}

def told (events : List Event) : List (Bytes × Bytes) := events.filterMap Event.told?

theorem told_append (events more : List Event) : told (events ++ more) = told events ++ told more :=
  List.filterMap_append

namespace Turn

def events (turn : Turn) : List Event := turn.entries.map (·.event)

/-- Whether a change of the stored value is sent to the card. -/
def sendsChange (turn : Turn) : Bool := turn.events.any Event.sendsChange

/-- The reading that the turn returns, if it has been asked for one. -/
def reading? (turn : Turn) : Option StoredValue.Reading :=
  match turn.outcome with
  | .ok (.reading reading) => some reading
  | .ok (.results _) | .ok .done | .error _ => none

end Turn

@[simp] theorem map_event_map_mk (phase : Phase) (events : List Event) :
    (events.map (Entry.mk phase)).map (·.event) = events := by
  simp [Function.comp_def]

@[simp] theorem Turn.events_mk (phase : Phase) (operation : Operation)
    (outcome : Except SessionError Answer) (events : List Event) :
    Turn.events ⟨phase, operation, outcome, events.map (⟨phase, ·⟩)⟩ = events :=
  map_event_map_mk phase events

/-- No change is prepared or sent. -/
def Unchanging (events : List Event) : Prop := ∀ event ∈ events, event.concernsChange = false

/-- The stored value is neither read nor changed. -/
def Silent (events : List Event) : Prop :=
  ∀ event ∈ events, event.concernsChange = false ∧ event.told? = none

theorem Unchanging.append {events more : List Event} (h : Unchanging events)
    (h' : Unchanging more) : Unchanging (events ++ more) :=
  List.forall_mem_append.mpr ⟨h, h'⟩

theorem Silent.append {events more : List Event} (h : Silent events) (h' : Silent more) :
    Silent (events ++ more) :=
  List.forall_mem_append.mpr ⟨h, h'⟩

theorem Silent.unchanging {events : List Event} (h : Silent events) : Unchanging events :=
  fun event member => (h event member).1

theorem Silent.told_eq_nil {events : List Event} (h : Silent events) : told events = [] :=
  List.filterMap_eq_nil_iff.mpr fun event member => (h event member).2

theorem Unchanging.any_sendsChange {events : List Event} (h : Unchanging events) :
    events.any Event.sendsChange = false := by
  rw [List.any_eq_false]
  intro event member
  have unchanging := h event member
  cases event with
  | card command answer => simpa [Event.sendsChange, Event.concernsChange] using unchanging
  | sam call answer => simp [Event.sendsChange]

/-- Only the security module is asked. -/
def Consults (events : List Event) : Prop := ∀ event ∈ events, event.call?.isSome = true

theorem Consults.append {events more : List Event} (h : Consults events) (h' : Consults more) :
    Consults (events ++ more) :=
  List.forall_mem_append.mpr ⟨h, h'⟩

theorem Consults.countP_sendsChange {events : List Event} (h : Consults events) :
    events.countP Event.sendsChange = 0 := by
  rw [List.countP_eq_zero]
  intro event member
  cases event with
  | card command answer => cases h _ member
  | sam call answer => exact Bool.false_ne_true

theorem Consults.told_eq_nil {events : List Event} (h : Consults events) : told events = [] := by
  rw [told, List.filterMap_eq_nil_iff]
  intro event member
  cases event with
  | card command answer => cases h _ member
  | sam call answer => rfl

theorem silent_card (command : Bytes) (answer : Except ReaderError Apdu.Response)
    (unchanging : changesValue command = false) (unread : readsValue command = false) :
    Silent [.card command answer] := by
  cases answer <;> simp [Silent, Event.concernsChange, Event.told?, unchanging, unread]

theorem silent_sam {call : Sam.Call} (answer : Except SessionError call.Answer)
    (unprepared : call.isPreparation = false) : Silent [.sam call answer] := by
  simp [Silent, Event.concernsChange, Event.told?, unprepared]

theorem silent_of_digested {command : Apdu.Command} {events : List Event}
    {outcome : Except SessionError Apdu.Response} (h : Digested command events outcome)
    (unchanging : changesValue command.toBytes = false)
    (unread : readsValue command.toBytes = false) : Silent events := by
  have sent (answer) := silent_card command.toBytes answer unchanging unread
  cases h with
  | unanswered error => exact sent _
  | undigested response error => exact (sent _).append (silent_sam _ rfl)
  | digested response => exact (sent _).append (silent_sam _ rfl)

theorem silent_of_negotiation {identity : Card.Identity} {settings : Settings}
    {level : AccessLevel} {address : RecordAddress} {events : List Event}
    {outcome : Except SessionError OpenResponse}
    (h : Negotiation identity settings level address events outcome) : Silent events := by
  have opening (challenge answer) :
      Silent (openingEvents identity level address challenge answer) := by
    refine (silent_sam _ rfl).append ((silent_sam _ rfl).append (silent_card _ _ ?_ ?_))
    · unfold openingCommand
      cases identity.revision <;> rfl
    · unfold openingCommand
      cases identity.revision <;> rfl
  cases h with
  | undiversified error => exact silent_sam _ rfl
  | unchallenged error => exact (silent_sam _ rfl).append (silent_sam _ rfl)
  | unanswered challenge error => exact opening _ _
  | refused challenge response error read => exact opening _ _
  | begun challenge response opened answer read => exact (opening _ _).append (silent_sam _ rfl)

theorem silent_of_closing {cla : UInt8} {ratification : Ratification} {pending : Bool}
    {events : List Event} {outcome : Except SessionError Unit}
    (h : Closing cla ratification pending events outcome) : Silent events := by
  have closing (mac answer) : Silent (closingEvents cla ratification mac answer) :=
    (silent_sam _ rfl).append (silent_card _ _ rfl rfl)
  cases h with
  | unsigned error => exact silent_sam _ rfl
  | unanswered mac error => exact closing _ _
  | refused mac response error read => exact closing _ _
  | answered mac response read ratified verified =>
    refine ((closing _ _).append ?_).append ?_
    · cases ratified with
      | implicit => exact List.forall_mem_nil _
      | explicit answer => exact silent_card _ _ rfl rfl
    · cases verified with
      | unanswered error => exact silent_sam _ rfl
      | rejected => exact silent_sam _ rfl
      | verified checking =>
        refine (silent_sam _ rfl).append ?_
        cases checking with
        | nothingOwed => exact List.forall_mem_nil _
        | missing none => exact List.forall_mem_nil _
        | unanswered first error => exact silent_sam _ rfl
        | rejected first => exact silent_sam _ rfl
        | accepted first => exact silent_sam _ rfl

theorem unchanging_of_delivered {cla : UInt8} {operation : StoredValue.Operation} {phase : Phase}
    {events : List Event} {outcome : Except SessionError Apdu.Response}
    (h : Delivered (readingCommand cla operation) phase events outcome) : Unchanging events := by
  have sent (answer) : Unchanging [.card (readingCommand cla operation).toBytes answer] := by
    simp only [Unchanging, List.mem_singleton, forall_eq]
    rfl
  cases h with
  | outside answer => exact sent _
  | inside digested =>
    cases digested with
    | unanswered error => exact sent _
    | undigested response error => exact (sent _).append (silent_sam _ rfl).unchanging
    | digested response => exact (sent _).append (silent_sam _ rfl).unchanging

/-- What a turn does with the stored value, where a reading was kept until then and a signature was
pending or not, and what is kept afterwards. -/
inductive ValueTurn (identity : Card.Identity) (settings : Settings)
    (kept : Option StoredValue.Reading) (pending : Bool) :
    Turn → Option StoredValue.Reading → Prop
  | refused (phase : Phase) (operation : Operation) (error : SessionError) :
    ValueTurn identity settings kept pending ⟨phase, operation, .error error, []⟩ kept
  | unconcerned {turn : Turn} (unread : turn.reading? = none)
    (unchanged : ∀ change, turn.operation ≠ .changeValue change) (silent : Silent turn.events) :
    ValueTurn identity settings kept pending turn kept
  | unread {phase : Phase} {operation : StoredValue.Operation} {bothLogs : Bool}
    {error : SessionError} {events : List Event} (unchanging : Unchanging events) :
    ValueTurn identity settings kept pending
      ⟨phase, .readValue operation bothLogs, .error error, events.map (⟨phase, ·⟩)⟩ kept
  | read {phase : Phase} {operation : StoredValue.Operation} {bothLogs : Bool}
    {earlier events : List Event} {response : Apdu.Response} {plain reading : StoredValue.Reading}
    (unchanging : Unchanging earlier)
    (delivered : Delivered (readingCommand identity.classByte operation) phase events
      (.ok response))
    (success : response.isSuccess = true)
    (reads : readReading operation (readingCommand identity.classByte operation) response =
      .ok plain)
    (logs : reading = plain ∨ ∃ other, reading = plain.withLogsOf other) :
    ValueTurn identity settings kept pending
      ⟨phase, .readValue operation bothLogs, .ok (.reading reading),
        (earlier ++ events).map (⟨phase, ·⟩)⟩
      (some reading)
  | changed {phase : Phase} {change : StoredValue.Change} {reading : StoredValue.Reading}
    {events more : List Event} {outcome : Except SessionError Apdu.Response}
    {result : Except SessionError Unit} (active : phase.isTerminated = false)
    (free : pending = false)
    (usable : usableReading settings.valuePolicy kept change = .ok reading)
    (changing : Changing identity.classByte change reading phase events outcome)
    (concluding : Concluding (.storedValueChange change.action) phase outcome more result) :
    ValueTurn identity settings kept pending
      ⟨phase, .changeValue change, result.map fun _ => .done,
        (events ++ more).map (⟨phase, ·⟩)⟩
      none

/-- The session keeps its reading, and nothing is said of the stored value. -/
def LeavesValue (session after : Session (Journaled τ)) : Prop :=
  ∃ more, after.terminal.entries = session.terminal.entries ++ more ∧
    after.reading = session.reading ∧ Silent (more.map (·.event))

theorem LeavesValue.refl (session : Session (Journaled τ)) : LeavesValue session session :=
  ⟨[], by simp, rfl, by simp [Silent]⟩

theorem LeavesValue.trans {first second third : Session (Journaled τ)}
    (h : LeavesValue first second) (h' : LeavesValue second third) : LeavesValue first third := by
  obtain ⟨more, grown, same, silent⟩ := h
  obtain ⟨further, grown', same', silent'⟩ := h'
  refine ⟨more ++ further, by rw [grown', grown, List.append_assoc], same'.trans same, ?_⟩
  rw [List.map_append]
  exact silent.append silent'

theorem leavesValue_note (session : Session (Journaled τ)) {events : List Event} (terminal : τ)
    (state : State) (pending : Bool) (silent : Silent events) :
    LeavesValue session
      { session.note terminal events with state, signaturePending := pending } :=
  ⟨_, rfl, rfl, (map_event_map_mk session.state.phase events).symm ▸ silent⟩

/-- What has to hold after an operation for its turn to be one of those listed. -/
def TakesTurn (session : Session (Journaled τ)) (operation : Operation) :
    Postcondition (Journaled τ) Answer := fun outcome after =>
  ∃ more, after.terminal.entries = session.terminal.entries ++ more ∧
    ValueTurn session.identity session.settings session.reading session.signaturePending
      ⟨session.state.phase, operation, outcome, more⟩ after.reading

theorem LeavesValue.takesTurn {session after : Session (Journaled τ)}
    (h : LeavesValue session after) {operation : Operation}
    {outcome : Except SessionError Answer} (unread : ∀ reading, outcome ≠ .ok (.reading reading))
    (unchanged : ∀ change, operation ≠ .changeValue change) :
    TakesTurn session operation outcome after := by
  obtain ⟨more, grown, same, silent⟩ := h
  refine ⟨more, grown, ?_⟩
  rw [same]
  refine .unconcerned ?_ unchanged silent
  unfold Turn.reading?
  split
  · rename_i reading returned
    exact absurd returned (unread reading)
  all_goals rfl

section Operations

variable [Terminal τ]

theorem leavesValue_sendAll (commands : List FileCommand) (session : Session (Journaled τ))
    (opened : session.state.phase = .opened) {base : Session (Journaled τ)}
    (h : LeavesValue base session) :
    Ensures (sendAll commands) session fun _ after => LeavesValue base after := by
  induction commands generalizing session with
  | nil => exact h
  | cons command rest ih =>
    have leaves {left : Session (Journaled τ)} {outcome : Except SessionError CommandResult}
        (carried : CarriedOut command session left outcome) : LeavesValue base left := by
      obtain ⟨budget, events, answer, terminal, -, -, digested, -, rfl⟩ := carried
      exact h.trans (leavesValue_note session terminal _ session.signaturePending
        (silent_of_digested digested (changesValue_toCommand _ _) (by cases command <;> rfl)))
    apply ensures_sendAll_cons opened
    · exact fun _ => h
    · exact fun _ _ carried => leaves carried
    · exact fun _ left carried _ _ => show LeavesValue base left from leaves carried
    · intro result left carried still _
      exact ih _ still (show LeavesValue base left from leaves carried)

theorem leavesValue_batch (commands : List FileCommand) (session : Session (Journaled τ))
    {base : Session (Journaled τ)} (h : LeavesValue base session) :
    Ensures (batch commands) session fun _ after => LeavesValue base after := by
  apply ensures_batch_cases
  · exact fun _ => h
  · intro opened _
    exact leavesValue_sendAll commands { session with lastBatch := [] } opened h

theorem leavesValue_openSession (level : AccessLevel) (reads : List RecordAddress)
    (session : Session (Journaled τ)) :
    Ensures (openSession level reads) session fun _ after => LeavesValue session after := by
  apply ensures_openSession
  · exact fun _ _ => .refl session
  intro _ _
  apply ensures_negotiate
  intro events outcome terminal negotiated
  have left (state) := leavesValue_note session terminal state session.signaturePending
    (silent_of_negotiation negotiated)
  cases outcome with
  | error error => exact left _
  | ok opening =>
    rw [onceNegotiated_ok]
    split
    · exact left _
    · exact leavesValue_batch _ _ (left _)

theorem leavesValue_closeSession (ratification : Ratification) (session : Session (Journaled τ)) :
    Ensures (closeSession ratification) session fun _ after => LeavesValue session after := by
  rw [closeSession, ensures_bind]
  apply ensures_requirePhase
  · intro opened
    simp only [andThen_ok, ensures_bind, ensures_orAbort]
    apply ensures_concludeSession
    intro events outcome terminal pending closing
    have left (state) := leavesValue_note session terminal state pending (silent_of_closing closing)
    cases outcome.bind fun _ => session.state.conclusion with
    | error error => exact left _
    | ok _ => exact left _
  · intro _
    exact .refl session

theorem takesTurn_readValue (operation : StoredValue.Operation) (bothLogs : Bool)
    (session : Session (Journaled τ)) :
    Ensures (perform (.readValue operation bothLogs)) session
      (TakesTurn session (.readValue operation bothLogs)) := by
  rw [perform, ensures_bind, readValue, ensures_bind]
  apply ensures_requireStoredValue
  · intro fault
    exact ⟨[], by simp, .refused _ _ _⟩
  intro active available
  cases bothLogs with
  | false =>
    simp only [andThen_ok, Bool.false_eq_true, if_false, ensures_bind]
    apply ensures_fetchReading operation session active
    · intro events outcome error terminal delivered
      exact ⟨_, rfl, .unread (unchanging_of_delivered delivered)⟩
    · intro events response reading terminal delivered success reads
      have nothing : Unchanging [] := List.forall_mem_nil _
      exact ⟨_, rfl, .read nothing delivered success reads (.inl rfl)⟩
  | true =>
    simp only [andThen_ok, if_true, ensures_bind]
    apply ensures_fetchReading operation.other session active
    · intro events outcome error terminal delivered
      exact ⟨_, rfl, .unread (unchanging_of_delivered delivered)⟩
    · intro earlier response other terminal delivered _ _
      have first : Unchanging earlier := unchanging_of_delivered delivered
      simp only [andThen_ok, ensures_bind]
      apply ensures_fetchReading operation (session.note terminal earlier) active
      · intro events outcome error terminal delivered
        refine ⟨(earlier ++ events).map (⟨session.state.phase, ·⟩), by simp [note], ?_⟩
        exact .unread (first.append (unchanging_of_delivered delivered))
      · intro events response reading terminal delivered success reads
        refine ⟨(earlier ++ events).map (⟨session.state.phase, ·⟩), by simp [note], ?_⟩
        exact .read first delivered success reads (.inr ⟨other, rfl⟩)

theorem takesTurn_changeValue (change : StoredValue.Change)
    (session : Session (Journaled τ)) :
    Ensures (perform (.changeValue change)) session
      (TakesTurn session (.changeValue change)) := by
  rw [perform, ensures_bind]
  apply ensures_changeValue
  · intro error
    exact ⟨[], by simp, .refused _ _ _⟩
  · intro reading events outcome more result terminal active available free usable changing
      concluding
    cases result <;> exact ⟨_, rfl, .changed active free usable changing concluding⟩

/-- Every operation makes a turn of one of these kinds. -/
theorem valueTurn_turn (session : Session (Journaled τ)) (operation : Operation) :
    ValueTurn session.identity session.settings session.reading session.signaturePending
      (session.turn operation) (session.after operation).reading := by
  refine turn_of_ensures (p := fun outcome after more =>
    ValueTurn session.identity session.settings session.reading session.signaturePending
      ⟨session.state.phase, operation, outcome, more⟩ after.reading) ?_
  cases operation with
  | openSession level reads =>
    rw [perform, ensures_bind]
    refine (leavesValue_openSession level reads session).imp ?_
    rintro (error | results) after left <;> exact left.takesTurn (by rintro _ ⟨⟩) (by rintro _ ⟨⟩)
  | batch commands =>
    rw [perform, ensures_bind]
    refine (leavesValue_batch commands session (.refl session)).imp ?_
    rintro (error | results) after left <;> exact left.takesTurn (by rintro _ ⟨⟩) (by rintro _ ⟨⟩)
  | closeSession ratification =>
    rw [perform, ensures_bind]
    refine (leavesValue_closeSession ratification session).imp ?_
    rintro (error | _) after left <;> exact left.takesTurn (by rintro _ ⟨⟩) (by rintro _ ⟨⟩)
  | readValue operation bothLogs => exact takesTurn_readValue operation bothLogs session
  | changeValue change => exact takesTurn_changeValue change session

end Operations

end Session

end FareTerminal
