import FareTerminal.Proofs.Session.Steps

/-! Where it comes from what a session says. A command to the card is one of six kinds, and what is
in it was asked for or told by the security module; what is digested has gone over the card's
channel. -/

namespace FareTerminal.Session

variable {τ : Type}

/-- The commands that there can be reason to send to the card in the course of a session, where
certain commands on files are asked for, and what has happened is known. -/
inductive Ordinary (identity : Card.Identity) (asked : FileCommand → Prop) (events : List Event) :
    Apdu.Command → Prop
  | file {command : FileCommand} (member : asked command) :
    Ordinary identity asked events (command.toCommand identity.classByte)
  | reading (operation : StoredValue.Operation) :
    Ordinary identity asked events (readingCommand identity.classByte operation)
  | change {change : StoredValue.Change} {reading : StoredValue.Reading} {complement : Bytes}
    (told : .sam (.prepareChange change.action reading.command reading.response
      (change.data reading.kvc)) (.ok complement) ∈ events) :
    Ordinary identity asked events (changeCommand identity.classByte change reading.kvc complement)

/-- All commands that there can be reason to send to the card. -/
inductive Issued (identity : Card.Identity) (asked : FileCommand → Prop) (events : List Event) :
    Apdu.Command → Prop
  | opening (level : AccessLevel) (address : RecordAddress) {challenge : Bytes}
    (told : .sam .getChallenge (.ok challenge) ∈ events) :
    Issued identity asked events (openingCommand identity level address challenge)
  | ordinary {command : Apdu.Command} (ordinary : Ordinary identity asked events command) :
    Issued identity asked events command
  | closing (ratify : Bool) {mac : Bytes} (told : .sam .finalizeDigest (.ok mac) ∈ events) :
    Issued identity asked events (.closeSession identity.classByte ratify mac)
  | ratification : Issued identity asked events (.ratification identity.classByte)

/-- Whether what is sent to the card, or handed over to be digested, comes from where it should. -/
def HasSource (identity : Card.Identity) (asked : FileCommand → Prop) (events : List Event) :
    Event → Prop
  | .card bytes _ => ∃ command, Issued identity asked events command ∧ bytes = command.toBytes
  | .sam (.beginDigest data ..) _ =>
    ∃ bytes response, .card bytes (.ok response) ∈ events ∧ data = response.data
  | .sam (.updateDigest sent received) _ =>
    ∃ command response, Ordinary identity asked events command ∧ sent = command.toBytes ∧
      .card sent (.ok response) ∈ events ∧ received = response.toBytes
  | .sam _ _ => True

variable {identity : Card.Identity} {asked : FileCommand → Prop} {events more : List Event}

theorem Ordinary.mono {command : Apdu.Command} (h : Ordinary identity asked events command)
    (known : events ⊆ more) : Ordinary identity asked more command := by
  cases h with
  | file member => exact .file member
  | reading operation => exact .reading operation
  | change told => exact .change (known told)

theorem Issued.mono {command : Apdu.Command} (h : Issued identity asked events command)
    (known : events ⊆ more) : Issued identity asked more command := by
  cases h with
  | opening level address told => exact .opening level address (known told)
  | ordinary ordinary => exact .ordinary (ordinary.mono known)
  | closing ratify told => exact .closing ratify (known told)
  | ratification => exact .ratification

theorem HasSource.mono {event : Event} (h : HasSource identity asked events event)
    (known : events ⊆ more) : HasSource identity asked more event := by
  unfold HasSource at h ⊢
  split at h
  · obtain ⟨command, issued, same⟩ := h
    exact ⟨command, issued.mono known, same⟩
  · obtain ⟨bytes, response, told, same⟩ := h
    exact ⟨bytes, response, known told, same⟩
  · obtain ⟨command, response, ordinary, same, told, received⟩ := h
    exact ⟨command, response, ordinary.mono known, same, known told, received⟩
  · trivial

/-- What is said has its sources in what was said. -/
def Sourced (identity : Card.Identity) (asked : FileCommand → Prop) (events : List Event) : Prop :=
  ∀ event ∈ events, HasSource identity asked events event

theorem Sourced.append (h : Sourced identity asked events)
    (h' : ∀ event ∈ more, HasSource identity asked (events ++ more) event) :
    Sourced identity asked (events ++ more) := by
  intro event member
  obtain member | member := List.mem_append.mp member
  · exact (h event member).mono (List.subset_append_left _ _)
  · exact h' event member

theorem hasSource_digested {command : Apdu.Command} {said : List Event}
    {outcome : Except SessionError Apdu.Response}
    (ordinary : Ordinary identity asked events command) (h : Digested command said outcome) :
    ∀ event ∈ said, HasSource identity asked (events ++ said) event := by
  have ordinary := ordinary.mono (List.subset_append_left events said)
  cases h <;> intro event member <;> simp only [List.mem_cons, List.not_mem_nil, or_false] at member
  case unanswered error =>
    subst member
    exact ⟨command, .ordinary ordinary, rfl⟩
  all_goals
    obtain rfl | rfl := member
    · exact ⟨command, .ordinary ordinary, rfl⟩
    · exact ⟨command, _, ordinary, rfl, by simp, rfl⟩

theorem hasSource_delivered {command : Apdu.Command} {phase : Phase} {said : List Event}
    {outcome : Except SessionError Apdu.Response}
    (ordinary : Ordinary identity asked events command) (h : Delivered command phase said outcome) :
    ∀ event ∈ said, HasSource identity asked (events ++ said) event := by
  cases h with
  | inside digested => exact hasSource_digested ordinary digested
  | outside answer =>
    intro event member
    obtain rfl := List.mem_singleton.mp member
    exact ⟨command, .ordinary (ordinary.mono (List.subset_append_left _ _)), rfl⟩

theorem sourced_negotiation {settings : Settings} {level : AccessLevel} {address : RecordAddress}
    {outcome : Except SessionError OpenResponse}
    (h : Negotiation identity settings level address events outcome) :
    Sourced identity asked events := by
  have opening (challenge : Bytes) (answer : Except ReaderError Apdu.Response) :
      Sourced identity asked (openingEvents identity level address challenge answer) := by
    intro event member
    simp only [openingEvents, List.mem_cons, List.not_mem_nil, or_false] at member
    obtain rfl | rfl | rfl := member
    · trivial
    · trivial
    · exact ⟨_, .opening level address (by simp [openingEvents]), rfl⟩
  cases h with
  | undiversified error => simp [Sourced, HasSource]
  | unchallenged error => simp [Sourced, HasSource]
  | unanswered challenge error => exact opening challenge _
  | refused challenge response error read => exact opening challenge _
  | begun challenge response begun answer read =>
    refine (opening challenge _).append fun event member => ?_
    obtain rfl := List.mem_singleton.mp member
    exact ⟨_, response, by simp [openingEvents]; rfl, rfl⟩

theorem sourced_changing {change : StoredValue.Change} {reading : StoredValue.Reading}
    {phase : Phase} {outcome : Except SessionError Apdu.Response}
    (h : Changing identity.classByte change reading phase events outcome) :
    Sourced identity asked events := by
  cases h with
  | unprepared error => simp [Sourced, HasSource]
  | prepared complement delivered =>
    refine Sourced.append (show Sourced identity asked [_] by simp [Sourced, HasSource]) ?_
    exact hasSource_delivered (.change List.mem_cons_self) delivered

theorem sourced_checking {postponed : List Bytes} {pending : Bool}
    {outcome : Except SessionError Unit} (h : Checking postponed pending events outcome) :
    Sourced identity asked events := by
  cases h <;> simp [Sourced, HasSource]

theorem sourced_verifying {closing : CloseResponse} {pending : Bool}
    {outcome : Except SessionError Unit} (h : Verifying closing pending events outcome) :
    Sourced identity asked events := by
  cases h with
  | unanswered error => simp [Sourced, HasSource]
  | rejected => simp [Sourced, HasSource]
  | verified checking =>
    refine Sourced.append (show Sourced identity asked [_] by simp [Sourced, HasSource]) ?_
    intro event member
    exact (sourced_checking checking event member).mono (List.subset_append_right _ _)

theorem sourced_closing {ratification : Ratification} {pending : Bool}
    {outcome : Except SessionError Unit}
    (h : Closing identity.classByte ratification pending events outcome) :
    Sourced identity asked events := by
  have closing (mac : Bytes) (answer : Except ReaderError Apdu.Response) :
      Sourced identity asked (closingEvents identity.classByte ratification mac answer) := by
    intro event member
    simp only [closingEvents, List.mem_cons, List.not_mem_nil, or_false] at member
    obtain rfl | rfl := member
    · trivial
    · exact ⟨_, .closing _ (by simp [closingEvents]), rfl⟩
  cases h with
  | unsigned error => simp [Sourced, HasSource]
  | unanswered mac error => exact closing mac _
  | refused mac response error read => exact closing mac _
  | answered mac response read ratified verified =>
    refine ((closing mac _).append fun event member => ?_).append fun event member => ?_
    · cases ratified with
      | implicit => cases member
      | explicit answer =>
        obtain rfl := List.mem_singleton.mp member
        exact ⟨_, .ratification, rfl⟩
    · exact (sourced_verifying verified event member).mono (List.subset_append_right _ _)

/-- The events of a course. -/
def Course.said (c : Course) : List Event := c.entries.map (·.event)

theorem Course.said_advance (c : Course) (events : List Event) (state : State) :
    (c.advance events state).said = c.said ++ events := by
  simp [Course.said, Course.advance, Function.comp_def]

theorem Sourced.advance {c : Course} (h : Sourced identity asked c.said)
    (said : Sourced identity asked events) (state : State) :
    Sourced identity asked (c.advance events state).said := by
  rw [Course.said_advance]
  exact h.append fun event member => (said event member).mono (List.subset_append_right _ _)

theorem sourced_delivered {command : Apdu.Command} {phase : Phase}
    {outcome : Except SessionError Apdu.Response} (ordinary : Ordinary identity asked [] command)
    (h : Delivered command phase events outcome) : Sourced identity asked events :=
  hasSource_delivered ordinary h

theorem Course.Step.sourced {c c' : Course} (h : Step asked c c')
    (before : Sourced c.identity asked c.said) : Sourced c'.identity asked c'.said := by
  cases h with
  | openingFailed closed negotiated => exact before.advance (sourced_negotiation negotiated) _
  | opened closed negotiated => exact before.advance (sourced_negotiation negotiated) _
  | commandSent opened member addressed charged digested =>
    exact before.advance (sourced_delivered (.file member) (.inside digested)) _
  | valueAsked active available delivered =>
    exact before.advance (sourced_delivered (.reading _) delivered) _
  | valueRead active available delivered success read logs =>
    exact before.advance (sourced_delivered (.reading _) delivered) c.state
  | valueChanged active available free usable changing unfinished =>
    exact before.advance (sourced_changing changing) c.state
  | valueChangedOutside closed available free usable changing success answer =>
    refine before.advance ((sourced_changing changing).append fun event member => ?_) c.state
    obtain rfl := List.mem_singleton.mp member
    trivial
  | closingFailed pending opened closing failed =>
    exact before.advance (sourced_closing closing) c.state
  | closed pending opened closing faultless =>
    exact before.advance (sourced_closing closing) c.state

/-- The commands on files that a run asks for. -/
def asksFor (operations : List Operation) (command : FileCommand) : Prop :=
  ∃ operation ∈ operations, command ∈ operation.commands

/-- Whatever a run says comes from where it should. -/
theorem sourced_history [Terminal τ] (terminal : τ) (identity : Card.Identity) (settings : Settings)
    (operations : List Operation) :
    Sourced identity (asksFor operations)
      ((history terminal identity settings operations).map (·.event)) := by
  have steps : Course.Steps (asksFor operations) _ _ :=
    steps_history terminal identity settings operations
      fun operation member command asked => ⟨operation, member, asked⟩
  have sourced := kept_of_reflTransGen
    (p := fun c => Sourced c.identity (asksFor operations) c.said) steps
    (by simp [Course.said, Course.start, Sourced]) fun _ _ step => step.sourced
  rwa [steps.identity_eq] at sourced

end FareTerminal.Session
