import FareTerminal.Proofs.Sam.Answers
import FareTerminal.Proofs.Session.Framing
import FareTerminal.Proofs.Session.Lifecycle
import FareTerminal.Proofs.Session.Utterance

/-! The signature with which a session is closed. The security module is asked for four bytes, and what
it answers with success is the signature: however many bytes there are, they go to the card. So the
card is given a whole signature just if the security module gives one. A challenge of the wrong
length, in contrast, ends the opening before the card hears of it. -/

namespace FareTerminal

/-- Whether a command, by its bytes, closes a session. -/
def closesSession : Bytes → Bool
  | _ :: ins :: _ => ins == 0x8E
  | _ => false

namespace Apdu.Command

/-- The bytes close a session with a signature of the length that is asked for. -/
def ClosesSigned (bytes : Bytes) : Prop :=
  ∃ cla p1 : UInt8, ∃ signature : Bytes, signature.length = Sam.Client.signatureLength.toNat ∧
    bytes = [cla, 0x8E, p1, 0x00, Sam.Client.signatureLength] ++ signature ++ [0x00]

theorem closesSigned_closeSession_iff (cla : UInt8) (ratify : Bool) (mac : Bytes) :
    ClosesSigned (closeSession cla ratify mac).toBytes ↔
      mac.length = Sam.Client.signatureLength.toNat := by
  constructor
  · rintro ⟨cla', p1, signature, length, same⟩
    have lengths := congrArg List.length same
    have field := Session.length_dataField mac
    simp only [toBytes, closeSession, List.length_append, length, Option.toList, List.length_cons,
      List.length_nil] at lengths
    change _ = 4 + 1 + 4 + 1 at lengths
    change _ = 4
    omega
  · intro length
    refine ⟨cla, if ratify then 0x80 else 0x00, mac, length, ?_⟩
    cases mac with
    | nil => cases length
    | cons first rest =>
      have four : UInt8.ofNat (rest.length + 1) = Sam.Client.signatureLength := by
        rw [← List.length_cons, length, UInt8.ofNat_toNat]
      simp [toBytes, closeSession, four]

end Apdu.Command

/-- The event is no closing of the session. -/
def Event.KeepsOpen : Event → Prop
  | card command _ => closesSession command = false
  | sam .. => True

namespace Session

/-- The bytes that go to the card in a turn. -/
def Turn.sent (turn : Turn) : List Bytes := turn.entries.filterMap (·.event.sent?)

section Open

/-! Nothing but the closing of a session sends a closing to the card. -/

variable {τ : Type} [Terminal τ]

theorem keepsOpen_consult (call : Sam.Call) :
    Utters Event.KeepsOpen (consult call : SessionM (Journaled τ) call.Answer) :=
  utters_consult fun _ => trivial

theorem keepsOpen_exchange {command : Apdu.Command} (other : (command.ins == 0x8E) = false) :
    Utters Event.KeepsOpen (exchange command : SessionM (Journaled τ) Apdu.Response) :=
  utters_exchange fun _ => other

theorem keepsOpen_exchangeDigested {command : Apdu.Command} (other : (command.ins == 0x8E) = false) :
    Utters Event.KeepsOpen (exchangeDigested command : SessionM (Journaled τ) Apdu.Response) :=
  (keepsOpen_exchange other).bind fun _ => (keepsOpen_consult _).bind fun _ => utters_pure _

theorem ins_openingCommand (identity : Card.Identity) (level : AccessLevel) (address : RecordAddress)
    (challenge : Bytes) : (openingCommand identity level address challenge).ins = 0x8A := by
  unfold openingCommand
  cases identity.revision <;> rfl

theorem keepsOpen_negotiate (level : AccessLevel) (address : RecordAddress) :
    Utters Event.KeepsOpen (negotiate level address : SessionM (Journaled τ) OpenResponse) := by
  refine .get_bind fun _ => (keepsOpen_consult _).bind fun _ => (keepsOpen_consult _).bind fun _ => ?_
  refine (keepsOpen_exchange ?_).bind fun _ => (utters_ofExcept _).bind fun _ =>
    (keepsOpen_consult _).bind fun _ => utters_pure _
  rw [ins_openingCommand]
  rfl

theorem keepsOpen_carryOut (command : FileCommand) :
    Utters Event.KeepsOpen (carryOut command : SessionM (Journaled τ) CommandResult) := by
  refine .get_bind fun _ => (keepsOpen_exchangeDigested (by cases command <;> rfl)).bind fun _ => ?_
  split
  · exact utters_ofExcept _
  · exact (utters_modifyState _).bind fun _ => utters_pure _

theorem keepsOpen_sendAll (commands : List FileCommand) :
    Utters Event.KeepsOpen (sendAll commands : SessionM (Journaled τ) Unit) := by
  induction commands with
  | nil => exact utters_pure _
  | cons command rest ih =>
    refine (utters_charge command).bind fun _ => (keepsOpen_carryOut command).orAbort.bind fun _ =>
      (utters_report _).bind fun _ => .get_bind fun _ => ?_
    split
    · exact utters_report _
    · exact ih

theorem keepsOpen_batch (commands : List FileCommand) :
    Utters Event.KeepsOpen (batch commands : SessionM (Journaled τ) (List CommandResult)) :=
  (utters_requirePhase _ _).bind fun _ => (utters_ofExcept _).bind fun _ =>
    (utters_modify (by intros; rfl)).bind fun _ => (keepsOpen_sendAll commands).bind fun _ =>
    .get_bind fun _ => utters_pure _

theorem keepsOpen_openSession (level : AccessLevel) (reads : List RecordAddress) :
    Utters Event.KeepsOpen
      (openSession level reads : SessionM (Journaled τ) (List CommandResult)) := by
  refine (utters_requirePhase _ _).bind fun _ => (utters_ofExcept _).bind fun _ =>
    (keepsOpen_negotiate _ _).orAbort.bind fun _ => (utters_modifyState _).bind fun _ => ?_
  split
  · exact utters_pure _
  · exact (keepsOpen_batch _).bind fun _ => utters_pure _

theorem keepsOpen_exchangeValue {command : Apdu.Command} (other : (command.ins == 0x8E) = false) :
    Utters Event.KeepsOpen (exchangeValue command : SessionM (Journaled τ) Apdu.Response) := by
  refine .orAbortOpened (.get_bind fun _ => ?_)
  split
  · exact keepsOpen_exchangeDigested other
  · exact keepsOpen_exchange other

theorem keepsOpen_fetchReading (operation : StoredValue.Operation) :
    Utters Event.KeepsOpen
      (fetchReading operation : SessionM (Journaled τ) StoredValue.Reading) :=
  .get_bind fun _ => (keepsOpen_exchangeValue rfl).bind fun _ =>
    (utters_requireAccepted _ _).bind fun _ => .orAbortOpened (utters_ofExcept _)

theorem keepsOpen_readValue (operation : StoredValue.Operation) (bothLogs : Bool) :
    Utters Event.KeepsOpen
      (readValue operation bothLogs : SessionM (Journaled τ) StoredValue.Reading) := by
  refine utters_requireStoredValue.bind fun _ => ?_
  have kept (reading : StoredValue.Reading) : Utters Event.KeepsOpen
      (modify fun session : Session (Journaled τ) => { session with reading := some reading }) :=
    utters_modify (by intros; rfl)
  cases bothLogs with
  | false =>
    exact (keepsOpen_fetchReading _).bind fun _ => (kept _).bind fun _ => utters_pure _
  | true =>
    exact (keepsOpen_fetchReading _).bind fun _ => (keepsOpen_fetchReading _).bind fun _ =>
      (kept _).bind fun _ => utters_pure _

theorem keepsOpen_changeValue (change : StoredValue.Change) :
    Utters Event.KeepsOpen (changeValue change : SessionM (Journaled τ) Unit) := by
  refine utters_requireStoredValue.bind fun _ => .get_bind fun _ => (utters_require _ _).bind fun _ =>
    (utters_ofExcept _).bind fun _ => (utters_modify (by intros; rfl)).bind fun _ =>
    (keepsOpen_consult _).orAbortOpened.bind fun _ =>
    (keepsOpen_exchangeValue (by cases change <;> rfl)).bind fun _ =>
    (utters_requireAccepted _ _).bind fun _ => .get_bind fun _ => ?_
  split
  · exact utters_modify (by intros; rfl)
  · exact (keepsOpen_consult _).bind fun _ => utters_require _ _

/-- No operation but the closing sends one. -/
theorem keepsOpen_perform {operation : Operation}
    (other : ∀ ratification, operation ≠ .closeSession ratification) :
    Utters Event.KeepsOpen (perform operation : SessionM (Journaled τ) Answer) := by
  cases operation with
  | openSession level reads => exact (keepsOpen_openSession level reads).bind fun _ => utters_pure _
  | batch commands => exact (keepsOpen_batch commands).bind fun _ => utters_pure _
  | closeSession ratification => exact absurd rfl (other ratification)
  | readValue operation bothLogs =>
    exact (keepsOpen_readValue operation bothLogs).bind fun _ => utters_pure _
  | changeValue change => exact (keepsOpen_changeValue change).bind fun _ => utters_pure _

theorem keepsOpen_ratify (ratification : Ratification) :
    Utters Event.KeepsOpen (ratify ratification : SessionM (Journaled τ) Unit) := by
  unfold ratify
  split
  · refine .tryCatch ?_ fun _ => utters_pure _
    exact .get_bind fun _ => (keepsOpen_exchange rfl).bind fun _ => utters_pure _
  · exact utters_pure _

theorem keepsOpen_checkOwed (postponed : List Bytes) :
    Utters Event.KeepsOpen (checkOwed postponed : SessionM (Journaled τ) Unit) := by
  refine .get_bind fun _ => ?_
  split
  · refine (utters_modify (by intros; rfl)).bind fun _ => ?_
    cases postponed with
    | nil => exact utters_throw _
    | cons signature rest => exact (keepsOpen_consult _).bind fun _ => utters_require _ _
  · exact utters_pure _

end Open

theorem closesSession_of_keepsOpen {entries : List Entry}
    (kept : ∀ entry ∈ entries, entry.event.KeepsOpen) :
    ∀ bytes ∈ entries.filterMap (·.event.sent?), closesSession bytes = false := by
  intro bytes member
  obtain ⟨⟨phase, event⟩, member, sent⟩ := List.mem_filterMap.mp member
  have kept := kept _ member
  cases event with
  | sam call answer => cases sent
  | card command answer =>
    cases sent
    exact kept

theorem closesSession_of_other {τ : Type} [Terminal τ] {session : Session (Journaled τ)}
    {operation : Operation} (other : ∀ ratification, operation ≠ .closeSession ratification) :
    ∀ bytes ∈ (session.turn operation).sent, closesSession bytes = false := by
  refine closesSession_of_keepsOpen ?_
  exact turn_of_ensures (p := fun _ _ more => ∀ entry ∈ more, entry.event.KeepsOpen)
    (keepsOpen_perform other session)

section Closing

variable {ρ κ : Type} [Reader ρ] [Reader κ]

theorem ensures_consult_signing (session : Session (Journaled (Bench ρ (Sam.Client κ))))
    {post : Postcondition (Journaled (Bench ρ (Sam.Client κ))) Bytes}
    (h : ∀ terminal, post session.terminal.terminal.sam.signing
      (session.note terminal [.sam .finalizeDigest session.terminal.terminal.sam.signing])) :
    Ensures (consult .finalizeDigest) session post := by
  obtain ⟨client, ran⟩ := session.terminal.terminal.sam.exists_run_finalizeDigest
  cases signing : session.terminal.terminal.sam.signing with
  | ok mac =>
    rw [signing] at h ran
    exact ensures_consult_of_ok (Bench.run_consult_of_ok ran) (h _)
  | error error =>
    rw [signing] at h ran
    exact ensures_consult_of_error (Bench.run_consult_of_error ran) (h _)

/-- What is signed with goes to the card, and no other closing does. -/
theorem ensures_concludeSession_signing (ratification : Ratification)
    (session : Session (Journaled (Bench ρ (Sam.Client κ))))
    {post : Postcondition (Journaled (Bench ρ (Sam.Client κ))) Unit}
    (unsigned : ∀ error terminal, session.terminal.terminal.sam.signing = .error error →
      post (.error error) (session.note terminal [.sam .finalizeDigest (.error error)]))
    (signed : ∀ mac answer outcome terminal after,
      session.terminal.terminal.sam.signing = .ok mac →
      Adds Event.KeepsOpen (session.note terminal
        (closingEvents session.identity.classByte ratification mac answer)) after →
      post outcome after) :
    Ensures (concludeSession ratification) session post := by
  simp only [concludeSession, ensures_bind, ensures_get, andThen_ok]
  apply ensures_consult_signing
  intro t₁
  cases told : session.terminal.terminal.sam.signing with
  | error error => exact unsigned error t₁ told
  | ok mac =>
  simp only [andThen_ok, ensures_bind]
  apply ensures_exchange
  rintro (error | response) t₂
  · rw [note_note]
    exact signed mac (.error error) _ t₂ _ told (adds_of_eq rfl)
  · rw [mapError_ok, andThen_ok, note_note]
    refine Utters.ensures (p := Event.KeepsOpen) ?_ fun outcome after =>
      signed mac (.ok response) outcome t₂ after told
    exact (utters_ofExcept _).bind fun closing => (keepsOpen_ratify _).bind fun _ =>
      (keepsOpen_consult _).bind fun _ => (utters_require _ _).bind fun _ =>
      (keepsOpen_checkOwed _).bind fun _ => utters_requireFaultless

/-- How the closing of a session goes, by the state of the session and what the security module signs
with. It goes to the card, whatever its length; without it nothing does. -/
inductive ClosingTurn (cla : UInt8) (ratification : Ratification) (state : State) :
    Except SessionError Bytes → Turn → State → Prop
  | refused (signing : Except SessionError Bytes) (unopened : state.phase ≠ .opened) :
    ClosingTurn cla ratification state signing
      ⟨state.phase, .closeSession ratification, .error (.illegalState .notOpened), []⟩ state
  | unsigned (opened : state.phase = .opened) (error : SessionError) :
    ClosingTurn cla ratification state (.error error)
      ⟨.opened, .closeSession ratification, .error error,
        [⟨.opened, .sam .finalizeDigest (.error error)⟩]⟩
      (state.fail error)
  | signed (opened : state.phase = .opened) (mac : Bytes) (answer : Except ReaderError Apdu.Response)
    (outcome : Except SessionError Answer) {more : List Entry}
    (behind : ∀ entry ∈ more, entry.event.KeepsOpen) (after : State) :
    ClosingTurn cla ratification state (.ok mac)
      ⟨.opened, .closeSession ratification, outcome,
        (closingEvents cla ratification mac answer).map (⟨.opened, ·⟩) ++ more⟩
      after

/-- The closings that go to the card in the turn carry what is signed with. -/
theorem ClosingTurn.eq_closeSession {cla : UInt8} {ratification : Ratification} {state after : State}
    {signing : Except SessionError Bytes} {turn : Turn}
    (h : ClosingTurn cla ratification state signing turn after) {bytes : Bytes}
    (member : bytes ∈ turn.sent) (closing : closesSession bytes = true) :
    state.phase = .opened ∧ ∃ mac, signing = .ok mac ∧
      bytes = (Apdu.Command.closeSession cla (ratification == .explicit) mac).toBytes := by
  cases h with
  | refused signing unopened => cases member
  | unsigned opened error => cases member
  | signed opened mac answer outcome behind after =>
    refine ⟨opened, mac, rfl, ?_⟩
    obtain rfl | member := List.mem_cons.mp member
    · rfl
    · rw [closesSession_of_keepsOpen behind bytes member] at closing
      cases closing

theorem closingTurn_turn (session : Session (Journaled (Bench ρ (Sam.Client κ))))
    (ratification : Ratification) :
    ClosingTurn session.identity.classByte ratification session.state
      session.terminal.terminal.sam.signing (session.turn (.closeSession ratification))
      (session.after (.closeSession ratification)).state := by
  refine turn_of_ensures (p := fun outcome after more =>
    ClosingTurn session.identity.classByte ratification session.state
      session.terminal.terminal.sam.signing
      ⟨session.state.phase, .closeSession ratification, outcome, more⟩ after.state) ?_
  rw [perform, ensures_bind, closeSession, ensures_bind]
  apply ensures_requirePhase
  case failed => exact fun unopened => ⟨[], (List.append_nil _).symm, .refused _ unopened⟩
  intro opened
  simp only [andThen_ok, ensures_bind, ensures_orAbort]
  apply ensures_concludeSession_signing
  · intro error terminal told
    rw [told]
    exact ⟨_, rfl, opened ▸ .unsigned opened error⟩
  · rintro mac answer outcome terminal after told ⟨more, grown, behind⟩
    have grown : after.terminal.entries = session.terminal.entries ++
        ((closingEvents session.identity.classByte ratification mac answer).map (⟨.opened, ·⟩) ++
          more) := by
      simpa [note, opened] using grown
    rw [told, opened]
    cases outcome <;> exact ⟨_, grown, .signed opened mac answer _ behind _⟩

/-- A challenge of the wrong length ends the opening, and the card does not hear of it. -/
theorem ensures_negotiate_challenged (level : AccessLevel) (address : RecordAddress)
    (session : Session (Journaled (Bench ρ (Sam.Client κ)))) {challenge : Bytes}
    (challenged : session.terminal.terminal.sam.Challenges session.identity.serial challenge)
    (length : challenge.length ≠ Sam.Client.challengeLength.toNat) :
    let error := .malformed (.samChallenge challenge.length)
    Ensures (negotiate level address) session fun outcome after =>
      outcome = .error error ∧ ∃ terminal, after = session.note terminal
        [.sam (.selectDiversifier session.identity.serial) (.ok ()),
          .sam .getChallenge (.error error)] := by
  obtain ⟨between, last, diversified, failed⟩ :=
    Sam.Client.exists_run_getChallenge challenged length
  simp only [negotiate, ensures_bind, ensures_get, andThen_ok]
  apply ensures_consult_of_ok (Bench.run_consult_of_ok diversified)
  simp only [andThen_ok, ensures_bind]
  apply ensures_consult_of_error (Bench.run_consult_of_error failed)
  exact ⟨rfl, _, note_note _ _ _ _ _⟩

theorem turn_openSession_of_challenged (session : Session (Journaled (Bench ρ (Sam.Client κ))))
    (closed : session.state.phase = .closed) (level : AccessLevel) {reads : List RecordAddress}
    (checked : checkReads reads = .ok ()) {challenge : Bytes}
    (challenged : session.terminal.terminal.sam.Challenges session.identity.serial challenge)
    (length : challenge.length ≠ Sam.Client.challengeLength.toNat) :
    let error := .malformed (.samChallenge challenge.length)
    session.turn (.openSession level reads) =
        ⟨.closed, .openSession level reads, .error error,
          [⟨.closed, .sam (.selectDiversifier session.identity.serial) (.ok ())⟩,
            ⟨.closed, .sam .getChallenge (.error error)⟩]⟩ ∧
      (session.after (.openSession level reads)).state = session.state.fail error := by
  intro error
  refine turn_of_ensures (p := fun outcome after more =>
    (⟨session.state.phase, .openSession level reads, outcome, more⟩ : Turn) = _ ∧ after.state = _) ?_
  rw [perform, ensures_bind]
  apply ensures_openSession
  · exact fun _ refused => absurd checked (refused closed)
  intro _ _
  refine (ensures_negotiate_challenged level (firstRead reads) session challenged length).imp ?_
  rintro _ _ ⟨rfl, terminal, rfl⟩
  refine ⟨_, rfl, ?_, rfl⟩
  rw [closed]
  rfl

/-- The signature with which sessions are closed, whatever the security module and the card answer. A
closing goes to the card only where an open session is closed, and with what the security module has
answered with success when it was asked for four bytes; so the signature is whole just if these are
four. If the security module does not sign, the closing fails and nothing goes to the card. An opening
fails likewise, but already for a challenge of the wrong length. -/
theorem run_signature (card : ρ) (reader : κ) (identity : Card.Identity) (settings : Settings)
    (operations : List Operation) :
    let session := run (new (⟨card, ⟨reader⟩⟩ : Bench ρ (Sam.Client κ)) identity settings) operations
    let sam := session.terminal.sam
    (∀ operation, ∀ bytes ∈ (session.journaled.turn operation).sent, closesSession bytes = true →
      ∃ ratification mac after, operation = .closeSession ratification ∧
        session.state.phase = .opened ∧
        Reader.transmit (Apdu.Command.digestClose Sam.Client.signatureLength).toBytes sam.reader =
          .ok ⟨mac, .success⟩ after ∧
        bytes =
          (Apdu.Command.closeSession identity.classByte (ratification == .explicit) mac).toBytes ∧
        (Apdu.Command.ClosesSigned bytes ↔ mac.length = Sam.Client.signatureLength.toNat)) ∧
    (∀ ratification,
      ClosingTurn identity.classByte ratification session.state sam.signing
        (session.journaled.turn (.closeSession ratification))
        (session.after (.closeSession ratification)).state) ∧
    (session.state.phase = .closed → ∀ level reads challenge, checkReads reads = .ok () →
      sam.Challenges identity.serial challenge →
      challenge.length ≠ Sam.Client.challengeLength.toNat →
      let error := .malformed (.samChallenge challenge.length)
      session.journaled.turn (.openSession level reads) =
          ⟨.closed, .openSession level reads, .error error,
            [⟨.closed, .sam (.selectDiversifier identity.serial) (.ok ())⟩,
              ⟨.closed, .sam .getChallenge (.error error)⟩]⟩ ∧
        (session.after (.openSession level reads)).state = session.state.fail error) := by
  intro session sam
  have same : session.identity = identity := identity_run _ identity settings operations
  have unnoted (operation) :
      (session.after operation).state = (session.journaled.after operation).state :=
    congrArg (·.state) (erase_run session.journaled [operation]).symm
  have closings (ratification) : ClosingTurn identity.classByte ratification session.state sam.signing
      (session.journaled.turn (.closeSession ratification))
      (session.after (.closeSession ratification)).state := by
    rw [unnoted, ← same]
    exact closingTurn_turn session.journaled ratification
  refine ⟨?_, closings, ?_⟩
  · intro operation bytes member closing
    by_cases closes : ∃ ratification, operation = .closeSession ratification
    · obtain ⟨ratification, rfl⟩ := closes
      obtain ⟨opened, mac, signed, rfl⟩ := (closings ratification).eq_closeSession member closing
      obtain ⟨after, answered⟩ := Sam.Client.exists_of_signing_eq_ok signed
      exact ⟨ratification, mac, after, rfl, opened, answered, rfl,
        Apdu.Command.closesSigned_closeSession_iff _ _ _⟩
    · rw [closesSession_of_other (not_exists.mp closes) bytes member] at closing
      cases closing
  · intro closed level reads challenge checked challenged length error
    rw [unnoted, ← same]
    exact turn_openSession_of_challenged session.journaled closed level checked
      (by rw [← same] at challenged; exact challenged) length

end Closing

/-- How a card answers the opening and the closing of a session without reads. -/
def briefAnswers : List Bytes :=
  [[0, 0, 0x2A, 0x5C, 0, 0x30, 0x79, 0, 0x90, 0x00], [1, 2, 3, 4, 0x90, 0x00]]

/-- The security module signs with four bytes. -/
def signingBench : Bench Script (Sam.Client Script) :=
  scripted briefAnswers [[0x90, 0x00], [1, 2, 3, 4, 0x90, 0x00], [0x90, 0x00],
    [0xD1, 0xD2, 0xD3, 0xD4, 0x90, 0x00], [0x90, 0x00]]

/-- The challenge of the security module is too short. -/
def challengingBench : Bench Script (Sam.Client Script) :=
  scripted briefAnswers [[0x90, 0x00], [1, 2, 3, 0x90, 0x00]]

/-- The card is given the four bytes. It does not hear of an opening whose challenge has three. -/
theorem run_signature_whole :
    let session := run (new signingBench sampleCard {}) [.openSession .debit []]
    let bytes := [0x00, 0x8E, 0x00, 0x00, 0x04, 0xD1, 0xD2, 0xD3, 0xD4, 0x00]
    let other := run (new challengingBench sampleCard {}) []
    bytes ∈ (session.journaled.turn (.closeSession .implicit)).sent ∧
      (∃ mac after,
        Reader.transmit (Apdu.Command.digestClose 4).toBytes session.terminal.sam.reader =
          .ok ⟨mac, .success⟩ after ∧
        bytes = (Apdu.Command.closeSession 0x00 false mac).toBytes) ∧
      checkReads [] = .ok () ∧ other.terminal.sam.Challenges sampleCard.serial [1, 2, 3] ∧
      (other.journaled.turn (.openSession .debit [])).outcome =
        .error (.malformed (.samChallenge 3)) := by
  intro session bytes other
  have member : bytes ∈ (session.journaled.turn (.closeSession .implicit)).sent := by
    decide +kernel
  have challenged : other.terminal.sam.Challenges sampleCard.serial [1, 2, 3] :=
    ⟨[], _, _, rfl, rfl⟩
  obtain ⟨closings, -, -⟩ := run_signature signingBench.card signingBench.sam.reader sampleCard {}
    [.openSession .debit []]
  obtain ⟨ratification, mac, after, same, -, answered, carried, -⟩ := closings _ bytes member rfl
  cases same
  obtain ⟨-, -, openings⟩ := run_signature challengingBench.card challengingBench.sam.reader
    sampleCard {} []
  have turn := (openings rfl .debit [] [1, 2, 3] rfl challenged (by decide)).1
  exact ⟨member, ⟨mac, after, answered, carried⟩, rfl, challenged, congrArg (·.outcome) turn⟩

/-- The security module answers with success when it is asked to sign, and with nothing else. The card
is sent a closing without any signature, and the session ends well all the same. -/
theorem run_signature_missing :
    let session := run (new (agreeableBench briefAnswers) sampleCard {}) [.openSession .debit []]
    let turn := session.journaled.turn (.closeSession .implicit)
    session.terminal.sam.signing.toOption = some [] ∧ turn.sent = [[0x00, 0x8E, 0x00, 0x00, 0x00]] ∧
      (session.after (.closeSession .implicit)).state.phase = .terminated .success := by
  decide +kernel

end Session

end FareTerminal
